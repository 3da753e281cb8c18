import ModBuild.Files.Fault
import ModBuild.Files.Path

/-!
# `ModBuild.Files.Tree`: files and directories

A file tree says what stands at each place, a place being the names on the way from the root. A walk
along a path goes from directory to directory and fails where there is none. There are no links, and
nothing is denied.

* `FileTree.locate` walks along a path up to its last name.
* `stat`, `read`, `makeDir`, `unlink` and `rename` are what can be done there.
-/

set_option autoImplicit false

namespace ModBuild

/-- What stands at a place. -/
inductive Entry where
  | file (content : ByteArray)
  | directory

instance : DecidableEq Entry
  | .directory, .directory => .isTrue rfl
  | .directory, .file _ => .isFalse nofun
  | .file _, .directory => .isFalse nofun
  | .file a, .file b =>
    match ByteArray.instDecidableEq a b with
    | .isTrue h => .isTrue (h ▸ rfl)
    | .isFalse h => .isFalse fun e => h (Entry.file.inj e)

/-- The names on the way from the root. -/
abbrev Place := List String

/-- Files and directories by place. The root is always a directory. -/
structure FileTree where
  entries : List (Place × Entry)

namespace FileTree

/-- A tree with nothing but the root. -/
def empty : FileTree :=
  ⟨[]⟩

/-- What stands at a place. -/
def entry? (tree : FileTree) (place : Place) : Option Entry :=
  if place = [] then some .directory else tree.entries.lookup place

/-- The tree without what stands at a place. -/
def erase (tree : FileTree) (place : Place) : FileTree :=
  ⟨tree.entries.filter (·.1 ≠ place)⟩

/-- The tree with an entry at a place. -/
def set (tree : FileTree) (place : Place) (entry : Entry) : FileTree :=
  ⟨(place, entry) :: (tree.erase place).entries⟩

/-- What the last name of a path means. -/
inductive LastName where
  | name (text : String)
  | here
  | above
  | root
  deriving DecidableEq

/-- Where a path leads: a directory, the last name in it, and whether a slash follows. -/
structure Target where
  dir : Place
  last : LastName
  slash : Bool
  deriving DecidableEq

/-- The greatest number of bytes in a name. -/
def maxName : Nat := 255

/-- The greatest number of bytes in a path. -/
def maxPath : Nat := 4095

/-- What a name in a directory leads to. -/
def child (tree : FileTree) (dir : Place) (name : String) : Except FileFault Entry :=
  if name.utf8ByteSize > maxName then .error (.os Errno.nameTooLong)
  else
    match tree.entry? (dir ++ [name]) with
    | some entry => .ok entry
    | none => .error (.os Errno.noEntry)

/-- Walks along all the names but the last. -/
def walk (tree : FileTree) : Place → List String → Except FileFault (Place × LastName)
  | dir, [] => .ok (dir, .root)
  | dir, ["."] => .ok (dir, .here)
  | dir, [".."] => .ok (dir, .above)
  | dir, [name] => .ok (dir, .name name)
  | dir, "." :: rest => walk tree dir rest
  | dir, ".." :: rest => walk tree dir.dropLast rest
  | dir, name :: rest =>
    match tree.child dir name with
    | .ok .directory => walk tree (dir ++ [name]) rest
    | .ok (.file _) => .error (.os Errno.notDirectory)
    | .error fault => .error fault

/-- The places that a walk along names meets. -/
def met : Place → List String → List Place
  | _, [] => []
  | dir, "." :: rest => met dir rest
  | dir, ".." :: rest => met dir.dropLast rest
  | dir, name :: rest => (dir ++ [name]) :: met (dir ++ [name]) rest

/-- The directory that a walk along a path starts in. -/
def startOf (cwd : Place) (path : String) : Place :=
  if Path.isAbsolute path then [] else cwd

/-- The places that a walk along a path meets. -/
def placesAlong (cwd : Place) (path : String) : List Place :=
  met (startOf cwd path) (Path.parts path)

/-- Finds the place that a path leads to from a directory. -/
def locate (tree : FileTree) (cwd : Place) (path : String) : Except FileFault Target :=
  if path.toList.any (·.toNat = 0) then .error .nulInName
  else if path = "" then .error (.os Errno.noEntry)
  else if path.utf8ByteSize > maxPath then .error (.os Errno.nameTooLong)
  else
    match tree.walk (startOf cwd path) (Path.parts path) with
    | .ok (dir, last) => .ok ⟨dir, last, Path.endsInSlash path⟩
    | .error fault => .error fault

/-- What stands at the target of a path. A slash at the end asks for a directory. -/
def statTarget (tree : FileTree) (target : Target) : Except FileFault Entry :=
  match target.last with
  | .name name =>
    match tree.child target.dir name with
    | .ok (.file content) =>
      if target.slash then .error (.os Errno.notDirectory) else .ok (.file content)
    | result => result
  | _ => .ok .directory

/-- What stands at the end of a path. -/
def stat (tree : FileTree) (cwd : Place) (path : String) : Except FileFault Entry :=
  match tree.locate cwd path with
  | .ok target => tree.statTarget target
  | .error fault => .error fault

/-- Something stands at the end of the path. -/
def isThere (tree : FileTree) (cwd : Place) (path : String) : Bool :=
  (tree.stat cwd path).isOk

/-- A file stands at the end of the path. -/
def isFile (tree : FileTree) (cwd : Place) (path : String) : Bool :=
  match tree.stat cwd path with
  | .ok (.file _) => true
  | _ => false

/-- A directory stands at the end of the path. -/
def isDir (tree : FileTree) (cwd : Place) (path : String) : Bool :=
  match tree.stat cwd path with
  | .ok .directory => true
  | _ => false

/-- The content of the file at the end of a path. -/
def read (tree : FileTree) (cwd : Place) (path : String) : Except FileFault ByteArray :=
  match tree.stat cwd path with
  | .ok (.file content) => .ok content
  | .ok .directory => .error (.os Errno.isDirectory)
  | .error fault => .error fault

/-- Makes a directory in a directory that is there. -/
def makeDir (tree : FileTree) (cwd : Place) (path : String) : Except FileFault FileTree :=
  match tree.locate cwd path with
  | .error fault => .error fault
  | .ok target =>
    match target.last with
    | .name name =>
      match tree.child target.dir name with
      | .ok _ => .error (.os Errno.alreadyThere)
      | .error (.os Errno.noEntry) => .ok (tree.set (target.dir ++ [name]) .directory)
      | .error fault => .error fault
    | _ => .error (.os Errno.alreadyThere)

/-- Removes the file at the end of a path. -/
def unlink (tree : FileTree) (cwd : Place) (path : String) : Except FileFault FileTree :=
  match tree.locate cwd path with
  | .error fault => .error fault
  | .ok target =>
    match target.last with
    | .name name =>
      match tree.child target.dir name with
      | .ok .directory => .error (.os Errno.isDirectory)
      | .ok (.file _) =>
        if target.slash then .error (.os Errno.notDirectory)
        else .ok (tree.erase (target.dir ++ [name]))
      | .error fault => .error fault
    | _ => .error (.os Errno.isDirectory)

/-- Moves the file at a place to the end of a path, over a file that stands there. -/
def rename (tree : FileTree) (cwd : Place) (source : Place) (path : String) :
    Except FileFault FileTree :=
  match tree.entry? source, tree.locate cwd path with
  | some (.file content), .ok target =>
    match target.last with
    | .name name =>
      match tree.child target.dir name with
      | .error (.os Errno.nameTooLong) => .error (.os Errno.nameTooLong)
      | found =>
        if target.slash then .error (.os Errno.notDirectory)
        else if found matches .ok .directory then .error (.os Errno.isDirectory)
        else .ok ((tree.erase source).set (target.dir ++ [name]) (.file content))
    | _ => .error (.os Errno.busy)
  | some (.file _), .error fault => .error fault
  | _, _ => .error (.os Errno.noEntry)

end FileTree

end ModBuild
