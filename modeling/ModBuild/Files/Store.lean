import ModBuild.Digest.Algorithm
import ModBuild.Files.Tree

/-!
# `ModBuild.Files.Store`: what the library does with files

The operations on files that the library is built on. Each failure names the operation and the path
that it was asked for.

* `ensureDir` makes a directory with all those above it.
* `readText` and `hashFile` read a file, `removeIfThere` removes one.
-/

set_option autoImplicit false

namespace ModBuild.FileTree

/-- Makes the first of some directories, given that each of them is in the next. What was made
stays, also if a later one cannot be made. -/
def makeDirs (cwd : Place) : List String → FileTree → FileTree × Except FileFault Unit
  | [], tree => (tree, .ok ())
  | path :: above, tree =>
    match tree.makeDir cwd path with
    | .ok tree => (tree, .ok ())
    | .error (.os Errno.noEntry) =>
      match makeDirs cwd above tree with
      | (tree, .error fault) => (tree, .error fault)
      | (tree, .ok ()) =>
        match tree.makeDir cwd path with
        | .ok tree => (tree, .ok ())
        | .error fault => (tree, settled tree path fault)
    | .error fault => (tree, settled tree path fault)
where
  /-- A directory that is there already is as good as one made. -/
  settled (tree : FileTree) (path : String) (fault : FileFault) : Except FileFault Unit :=
    if fault = .os Errno.alreadyThere && tree.isDir cwd path then .ok () else .error fault

/-- Why a directory cannot be where something else is. -/
def inTheWay : FileFault :=
  .custom .alreadyExists "path exists but is not a directory"

/-- Makes a directory and those above it, unless it is there. -/
def ensureDir (tree : FileTree) (cwd : Place) (path : String) :
    FileTree × Except BuildError Unit :=
  let failed (fault : FileFault) : Except BuildError Unit :=
    .error (.fileSystem "create directory" path fault)
  match tree.stat cwd path with
  | .ok .directory => (tree, .ok ())
  | .ok (.file _) => (tree, failed inTheWay)
  | .error _ =>
    match makeDirs cwd (Path.ancestors path) tree with
    | (tree, .ok ()) => (tree, .ok ())
    | (tree, .error fault) => (tree, failed fault)

/-- The text of a file. -/
def readText? (tree : FileTree) (cwd : Place) (path : String) : Except FileFault String :=
  match tree.read cwd path with
  | .error fault => .error fault
  | .ok content =>
    match String.fromUTF8? content with
    | some text => .ok text
    | none => .error .notUtf8

/-- The text of a file, or an error that names it. -/
def readText (tree : FileTree) (cwd : Place) (path : String) : Except BuildError String :=
  match tree.readText? cwd path with
  | .ok text => .ok text
  | .error fault => .error (.fileSystem "read file" path fault)

/-- Removes a file if it is there, and tells whether it was. -/
def removeIfThere (tree : FileTree) (cwd : Place) (path : String) :
    Except BuildError (FileTree × Bool) :=
  match tree.unlink cwd path with
  | .ok tree => .ok (tree, true)
  | .error fault =>
    if fault.kind = .notFound then .ok (tree, false)
    else .error (.fileSystem "remove file" path fault)

/-- The digest of a file, as hexadecimal text. The algorithm is looked up before the file. -/
def hashFile (tree : FileTree) (cwd : Place) (path algorithm : String) :
    Except BuildError String :=
  match Digest.Algorithm.ofSpelling algorithm with
  | .error error => .error error
  | .ok algorithm =>
    match tree.read cwd path with
    | .ok content => .ok (algorithm.hexDigest content)
    | .error fault => .error (.fileSystem "read file for hashing" path fault)

end ModBuild.FileTree
