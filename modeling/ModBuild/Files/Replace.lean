import ModBuild.Files.Store

/-!
# `ModBuild.Files.Replace`: replacing a file as a whole

New content is written to a temporary file beside the old one, which is then moved over it in one
step. So the file holds its old content up to that step and its new content from then on, and a
failure on the way leaves it alone. The temporary file goes in any case.

* `ReplaceStep` are the steps, and `replaceSteps` their order.
* `Replacing.step` takes a step, and `Replacing.stopped` is what one leaves that stops on its way.
* `Replacing.run` takes all steps and keeps every state in between.
* `FileTree.replaceFile` is the outcome of a run, and `Disk.replaceFile` that of one on a disk,
  which may have reasons of its own to stop it.
-/

set_option autoImplicit false

namespace ModBuild

/-- The steps of replacing a file. -/
inductive ReplaceStep where
  /-- Makes the directory that the file stands in. -/
  | findDir
  /-- Makes an empty temporary file in it. -/
  | makeTemporary
  /-- Writes the content to the temporary file. -/
  | write
  /-- Waits until the content is on the disk. -/
  | sync
  /-- Moves the temporary file over the target. -/
  | move
  deriving DecidableEq

/-- The order of the steps. -/
def replaceSteps : List ReplaceStep :=
  [.findDir, .makeTemporary, .write, .sync, .move]

/-- A fault that stops a step for reasons of its own, and how much the step has left to do then: the
number of directories to make, or of bytes to write. -/
structure StepFault where
  fault : FileFault
  left : Nat

/-- What is replaced: a path as seen from a directory, and the content that it is to have. -/
structure Replacement where
  cwd : Place
  path : String
  content : ByteArray

/-- Between two steps: the files, and the temporary file among them if there is one. -/
structure Replacing where
  tree : FileTree
  temporary : Option Place

namespace Replacement

/-- The directory of the temporary file. -/
def dir (r : Replacement) : String :=
  match Path.parent? r.path with
  | none | some "" => "."
  | some parent => parent

/-- The name of the file, if the path ends in one. -/
def name? (r : Replacement) : Option String :=
  (Path.parts r.path).getLast?

end Replacement

namespace FileTree

/-- The name of the temporary file with a number. -/
def temporaryName (n : Nat) : String :=
  ".tmp" ++ toString n

/-- A name for a temporary file that is not in use in a directory, and is not the one that a file
there is about to have. One of the first numbers will do, as there are more of them than entries and
that name. -/
def freshName (tree : FileTree) (dir : Place) (wanted? : Option String) : String :=
  let unused (n : Nat) : Bool :=
    (tree.entry? (dir ++ [temporaryName n])).isNone && wanted? ≠ some (temporaryName n)
  temporaryName (((List.range (tree.entries.length + 2)).find? unused).getD 0)

/-- The place of a directory that is there. -/
def dirPlace (tree : FileTree) (cwd : Place) (path : String) : Except FileFault Place :=
  match tree.locate cwd (Path.join path ".") with
  | .ok target => .ok target.dir
  | .error fault => .error fault

end FileTree

namespace Replacing

/-- Removes the temporary file if there is one. -/
def cleaned (state : Replacing) : Replacing :=
  match state.temporary with
  | some place => ⟨state.tree.erase place, none⟩
  | none => state

/-- The name of a step in an error. -/
def stepName : ReplaceStep → String
  | .findDir => "create directory"
  | .makeTemporary => "create temp file"
  | .write => "write temp file"
  | .sync => "sync temp file"
  | .move => "replace file"

/-- The path that an error of a step names. -/
def stepPath (r : Replacement) (state : Replacing) : ReplaceStep → String
  | .findDir | .makeTemporary => r.dir
  | .write | .sync =>
    Path.join r.dir ((state.temporary.bind List.getLast?).getD "")
  | .move => r.path

/-- Takes a step. -/
def step (r : Replacement) (state : Replacing) (s : ReplaceStep) :
    Replacing × Except BuildError Unit :=
  let outcome {α : Type} (result : Except FileFault α) (next : α → Replacing) :
      Replacing × Except BuildError Unit :=
    match result with
    | .ok a => (next a, .ok ())
    | .error fault => (state, .error (.fileSystem (stepName s) (stepPath r state s) fault))
  match s, state.temporary with
  | .findDir, _ =>
    let (tree, result) := state.tree.ensureDir r.cwd r.dir
    (⟨tree, state.temporary⟩, result)
  | .makeTemporary, _ =>
    outcome (state.tree.dirPlace r.cwd r.dir) fun dir =>
      let place := dir ++ [state.tree.freshName dir r.name?]
      ⟨state.tree.set place (.file .empty), some place⟩
  | .write, some place => (⟨state.tree.set place (.file r.content), some place⟩, .ok ())
  | .move, some place =>
    outcome (state.tree.rename r.cwd place r.path) fun tree => ⟨tree, none⟩
  | _, _ => (state, .ok ())

/-- The state that a step leaves which stops on its way. Directories are made from the outermost on,
and bytes are written from the first on. -/
def stopped (r : Replacement) (state : Replacing) (s : ReplaceStep) (left : Nat) : Replacing :=
  match s, state.temporary with
  | .findDir, _ =>
    ⟨(state.tree.makeDirs r.cwd ((Path.ancestors r.dir).drop left)).1, state.temporary⟩
  | .write, some place =>
    ⟨state.tree.set place (.file (r.content.extract 0 (r.content.size - left))), some place⟩
  | _, _ => state

/-- Takes steps until one fails, where `broken` gives steps a reason of their own to fail. The
states after each step are kept, the last one first, and the last of all has no temporary file. -/
def run (r : Replacement) (broken : ReplaceStep → Option StepFault) :
    List ReplaceStep → (past : List Replacing) → Replacing →
    List Replacing × Replacing × Except BuildError Unit
  | [], past, state => (past, state, .ok ())
  | s :: rest, past, state =>
    match broken s with
    | some stop =>
      let next := state.stopped r s stop.left
      (next :: state :: past, next.cleaned,
        .error (.fileSystem (stepName s) (stepPath r state s) stop.fault))
    | none =>
      match state.step r s with
      | (next, .ok ()) => run r broken rest (state :: past) next
      | (next, .error error) => (next :: state :: past, next.cleaned, .error error)

end Replacing

namespace FileTree

/-- Replaces the content of a file, or makes the file, with the directory that it stands in. Steps
stop where they are given a reason to. -/
def replaceFile (tree : FileTree) (cwd : Place) (path : String) (content : ByteArray)
    (broken : ReplaceStep → Option StepFault := fun _ => none) :
    FileTree × Except BuildError Unit :=
  let (_, last, result) := Replacing.run ⟨cwd, path, content⟩ broken replaceSteps [] ⟨tree, none⟩
  (last.tree, result)

end FileTree

/-- A disk: the files on it, and the reasons that it has to stop steps of replacing the file at a
path, such as that it is full or denies access. -/
structure Disk where
  files : FileTree
  stops : String → ReplaceStep → Option StepFault

namespace Disk

/-- A disk that stops nothing. -/
def sound (files : FileTree) : Disk :=
  ⟨files, fun _ _ => none⟩

instance : Coe FileTree Disk := ⟨sound⟩

/-- Replaces the content of a file on the disk, unless the disk stops it. -/
def replaceFile (disk : Disk) (cwd : Place) (path : String) (content : ByteArray) :
    Disk × Except BuildError Unit :=
  let (files, result) := disk.files.replaceFile cwd path content (disk.stops path)
  ({ disk with files }, result)

end Disk

end ModBuild
