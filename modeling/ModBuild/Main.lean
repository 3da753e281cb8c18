import ModBuild.CommandLine.Reach
import ModBuild.Files.Listing

/-!
# `ModBuild.Main`: the program

The program reads from the disk what its command looks at, carries the command out on that, puts
what has changed back on the disk, and prints what the command wrote. What is decided is decided in
`Command.run`; here are only the reading and the writing.

The program transfers nothing over the network, so it works with the copies that are on disk.
-/

set_option autoImplicit false

namespace ModBuild.CommandLine

/-! ### The disk -/

/-- A place as a path. -/
def pathOf (place : Place) : String :=
  "/" ++ String.intercalate "/" place

/-- What an open handle stands for. A directory opens but gives no bytes. -/
def entryBehind (handle : IO.FS.Handle) : IO Entry := do
  try
    return .file (← handle.readBinToEnd)
  catch _ =>
    return .directory

/-- What stands at a place of the disk. What cannot be opened counts as missing. -/
def entryOnDisk (place : Place) : IO (Option Entry) := do
  try
    return some (← entryBehind (← IO.FS.Handle.mk (pathOf place) .read))
  catch _ =>
    return none

/-- Adds what stands along paths of the disk. -/
def addFromDisk (cwd : Place) (files : FileTree) (paths : List String) : IO FileTree := do
  let mut files := files
  for place in paths.flatMap (FileTree.placesAlong cwd) do
    if let some entry ← entryOnDisk place then
      files := files.set place entry
  return files

/-- Puts an entry at a place of the disk. A file is written beside the place first, so that nobody
sees half of it. -/
def putOnDisk (place : Place) : Option Entry → IO Unit
  | none => IO.FS.removeFile (pathOf place)
  | some .directory => IO.FS.createDirAll (pathOf place)
  | some (.file content) => do
    let beside := pathOf place ++ ".new"
    IO.FS.writeBinFile beside content
    IO.FS.rename beside (pathOf place)

/-! ### A run -/

/-- The variables of the running program. -/
def environmentOfProcess : IO Environment := do
  return { cacheDir := ← IO.getEnv Environment.cacheDirName
           sharedCacheDir := ← IO.getEnv "XDG_CACHE_HOME"
           home := ← IO.getEnv "HOME"
           accountHome := none
           log := ← IO.getEnv "RUST_LOG" }

/-- What is printed when a command line is not carried out. -/
def usageText (usage : Usage) : String :=
  line (usage.message ++ "\n\nUsage: " ++ programName ++ " [OPTIONS] <COMMAND>")

/-- Carries out a command on the disk and prints what it writes. -/
def runOnDisk (options : Options) (command : Command) : IO UInt32 := do
  let output ← IO.getStdout
  let colours := (← output.isTty) && (← IO.getEnv "NO_COLOR").isNone
  let around : Surroundings := ⟨← environmentOfProcess, Http.connect, colours⟩
  let cwd := Path.parts (← IO.currentDir).toString
  let known ← addFromDisk cwd .empty (command.firstPaths options cwd)
  let files ← addFromDisk cwd known (command.nextPaths around options known cwd)
  let (after, outcome) := command.run around options files cwd
  for place in files.changed after do
    putOnDisk place (after.entry? place)
  output.putStr outcome.output
  match outcome.result with
  | .ok () => return 0
  | .error failure =>
    (← IO.getStderr).putStr (failure.report.lines colours)
    return 1

end ModBuild.CommandLine

open ModBuild.CommandLine in
/-- Reads the command line and carries it out. -/
def main (words : List String) : IO UInt32 := do
  match ofWords words with
  | .ok (options, command) => runOnDisk options command
  | .error .version =>
    (← IO.getStdout).putStr versionLine
    return 0
  | .error .help =>
    (← IO.getStdout).putStr (usageText .help)
    return 0
  | .error usage =>
    (← IO.getStderr).putStr (usageText usage)
    return 2
