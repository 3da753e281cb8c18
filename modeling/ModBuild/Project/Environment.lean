import ModBuild.Error
import ModBuild.Files.Path

/-!
# `ModBuild.Project.Environment`: what a build finds around it

The variables that a build looks at, and the directory that copies of documents are kept in unless
the project names one.
-/

set_option autoImplicit false

namespace ModBuild

/-- The variables that a build looks at. -/
structure Environment where
  /-- The directory for copies of documents. -/
  cacheDir : Option String
  /-- The directory that all programs keep such copies in. -/
  sharedCacheDir : Option String
  /-- The directory of the person who runs the build. -/
  home : Option String
  /-- The directory that the system knows for that person. -/
  accountHome : Option String
  /-- How much is logged. -/
  log : Option String

namespace Environment

/-- The variable for the directory of copies. -/
def cacheDirName : String := "MCGRADLE_CACHE_DIR"

/-- The directory of the person who runs the build. A variable that is empty counts as missing. -/
def homeDir? (env : Environment) : Option String :=
  match env.home with
  | none | some "" => env.accountHome
  | some home => some home

/-- The directory that all programs keep copies in. A variable for it counts if it is absolute. -/
def platformCacheDir? (env : Environment) : Option String :=
  match env.sharedCacheDir.filter Path.isAbsolute with
  | some dir => some dir
  | none => env.homeDir?.map (Path.join · ".cache")

/-- The directory that copies are kept in. -/
def cacheRoot (env : Environment) : Except BuildError String :=
  match env.cacheDir.filter (· ≠ "") with
  | some dir => .ok dir
  | none =>
    match env.platformCacheDir? with
    | some dir => .ok (Path.join dir "mcgradle")
    | none => .error (.config ("Could not determine cache directory. Set " ++ cacheDirName ++
        " or [cache] dir.\n\nOn Linux: Check that the XDG_CACHE_HOME or HOME environment variable "
        ++ "is set"))

end Environment

end ModBuild
