import ModBuild.Files.Fault

/-!
# `ModBuild.Error`: what can go wrong in a build

Every operation of the library fails with a `BuildError`, a cause with the values that matter for
it. The wording is in `BuildError.message` alone.
-/

set_option autoImplicit false

namespace ModBuild

/-- Why an operation of the library fails. -/
inductive BuildError where
  /-- A replacement was registered under a text that is not a token. -/
  | invalidName (name : String)
  /-- No digest algorithm has this name. -/
  | unsupportedAlgorithm (algorithm : String)
  /-- A text does not have the form that is asked of it. -/
  | invalidFormat (template reason : String)
  /-- The context has no plugin instance. -/
  | notInitialized
  /-- A token has no replacement. -/
  | unresolvedToken (token : String) (suggestions : List String)
  /-- The manifest lists no such version. -/
  | unknownVersion (id : String) (suggestions : List String)
  /-- An expansion needs too many passes, or grows too long. -/
  | expansionLimit (template : String) (passes : Nat)
  /-- The second part of a version is not a number. -/
  | invalidVersion (version : String)
  /-- A file operation failed. -/
  | fileSystem (operation path : String) (fault : FileFault)
  /-- A document could not be fetched. -/
  | network (url reason : String)
  /-- A document does not read as what it should be. -/
  | invalidDocument (origin reason : String)
  /-- The project is not configured as it must be. -/
  | config (message : String)
  deriving DecidableEq

namespace BuildError

/-- The text of an error. -/
def message : BuildError → String
  | invalidName name => "Invalid replacement name " ++ name
  | unsupportedAlgorithm algorithm => "Unsupported hash algorithm: " ++ algorithm
  | invalidFormat template reason => "Invalid format string '" ++ template ++ "': " ++ reason
  | notInitialized => "Build context is not set up yet"
  | unresolvedToken token _ => "Invalid replacement " ++ token
  | unknownVersion id _ => "Unknown version " ++ id
  | expansionLimit template passes =>
    "Placeholder expansion of '" ++ template ++ "' did not settle (stopped after " ++
      toString passes ++ " passes)"
  | invalidVersion version => "Invalid version string: " ++ version
  | fileSystem operation path _ => "File system error during " ++ operation ++ ": " ++ path
  | network url reason => "Network error fetching " ++ url ++ ": " ++ reason
  | invalidDocument origin reason => "Invalid document " ++ origin ++ ": " ++ reason
  | config message => "Configuration error: " ++ message

/-- What a person may do about an error, where there is something to say. -/
def suggestion? : BuildError → Option String
  | invalidName _ => some "Replacement names look like @UPPER_SNAKE@"
  | unsupportedAlgorithm _ => some "Use one of SHA-1, SHA-224, SHA-256, SHA-384, SHA-512"
  | notInitialized => some "Make sure mcgradle.toml exists and has a [minecraft] version"
  | unresolvedToken _ [] => none
  | unknownVersion _ [] => some "Run 'mcgradle versions' to list known versions"
  | unresolvedToken _ similar | unknownVersion _ similar =>
    some ("Did you mean: " ++ String.intercalate ", " similar ++ "?")
  | network _ _ =>
    some "Check your connection; once a document has been fetched it is served from the cache"
  | _ => none

/-- What an error says of itself beyond its message. -/
def ownDetails? : BuildError → Option String
  | fileSystem _ _ fault => some fault.message
  | expansionLimit _ _ =>
    some "A replacement value probably references its own placeholder"
  | _ => none

end BuildError

end ModBuild
