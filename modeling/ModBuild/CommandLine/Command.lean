import ModBuild.CommandLine.Grammar

/-!
# `ModBuild.CommandLine.Command`: the commands of the program

The commands resolve templates, list versions, show the document of a version, print digests, and
look after the copies on disk.

* `grammar` says what a command line looks like.
* `CommandLine.ofWords` reads one.
-/

set_option autoImplicit false

namespace ModBuild.CommandLine

/-- What is to be done. -/
inductive Command where
  /-- Resolves a template with arguments. -/
  | resolve (template : String) (arguments : List String)
  /-- Lists the versions, or those of a kind. -/
  | versions (kind : Option String)
  /-- Shows the document of the project's version, or one value of it. -/
  | versionInfo (key : Option String)
  /-- Prints the digest of a file. -/
  | hash (file algorithm : String)
  /-- Shows where the copies are. -/
  | cacheInfo
  /-- Removes the copies. -/
  | cacheClean
  deriving DecidableEq

/-- What holds for every command. -/
structure Options where
  verbose : Bool
  quiet : Bool
  /-- The file with the settings of the project. -/
  config : Option String
  projectDir : Option String
  deriving DecidableEq

/-- The level that the options ask to be logged. -/
def Options.logLevel? (options : Options) : Option String :=
  if options.verbose then some "debug"
  else if options.quiet then some "error"
  else none

/-- The options of every command. -/
def commonSwitches : List Switch :=
  [⟨"verbose", some 'v', .flag⟩, ⟨"quiet", some 'q', .flag⟩, ⟨"config", some 'c', .path⟩,
    ⟨"project-dir", none, .path⟩, ⟨"help", some 'h', .help⟩]

/-- The grammar of a command. -/
def commandGrammar (name : String) (switches : List Switch) (positions : List Position)
    (commands : List Grammar) : Grammar :=
  .mk name (switches ++ commonSwitches) positions commands

/-- The name of the program. -/
def programName : String := "mcgradle"

/-- The grammar of the program. -/
def grammar : Grammar :=
  commandGrammar programName [⟨"version", some 'V', .version⟩] []
    [commandGrammar "resolve" [] [⟨"template", .text, false⟩, ⟨"args", .text, true⟩] [],
      commandGrammar "versions" [⟨"type", none, .text⟩] [] [],
      commandGrammar "version-info" [⟨"key", none, .text⟩] [] [],
      commandGrammar "hash" [⟨"algorithm", some 'a', .text⟩] [⟨"file", .path, false⟩] [],
      commandGrammar "cache" [] []
        [commandGrammar "info" [] [] [], commandGrammar "clean" [] [] []]]

/-- Options that exclude each other. -/
def exclusions : List (String × String) :=
  [("verbose", "quiet")]

/-- What the version of the program is shown as. -/
def versionLine : String := programName ++ " 0.3.0\n"

/-- The algorithm of a digest unless another is named. -/
def standardAlgorithm : String := "SHA-1"

/-- The command that was given. -/
def Given.command? (given : Given) : Option Command :=
  match given.commands.drop 1 with
  | ["resolve"] => (given.first? "template").map (.resolve · (given.all "args"))
  | ["versions"] => some (.versions (given.first? "type"))
  | ["version-info"] => some (.versionInfo (given.first? "key"))
  | ["hash"] =>
    (given.first? "file").map (.hash · ((given.first? "algorithm").getD standardAlgorithm))
  | ["cache", "info"] => some .cacheInfo
  | ["cache", "clean"] => some .cacheClean
  | _ => none

/-- The options that were given. -/
def Given.options (given : Given) : Options :=
  ⟨given.has "verbose", given.has "quiet", given.first? "config", given.first? "project-dir"⟩

/-- Reads the words of a command line behind the name of the program. -/
def ofWords (words : List String) : Except Usage (Options × Command) :=
  match grammar.read exclusions words with
  | .error usage => .error usage
  | .ok given =>
    match given.command? with
    | some command => .ok (given.options, command)
    | none => .error .missingCommand

end ModBuild.CommandLine
