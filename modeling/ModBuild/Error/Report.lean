import ModBuild.Error

/-!
# `ModBuild.Error.Report`: errors as a person sees them

A command fails with a `Failure`: a root cause and the texts or errors that were put around it on
the way out. A `Report` is what is shown of it: one error, perhaps details, perhaps a suggestion.

* `Failure.texts` lists the texts of a failure, outermost first.
* `Failure.report` finds the error that matters and what to say about it.
* `Report.display` and `Report.lines` write a report down.
-/

set_option autoImplicit false

namespace ModBuild

/-- One cause among those of a failure. -/
inductive Cause where
  | build (error : BuildError)
  | file (fault : FileFault)
  | text (message : String)
  /-- A cause with a text of its own that names the cause behind it. -/
  | foreign (message : String) (behind : Cause)
  deriving DecidableEq

namespace Cause

/-- The text of a cause, without what lies behind it. -/
def head : Cause → String
  | build error => error.message
  | file fault => fault.message
  | text message => message
  | foreign message _ => message

/-- The texts of a cause and of all that lies behind it. -/
def texts : Cause → List String
  | build error@(.fileSystem _ _ fault) => [error.message, fault.message]
  | build error => [error.message]
  | file fault => [fault.message]
  | text message => [message]
  | foreign message behind => message :: texts behind

/-- The error of the library that a cause is. -/
def build? : Cause → Option BuildError
  | build error => some error
  | _ => none

/-- The file fault that a cause is. -/
def file? : Cause → Option FileFault
  | file fault => some fault
  | _ => none

/-- The first error of the library on the way to the innermost cause. -/
def firstBuild? : Cause → Option BuildError
  | build error => some error
  | foreign _ behind => firstBuild? behind
  | _ => none

end Cause

/-- A root cause with what was put around it, outermost first. -/
structure Failure where
  contexts : List Cause
  root : Cause
  deriving DecidableEq

namespace Failure

/-- A failure with nothing around its cause. -/
def of (root : Cause) : Failure :=
  ⟨[], root⟩

/-- An error of the library as a failure. -/
def ofError (error : BuildError) : Failure :=
  of (.build error)

/-- Puts a cause around a failure. -/
def wrap (failure : Failure) (context : Cause) : Failure :=
  { failure with contexts := context :: failure.contexts }

/-- Puts a text around a failure. -/
def explain (failure : Failure) (context : String) : Failure :=
  failure.wrap (.text context)

/-- All the causes that a failure holds itself, outermost first. -/
def values (failure : Failure) : List Cause :=
  failure.contexts ++ [failure.root]

/-- All the texts of a failure, outermost first. What lies behind a cause counts for the root
only. -/
def texts (failure : Failure) : List String :=
  failure.contexts.map Cause.head ++ failure.root.texts

/-- The texts of a failure in one line. -/
def chain (failure : Failure) : String :=
  String.intercalate ": " failure.texts

/-- The chain, where it says more than one text does. -/
def chainDetails? (failure : Failure) : Option String :=
  if failure.texts.length > 1 then some failure.chain else none

end Failure

/-- What a person is shown of a failure. -/
structure Report where
  error : BuildError
  suggestion : Option String
  details : Option String
  deriving DecidableEq

namespace Report

/-- A report of an error alone. -/
def of (error : BuildError) : Report :=
  ⟨error, none, none⟩

/-- Sets the suggestion. -/
def withSuggestion (report : Report) (suggestion : String) : Report :=
  { report with suggestion := some suggestion }

/-- Sets the details. -/
def withDetails (report : Report) (details : String) : Report :=
  { report with details := some details }

/-- The text of a report, with one line for the details and one for the suggestion. -/
def display (report : Report) : String :=
  report.error.message ++
    (report.details.elim "" ("\nDetails: " ++ ·)) ++
    (report.suggestion.elim "" ("\nSuggestion: " ++ ·))

end Report

/-- Ways to set a word off on a terminal. -/
inductive Ink where
  | red
  | yellow
  | green
  deriving DecidableEq

namespace Ink

/-- The number that selects an ink. Red is bold too. -/
def code : Ink → String
  | red => "1;31"
  | yellow => "33"
  | green => "32"

/-- Sets a word in an ink, if colours are on. -/
def paint (ink : Ink) (colours : Bool) (word : String) : String :=
  if colours then "\x1b[" ++ ink.code ++ "m" ++ word ++ "\x1b[0m" else word

end Ink

namespace Report

/-- The report as it is written for a person, one line a part. -/
def lines (report : Report) (colours : Bool) : String :=
  let line (ink : Ink) (label text : String) := ink.paint colours label ++ ": " ++ text ++ "\n"
  line .red "error" report.error.message ++
    report.details.elim "" (line .yellow "details") ++
    report.suggestion.elim "" (line .green "suggestion")

end Report

namespace Failure

/-- What to do about a file fault that reached a person as it is. -/
def fileSuggestion? : FileFault.Kind → Option String
  | .permissionDenied =>
    some "Check file ownership and permissions of the cache and project directories"
  | .notFound => some "Check that the file or directory exists and the path is correct"
  | _ => none

/-- The report of a failure. The outermost error of the library among the causes is the one
reported, else the outermost file fault, else the chain as a whole, with the suggestion of the first
error of the library behind the root. -/
def report (failure : Failure) : Report :=
  match failure.values.findSome? Cause.build? with
  | some error => ⟨error, error.suggestion?, error.ownDetails?.or failure.chainDetails?⟩
  | none =>
    match failure.values.findSome? Cause.file? with
    | some fault =>
      ⟨.fileSystem "file access" "unknown" (.custom fault.kind fault.message),
        fileSuggestion? fault.kind, failure.chainDetails?⟩
    | none => ⟨.config failure.chain, failure.root.firstBuild?.bind BuildError.suggestion?, none⟩

end Failure

end ModBuild
