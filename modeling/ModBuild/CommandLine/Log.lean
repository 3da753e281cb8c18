import ModBuild.Text.Decimal
import ModBuild.Text.Ranges

/-!
# `ModBuild.CommandLine.Log`: how much is logged

A filter is a list of directives with commas between them: a level for everything, a target that is
logged in full, or a level for a target. A filter that does not read as one counts as missing.

* `Log.filterText` is the filter in its settled form.
-/

set_option autoImplicit false

namespace ModBuild.Log

/-- The levels, from nothing to everything. -/
def levels : List String :=
  ["off", "error", "warn", "info", "debug", "trace"]

/-- The level that logs everything. -/
def everything : String := "trace"

/-- The level of a filter without directives. -/
def emptyLevel : String := "error"

/-- The level that a text gives, by name or by number. -/
def level? (s : List Char) : Option String :=
  match (Text.signedNatural? levels.length s).bind (levels[·]?) with
  | some level => some level
  | none =>
    if s = [] then some emptyLevel
    else levels.find? fun level => level.toList = s.map Char.toLower

/-- What is logged of a target, or of everything. -/
structure Directive where
  target : Option String
  level : String

/-- The directive that a text gives. -/
def directive? (s : List Char) : Option Directive :=
  let isStart (c : Char) : Bool := c.isAlphanum || 128 ≤ c.toNat || c = '-' || c = ':' || c = '_'
  if !(s.head?.all isStart) || s.any (fun c => c = '[' || c = ']') then none
  else
    match s.takeWhile (· ≠ '='), s.dropWhile (· ≠ '=') with
    | whole, [] =>
      match level? whole with
      | some level => some ⟨none, level⟩
      | none => some ⟨some (String.ofList whole), everything⟩
    | target, _ :: level =>
      (if level = [] then some everything else level? level).map fun level =>
        ⟨some (String.ofList target), level⟩

/-- A directive comes before another: the longer target first, and of equally long ones the greater.
A directive for everything is last. -/
def comesBefore (a b : Directive) : Bool :=
  match a.target, b.target with
  | some s, some t =>
    s.utf8ByteSize > t.utf8ByteSize || (s.utf8ByteSize = t.utf8ByteSize && t < s)
  | some _, none => true
  | none, _ => false

/-- Puts a directive among others in order, in place of the one for the same target. -/
def putDirective (d : Directive) : List Directive → List Directive
  | [] => [d]
  | e :: rest =>
    if d.target = e.target then d :: rest
    else if comesBefore d e then d :: e :: rest
    else e :: putDirective d rest

/-- A directive as text. -/
def Directive.text (d : Directive) : String :=
  d.target.elim "" (· ++ "=") ++ d.level

/-- A filter in its settled form, if it reads as one. -/
def settled? (filter : String) : Option String :=
  let parts := (Text.cutAt (· = ',') filter.toList).filter (· ≠ [])
  (parts.mapM directive?).map fun directives =>
    match directives.foldl (fun done d => putDirective d done) [] with
    | [] => emptyLevel
    | done => String.intercalate "," (done.map Directive.text)

/-- The level that is logged where nothing says otherwise. -/
def standard : String := "info"

/-- The filter in its settled form: the forced level, else the one that the environment gives. -/
def filterText (forced environment : Option String) : String :=
  match forced with
  | some level => level
  | none => (environment.bind settled?).getD standard

end ModBuild.Log
