import ModBuild.Template.Similar
import ModBuild.Template.Table

/-!
# `ModBuild.Template.Expand`: replacing tokens until none is left

A pass replaces every token of a text by its value. Values may hold tokens, so passes follow until
no token is left. Two limits end an expansion that would not settle: a number of passes, and a
length in bytes that is checked behind every value.

* `substitute` is one pass over the pieces of a text.
* `settle` repeats passes, `expand` starts it with all of them left.
-/

set_option autoImplicit false

namespace ModBuild.Template

/-- The number of passes after which an expansion is given up. -/
def maxPasses : Nat := 32

/-- The length in bytes beyond which an expansion is given up. -/
def maxLength : Nat := 1048576

/-- Why a pass stops. -/
inductive PassStop where
  /-- The token is not registered. -/
  | unregistered (token : String)
  /-- The text is too long behind a value. -/
  | tooLong
  deriving DecidableEq

/-- Replaces the tokens among pieces, behind what is written already, which is held last character
first and is `size` bytes long. -/
def substituteOnto (table : Table) (written : List Char) (size : Nat) :
    List Piece → Except PassStop (List Char)
  | [] => .ok written.reverse
  | .char c :: rest => substituteOnto table (c :: written) (size + c.utf8Size) rest
  | .token letters :: rest =>
    let token := String.ofList (tokenText letters)
    match table.find? token with
    | none => .error (.unregistered token)
    | some value =>
      let size := size + value.utf8ByteSize
      if size > maxLength then .error .tooLong
      else substituteOnto table (value.toList.reverseAux written) size rest

/-- One pass: every token of a text replaced by its value. -/
def substitute (table : Table) (s : List Char) : Except PassStop (List Char) :=
  substituteOnto table [] 0 (pieces s)

/-- The error for a token without a replacement, which suggests names that are registered. -/
def unresolved (table : Table) (token : String) : BuildError :=
  .unresolvedToken token (similarNames token table.names)

/-- Repeats passes while tokens are left, as many as are allowed. -/
def settle (table : Table) (template : String) :
    (left : Nat) → List Char → Except BuildError (List Char)
  | 0, s =>
    if hasToken s then .error (.expansionLimit template maxPasses) else .ok s
  | left + 1, s =>
    if hasToken s then
      match substitute table s with
      | .ok s => settle table template left s
      | .error (.unregistered token) => .error (unresolved table token)
      | .error .tooLong => .error (.expansionLimit template (maxPasses - left))
    else .ok s

/-- A template with all its tokens replaced. -/
def expand (table : Table) (template : String) : Except BuildError String :=
  (settle table template maxPasses template.toList).map String.ofList

end ModBuild.Template
