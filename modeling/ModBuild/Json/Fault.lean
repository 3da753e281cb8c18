import ModBuild.Json.Value
import ModBuild.Template.Token
import ModBuild.Text.Quoted

/-!
# `ModBuild.Json.Fault`: why a text does not read as a document

A fault is found where the reader stands, behind the characters it has taken. Faults about the next
character are told as if it had been taken. `Fault.message` adds the line and the column of that
place, counted in bytes.
-/

set_option autoImplicit false

namespace ModBuild.Json

/-- What was found in place of what was asked for. -/
inductive Found where
  | null
  | bool (b : Bool)
  | number (n : Number)
  | string (s : String)
  | sequence
  | map

/-- Why a text does not read. -/
inductive Reason where
  | eofValue
  | eofString
  | eofList
  | eofObject
  | expectedColon
  | expectedListEnd
  | expectedObjectEnd
  | expectedIdent
  | expectedValue
  | invalidEscape
  | invalidNumber
  | outOfRange
  | controlCharacter
  | keyNotString
  | loneSurrogate
  | trailingComma
  | trailingCharacters
  | unexpectedEscapeEnd
  | tooDeep
  | missingField (name : String)
  | duplicateField (name : String)
  | wrongLength (count : Nat) (expected : String)
  | wrongType (found : Found) (expected : String)

/-- The text of what was found. -/
def Found.text : Found → String
  | null => "null"
  | bool b => "boolean `" ++ (if b then "true" else "false") ++ "`"
  | number (.float x) => "floating point `" ++ (Number.float x).text ++ "`"
  | number n => "integer `" ++ n.text ++ "`"
  | string s => "string " ++ Text.quoted s
  | sequence => "sequence"
  | map => "map"

/-- The text of a reason. -/
def Reason.text : Reason → String
  | eofValue => "EOF while parsing a value"
  | eofString => "EOF while parsing a string"
  | eofList => "EOF while parsing a list"
  | eofObject => "EOF while parsing an object"
  | expectedColon => "expected `:`"
  | expectedListEnd => "expected `,` or `]`"
  | expectedObjectEnd => "expected `,` or `\x7d`"
  | expectedIdent => "expected ident"
  | expectedValue => "expected value"
  | invalidEscape => "invalid escape"
  | invalidNumber => "invalid number"
  | outOfRange => "number out of range"
  | controlCharacter => "control character (\\u0000-\\u001F) found while parsing a string"
  | keyNotString => "key must be a string"
  | loneSurrogate => "lone leading surrogate in hex escape"
  | trailingComma => "trailing comma"
  | trailingCharacters => "trailing characters"
  | unexpectedEscapeEnd => "unexpected end of hex escape"
  | tooDeep => "recursion limit exceeded"
  | missingField name => "missing field `" ++ name ++ "`"
  | duplicateField name => "duplicate field `" ++ name ++ "`"
  | wrongLength count expected => "invalid length " ++ toString count ++ ", expected " ++ expected
  | wrongType found expected => "invalid type: " ++ found.text ++ ", expected " ++ expected

/-- A fault: the text that was left when it was found, and how many bytes of that count as taken. -/
structure Fault where
  reason : Reason
  rest : List Char
  ahead : Nat

namespace Fault

/-- A fault of what was taken already. -/
def behind (reason : Reason) (rest : List Char) : Fault :=
  ⟨reason, rest, 0⟩

/-- A fault of the next character. -/
def next (reason : Reason) (rest : List Char) : Fault :=
  ⟨reason, rest, 1⟩

/-- The line and the column behind the first `count` bytes of a text that starts on the given line
and column. -/
def place (line column count : Nat) : List Char → Nat × Nat
  | [] => (line, column)
  | c :: rest =>
    if count = 0 then (line, column)
    else if c = '\n' then place (line + 1) 0 (count - 1) rest
    else place line (column + min count c.utf8Size) (count - c.utf8Size) rest

/-- The text of a fault in a text, with its place. -/
def message (fault : Fault) (whole : List Char) : String :=
  let count := Template.utf8Length whole - Template.utf8Length fault.rest + fault.ahead
  let (line, column) := place 1 0 count whole
  fault.reason.text ++ " at line " ++ toString line ++ " column " ++ toString column

end Fault

end ModBuild.Json
