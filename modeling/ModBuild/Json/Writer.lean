import ModBuild.Json.Value
import ModBuild.Text.Quoted

/-!
# `ModBuild.Json.Writer`: documents as text

A document is written without blanks, or with a line for each item, two spaces deeper than the
brackets around it. In strings only quotes, backslashes and control characters are escaped.
-/

set_option autoImplicit false

namespace ModBuild.Json

/-- A character as it stands in a string. -/
def escaped (c : Char) : List Char :=
  if c = '"' then ['\\', '"']
  else if c = '\\' then ['\\', '\\']
  else if c.toNat < 32 then
    if c = '\n' then ['\\', 'n']
    else if c = '\r' then ['\\', 'r']
    else if c = '\t' then ['\\', 't']
    else if c.toNat = 8 then ['\\', 'b']
    else if c.toNat = 12 then ['\\', 'f']
    else ['\\', 'u', '0', '0', Nat.digitChar (c.toNat / 16), Nat.digitChar (c.toNat % 16)]
  else [c]

/-- A string with its quotes. -/
def stringText (s : String) : List Char :=
  '"' :: (s.toList.flatMap escaped ++ ['"'])

/-- Texts with commas between them. -/
def commaSeparated : List (List Char) → List Char
  | [] => []
  | [item] => item
  | item :: rest => item ++ ',' :: commaSeparated rest

mutual

/-- A document without blanks. -/
def Value.compact : Value → List Char
  | .null => "null".toList
  | .bool b => (if b then "true" else "false").toList
  | .number n => n.text.toList
  | .string s => stringText s
  | .array items => '[' :: (commaSeparated (compactItems items) ++ [']'])
  | .object members => '{' :: (commaSeparated (compactMembers members) ++ ['}'])

/-- The items of an array without blanks. -/
def compactItems : List Value → List (List Char)
  | [] => []
  | item :: rest => item.compact :: compactItems rest

/-- The members of an object without blanks. -/
def compactMembers : List (String × Value) → List (List Char)
  | [] => []
  | (name, value) :: rest => (stringText name ++ ':' :: value.compact) :: compactMembers rest

end

/-- A line end with the blanks in front of what stands `depth` brackets deep. -/
def lineStart (depth : Nat) : List Char :=
  '\n' :: List.replicate (2 * depth) ' '

/-- Items on lines of their own, between brackets that stand `depth` brackets deep. -/
def bracketLines (depth : Nat) (opening closing : Char) (items : List (List Char)) : List Char :=
  match items with
  | [] => [opening, closing]
  | items =>
    opening :: (commaSeparated (items.map (lineStart (depth + 1) ++ ·)) ++
      lineStart depth ++ [closing])

mutual

/-- A document that stands `depth` brackets deep, on lines. -/
def Value.pretty (depth : Nat) : Value → List Char
  | .array items => bracketLines depth '[' ']' (prettyItems (depth + 1) items)
  | .object members => bracketLines depth '{' '}' (prettyMembers (depth + 1) members)
  | .null => Value.null.compact
  | .bool b => (Value.bool b).compact
  | .number n => (Value.number n).compact
  | .string s => (Value.string s).compact

/-- The items of an array, on lines. -/
def prettyItems (depth : Nat) : List Value → List (List Char)
  | [] => []
  | item :: rest => item.pretty depth :: prettyItems depth rest

/-- The members of an object, on lines. -/
def prettyMembers (depth : Nat) : List (String × Value) → List (List Char)
  | [] => []
  | (name, value) :: rest =>
    (stringText name ++ ':' :: ' ' :: value.pretty depth) :: prettyMembers depth rest

end

/-- The text of a document without blanks. -/
def Value.text (v : Value) : String :=
  String.ofList v.compact

/-- The text of a document on lines. -/
def Value.prettyText (v : Value) : String :=
  String.ofList (v.pretty 0)

end ModBuild.Json
