import ModBuild.Json.Reader

/-!
# `ModBuild.Json.Record`: reading documents of a given form

Readers for texts, lists, objects and records. A record is written as an object with its fields by
name, in any order, where other members are passed over; or as a list of its fields in order.

* `text`, `listOf`, `nullable` and `objectOf` read the simple forms.
* `record` reads a record, field by field, into a draft.
-/

set_option autoImplicit false

namespace ModBuild.Json

/-- The fault of a value that has another form than expected. It is found behind the value, or in
front of it where it has brackets. -/
def wrongType (expected : String) (s : List Char) : Fault :=
  let found (r : Except Fault (Found × List Char)) : Fault :=
    match r with
    | .ok (found, rest) => .behind (.wrongType found expected) rest
    | .error fault => fault
  match s with
  | 'n' :: s => found ((word ['u', 'l', 'l'] s).map (.null, ·))
  | 't' :: s => found ((word ['r', 'u', 'e'] s).map (.bool true, ·))
  | 'f' :: s => found ((word ['a', 'l', 's', 'e'] s).map (.bool false, ·))
  | '-' :: s => found ((numberBody true s).map fun (n, s) => (.number n, s))
  | '"' :: s => found ((stringBody s).map fun (t, s) => (.string t, s))
  | '[' :: _ => .behind (.wrongType .sequence expected) s
  | '\x7b' :: _ => .behind (.wrongType .map expected) s
  | c :: _ =>
    if Text.isDigit c then found ((numberBody false s).map fun (n, s) => (.number n, s))
    else .next .expectedValue s
  | [] => .behind .eofValue []

/-- Reads a string. -/
def text (s : List Char) : Except Fault (String × List Char) :=
  match skipBlanks s with
  | [] => .error (.behind .eofValue [])
  | '"' :: s => stringBody s
  | s => .error (wrongType "a string" s)

/-- Reads a list of items. -/
def listOf {α : Type} (limit : Nat) (item : List Char → Except Fault (α × List Char))
    (s : List Char) : Except Fault (List α × List Char) :=
  match skipBlanks s with
  | [] => .error (.behind .eofValue [])
  | '[' :: s => itemsOnto item limit [] s
  | s => .error (wrongType "a sequence" s)

/-- Reads what may also be `null`. -/
def nullable {α : Type} (inner : List Char → Except Fault (α × List Char)) (s : List Char) :
    Except Fault (Option α × List Char) :=
  match skipBlanks s with
  | 'n' :: s => (word ['u', 'l', 'l'] s).map (none, ·)
  | s => (inner s).map fun (a, s) => (some a, s)

/-- Reads an object with members of any form. -/
def objectOf (limit : Nat) (s : List Char) :
    Except Fault (List (String × Value) × List Char) :=
  match skipBlanks s with
  | [] => .error (.behind .eofValue [])
  | '\x7b' :: s =>
    match value limit maxDepth ('\x7b' :: s) with
    | .ok (.object members, s) => .ok (members, s)
    | .ok (_, s) => .error (.behind .expectedValue s)
    | .error fault => .error fault
  | s => .error (wrongType "a map" s)

/-- A field of a record that is read into a draft. -/
structure RecordField (σ : Type) where
  name : String
  /-- The record is complete without the field. -/
  optional : Bool
  /-- The draft has the field already. -/
  isSet : σ → Bool
  /-- Reads the field into the draft. -/
  read : (limit : Nat) → σ → List Char → Except Fault (σ × List Char)

/-- Where the reader stands after an attempt to take something off. -/
def standing : Except Fault (List Char) → List Char
  | .ok s => s
  | .error fault => fault.rest

/-- Reads a member of a record behind its name. -/
def recordMember {σ : Type} (fields : List (RecordField σ)) (limit : Nat) (draft : σ)
    (name : String) (s : List Char) : Except Fault (σ × List Char) := do
  match fields.find? (·.name = name) with
  | some field =>
    if field.isSet draft then
      .error (.behind (.duplicateField name) (standing (objectEnd s)))
    else field.read limit draft (← colon s)
  | none => return (draft, ← skipped limit (← colon s))

/-- Reads the fields of a record in order, `count` of which there were before. `title` says what the
fields are expected for. -/
def recordItems {σ : Type} (title : String) (limit : Nat) :
    List (RecordField σ) → (count : Nat) → (first : Bool) → σ → List Char →
    Except Fault (σ × List Char)
  | [], _, _, draft, s => .ok (draft, s)
  | field :: fields, count, first, draft, s => do
    let (more, s) ← nextItem first s
    if more then
      let (draft, s) ← field.read limit draft s
      recordItems title limit fields (count + 1) false draft s
    else if field.optional then recordItems title limit fields (count + 1) first draft s
    else .error (.behind (.wrongLength count title) (standing (listEnd s)))

/-- Reads a record into a draft that lacks no field it needs. -/
def record {σ : Type} (title : String) (fields : List (RecordField σ)) (limit : Nat) (draft : σ)
    (s : List Char) : Except Fault (σ × List Char) :=
  match skipBlanks s with
  | [] => .error (.behind .eofValue [])
  | '\x7b' :: s => do
    let (draft, s) ← membersOnto (recordMember fields limit) limit true draft s
    match fields.find? (fun field => !field.optional && !field.isSet draft) with
    | some field => .error (.behind (.missingField field.name) (standing (objectEnd s)))
    | none => return (draft, ← objectEnd s)
  | '[' :: s => do
    let elements := title ++ " with " ++ toString fields.length ++ " elements"
    let (draft, s) ← recordItems elements limit fields 0 true draft s
    return (draft, ← listEnd s)
  | s => .error (wrongType title s)

end ModBuild.Json
