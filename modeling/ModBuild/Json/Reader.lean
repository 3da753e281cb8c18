import ModBuild.Json.Fault
import ModBuild.Text.Decimal

/-!
# `ModBuild.Json.Reader`: reading documents

A reader takes characters off a text and gives what they say and the text that is left, or a fault.
Readers for lists and objects are given a reader for their items, so that the same rules read
documents of any form (`value`) and documents of a given form (`ModBuild.Json.Record`).

A list or an object has fewer items than the text has characters, and `limit` is that number. Only
documents of any form have a limit to how deep they nest.

* `value` reads a document, `skipped` takes one off that nobody asked for.
* `whole` reads a text from its start to its end.
-/

set_option autoImplicit false

namespace ModBuild.Json

/-- The characters that may stand between the parts of a document. -/
def isBlank (c : Char) : Bool :=
  c = ' ' || c = '\n' || c = '\t' || c = '\r'

/-- Takes off the blanks in front. -/
def skipBlanks (s : List Char) : List Char :=
  s.dropWhile isBlank

/-! ### Words -/

/-- Takes off the given characters. -/
def word : List Char → List Char → Except Fault (List Char)
  | [], s => .ok s
  | _ :: _, [] => .error (.behind .eofValue [])
  | c :: rest, d :: s => if c = d then word rest s else .error (.next .expectedIdent (d :: s))

/-! ### Strings -/

/-- Reads four hexadecimal digits. -/
def hexEscape (s : List Char) : Except Fault (Nat × List Char) :=
  let digits := s.take 4
  if Template.utf8Length digits < 4 then .error (.behind .eofString [])
  else if digits.length = 4 && digits.all (fun c => (Text.hexDigit? c).isSome) then
    .ok (Text.hexNumber digits, s.drop 4)
  else .error ⟨.invalidEscape, s, 4⟩

/-- Takes off one character that must come next inside an escape. -/
def escapeMark (c : Char) : List Char → Except Fault (List Char)
  | [] => .error (.behind .eofString [])
  | d :: s => if c = d then .ok s else .error (.next .unexpectedEscapeEnd (d :: s))

/-- The character that a pair of surrogates stands for. -/
def pairedChar (high low : Nat) : Char :=
  Char.ofNat ((high - 0xD800) * 0x400 + (low - 0xDC00) + 0x10000)

/-- Reads a character given by number, behind its `u`. A number above 16 bits takes a pair. -/
def numberedChar (s : List Char) : Except Fault (Char × List Char) := do
  let (high, s) ← hexEscape s
  if 0xDC00 ≤ high && high ≤ 0xDFFF then .error (.behind .loneSurrogate s)
  else if 0xD800 ≤ high && high ≤ 0xDBFF then
    let s ← escapeMark '\\' s
    let s ← escapeMark 'u' s
    let (low, s) ← hexEscape s
    if 0xDC00 ≤ low && low ≤ 0xDFFF then .ok (pairedChar high low, s)
    else .error (.behind .loneSurrogate s)
  else .ok (Char.ofNat high, s)

/-- The character that a letter behind a backslash stands for. -/
def plainEscape? (c : Char) : Option Char :=
  if c = '"' || c = '\\' || c = '/' then some c
  else if c = 'b' then some '\x08'
  else if c = 'f' then some '\x0c'
  else if c = 'n' then some '\n'
  else if c = 'r' then some '\r'
  else if c = 't' then some '\t'
  else none

/-- Reads an escape behind its backslash. -/
def escape : List Char → Except Fault (Char × List Char)
  | [] => .error (.behind .eofString [])
  | c :: s =>
    if c = 'u' then numberedChar s
    else
      match plainEscape? c with
      | some d => .ok (d, s)
      | none => .error (.next .invalidEscape (c :: s))

/-- What is left behind the digits of a coded character is no longer than the text. -/
theorem length_of_hexEscape {s rest : List Char} {n : Nat} (h : hexEscape s = .ok (n, rest)) :
    rest.length ≤ s.length := by
  simp only [hexEscape] at h
  split at h
  · simp at h
  · split at h
    · simp only [Except.ok.injEq, Prod.mk.injEq] at h; simp [← h.2]
    · simp at h

/-- The mark of a second code is taken off the text. -/
theorem length_of_escapeMark {c : Char} {s rest : List Char} (h : escapeMark c s = .ok rest) :
    rest.length ≤ s.length := by
  cases s with
  | nil => simp [escapeMark] at h
  | cons d s => simp only [escapeMark] at h; split at h <;> grind

/-- The codes of a character are taken off the text. -/
theorem length_of_numberedChar {s rest : List Char} {c : Char}
    (h : numberedChar s = .ok (c, rest)) : rest.length ≤ s.length := by
  simp only [numberedChar, bind, Except.bind] at h
  split at h
  · simp at h
  · rename_i v h1
    have l1 : v.2.length ≤ s.length := length_of_hexEscape h1
    split at h
    · simp at h
    · split at h
      · split at h
        · simp at h
        · rename_i s2 h2
          have l2 := length_of_escapeMark h2
          split at h
          · simp at h
          · rename_i s3 h3
            have l3 := length_of_escapeMark h3
            split at h
            · simp at h
            · rename_i w h4
              have l4 : w.2.length ≤ s3.length := length_of_hexEscape h4
              -- Four parts are taken off one behind the other, and none of them makes the text
              -- longer.
              split at h <;> grind
      · grind

/-- An escape takes characters away. -/
theorem length_of_escape {s rest : List Char} {c : Char} (h : escape s = .ok (c, rest)) :
    rest.length ≤ s.length := by
  cases s with
  | nil => simp [escape] at h
  | cons d s =>
    simp only [escape] at h
    split at h
    · have := length_of_numberedChar h; simp; omega
    · split at h <;> grind

/-- Reads a string behind its opening quote; what is read of it already is held last character
first. -/
def stringOnto (read : List Char) (s : List Char) : Except Fault (String × List Char) :=
  match s with
  | [] => .error (.behind .eofString [])
  | c :: s =>
    if c = '"' then .ok (String.ofList read.reverse, s)
    else if c = '\\' then
      match _h : escape s with
      | .ok (d, s) => stringOnto (d :: read) s
      | .error fault => .error fault
    else if c.toNat < 32 then .error (.next .controlCharacter (c :: s))
    else stringOnto (c :: read) s
termination_by s.length
decreasing_by
  · have := length_of_escape _h; simp; omega
  · simp

/-- Reads a string behind its opening quote. -/
def stringBody (s : List Char) : Except Fault (String × List Char) :=
  stringOnto [] s

/-- Takes an escape off, behind its backslash. Of a number only the digits are looked at. -/
def skippedEscape : List Char → Except Fault (List Char)
  | [] => .error (.behind .eofString [])
  | c :: s =>
    if c = 'u' then (hexEscape s).map (·.2)
    else if (plainEscape? c).isSome then .ok s
    else .error (.next .invalidEscape (c :: s))

/-- What follows a backslash is taken off the text, also if it is only passed over. -/
theorem length_of_skippedEscape {s rest : List Char} (h : skippedEscape s = .ok rest) :
    rest.length ≤ s.length := by
  cases s with
  | nil => simp [skippedEscape] at h
  | cons d s =>
    simp only [skippedEscape] at h
    split at h
    · cases hx : hexEscape s with
      | error e => simp [hx, Except.map] at h
      | ok v =>
        have : v.2.length ≤ s.length := length_of_hexEscape hx
        simp only [hx, Except.map, Except.ok.injEq] at h
        grind
    · split at h <;> grind

/-- Takes a string off, behind its opening quote. -/
def skippedString (s : List Char) : Except Fault (List Char) :=
  match s with
  | [] => .error (.behind .eofString [])
  | c :: s =>
    if c = '"' then .ok s
    else if c = '\\' then
      match _h : skippedEscape s with
      | .ok s => skippedString s
      | .error fault => .error fault
    else if c.toNat < 32 then .error (.behind .controlCharacter (c :: s))
    else skippedString s
termination_by s.length
decreasing_by
  · have := length_of_skippedEscape _h; simp; omega
  · simp

/-! ### Numbers -/

/-- Numbers of 64 bits are below this. -/
def wordBound : Nat := Nat.pow 2 64

/-- Exponents are numbers of 32 bits. -/
def exponentBound : Nat := Nat.pow 2 31

/-- Takes off digits as long as the number they continue stays below a bound. Gives the number, how
many digits there were with the `count` before them, and the text at the first digit too many or
behind the last digit. -/
def digitsBelow (bound n count : Nat) : List Char → Nat × Nat × List Char
  | [] => (n, count, [])
  | c :: s =>
    if Text.isDigit c then
      let next := Text.appendDigit n c
      if next < bound then digitsBelow bound next (count + 1) s else (n, count, c :: s)
    else (n, count, c :: s)

/-- Takes off digits. -/
def skipDigits (s : List Char) : List Char :=
  s.dropWhile Text.isDigit

/-- The next character is a digit. -/
def digitNext : List Char → Bool
  | c :: _ => Text.isDigit c
  | [] => false

/-- The number with a significand, a power of ten and a sign. -/
def scaledNumber (negative : Bool) (significand : Nat) (power : Int) (s : List Char) :
    Except Fault (Number × List Char) :=
  match (Number.Magnitude.ofRatio? significand 1).bind (·.scaled? power) with
  | some x => .ok (.float ⟨negative, x⟩, s)
  | none => .error (.behind .outOfRange s)

/-- Reads an exponent behind its `e`. -/
def exponentPart (negative : Bool) (significand : Nat) (power : Int) (s : List Char) :
    Except Fault (Number × List Char) :=
  let (below, s) :=
    match s with
    | '+' :: s => (false, s)
    | '-' :: s => (true, s)
    | s => (false, s)
  match s with
  | [] => .error (.behind .eofValue [])
  | c :: rest =>
    if Text.isDigit c then
      let (n, _, rest) := digitsBelow exponentBound (Text.digitValue c) 1 rest
      if digitNext rest then
        -- The exponent is beyond all bounds.
        if significand ≠ 0 && !below then .error (.next .outOfRange rest)
        else .ok (.float ⟨negative, .zero⟩, skipDigits rest)
      else scaledNumber negative significand (if below then power - n else power + n) rest
    else .error (.next .invalidNumber (c :: rest))

/-- Reads the end of a number behind its digits, where an exponent may stand. -/
def afterDigits (negative : Bool) (significand : Nat) (power : Int) (s : List Char) :
    Except Fault (Number × List Char) :=
  match s with
  | 'e' :: s | 'E' :: s => exponentPart negative significand power s
  | s => scaledNumber negative significand power s

/-- Reads a fraction behind its point. Digits that the significand has no room for do not count. -/
def fractionPart (negative : Bool) (significand : Nat) (power : Int) (s : List Char) :
    Except Fault (Number × List Char) :=
  if digitNext s then
    let (significand, taken, rest) := digitsBelow wordBound significand 0 s
    afterDigits negative significand (power - taken) (skipDigits rest)
  else if s = [] then .error (.behind .eofValue [])
  else .error (.next .invalidNumber s)

/-- Reads what follows the whole part of a number that has 64 bits. -/
def afterWhole (negative : Bool) (n : Nat) : List Char → Except Fault (Number × List Char)
  | '.' :: s => fractionPart negative n 0 s
  | 'e' :: s | 'E' :: s => exponentPart negative n 0 s
  | s =>
    if !negative then .ok (.natural n, s)
    else if n ≠ 0 && n ≤ Nat.pow 2 63 then .ok (.negative n, s)
    else scaledNumber true n 0 s

/-- Reads a number behind its sign. A whole part that 64 bits have no room for is cut, and each
digit cut off counts as a power of ten. -/
def numberBody (negative : Bool) : List Char → Except Fault (Number × List Char)
  | [] => .error (.behind .eofValue [])
  | '0' :: s => if digitNext s then .error (.next .invalidNumber s) else afterWhole negative 0 s
  | c :: s =>
    if Text.isDigit c then
      let (n, _, rest) := digitsBelow wordBound (Text.digitValue c) 1 s
      if digitNext rest then
        let cut := (rest.takeWhile Text.isDigit).length
        match skipDigits rest with
        | '.' :: s => fractionPart negative n cut s
        | s => afterDigits negative n cut s
      else afterWhole negative n rest
    else .error (.next .invalidNumber (c :: s))

/-- Takes an exponent off, behind its `e`. -/
def skippedExponent (s : List Char) : Except Fault (List Char) :=
  let s :=
    match s with
    | '+' :: s | '-' :: s => s
    | s => s
  match s with
  | [] => .error (.behind .invalidNumber [])
  | c :: rest =>
    if Text.isDigit c then .ok (skipDigits rest) else .error (.next .invalidNumber (c :: rest))

/-- Takes a number off, behind its sign. -/
def skippedNumber (s : List Char) : Except Fault (List Char) :=
  match s with
  | [] => .error (.behind .invalidNumber [])
  | c :: rest =>
    if c = '0' && digitNext rest then .error (.next .invalidNumber rest)
    else if Text.isDigit c then
      let rest := if c = '0' then rest else skipDigits rest
      match rest with
      | '.' :: rest =>
        if digitNext rest then
          match skipDigits rest with
          | 'e' :: rest | 'E' :: rest => skippedExponent rest
          | rest => .ok rest
        else .error (.next .invalidNumber rest)
      | 'e' :: rest | 'E' :: rest => skippedExponent rest
      | rest => .ok rest
    else .error (.next .invalidNumber (c :: rest))

/-! ### Lists and objects -/

/-- Looks for an item of a list: whether there is one, and the text from it on, or from the closing
bracket on. -/
def nextItem (first : Bool) (s : List Char) : Except Fault (Bool × List Char) :=
  match skipBlanks s with
  | [] => .error (.behind .eofList [])
  | ']' :: s => .ok (false, ']' :: s)
  | ',' :: s =>
    if first then .ok (true, ',' :: s)
    else
      match skipBlanks s with
      | [] => .error (.behind .eofValue [])
      | ']' :: s => .error (.next .trailingComma (']' :: s))
      | s => .ok (true, s)
  | s => if first then .ok (true, s) else .error (.next .expectedListEnd s)

/-- Takes off the end of a list. -/
def listEnd (s : List Char) : Except Fault (List Char) :=
  match skipBlanks s with
  | [] => .error (.behind .eofList [])
  | ']' :: s => .ok s
  | ',' :: s =>
    match skipBlanks s with
    | ']' :: s => .error (.next .trailingComma (']' :: s))
    | s => .error (.next .trailingCharacters s)
  | s => .error (.next .trailingCharacters s)

/-- Reads the items of a list behind those read already, which are held last first. -/
def itemsOnto {α : Type} (item : List Char → Except Fault (α × List Char)) :
    (limit : Nat) → (read : List α) → List Char →
    Except Fault (List α × List Char)
  | 0, _, s => .error (.behind .eofList s)
  | limit + 1, read, s => do
    let (more, s) ← nextItem read.isEmpty s
    if more then
      let (a, s) ← item s
      itemsOnto item limit (a :: read) s
    else .ok (read.reverse, ← listEnd s)

/-- Looks for a member of an object and reads its name, behind which the text is left. -/
def nextKey (first : Bool) (s : List Char) : Except Fault ((Option String) × List Char) :=
  let key (s : List Char) : Except Fault ((Option String) × List Char) := do
    let (name, s) ← stringBody s
    .ok (some name, s)
  match skipBlanks s with
  | [] => .error (.behind .eofObject [])
  | '\x7d' :: s => .ok (none, '\x7d' :: s)
  | c :: s =>
    if first then
      if c = '"' then key s else .error (.next .keyNotString (c :: s))
    else if c = ',' then
      match skipBlanks s with
      | [] => .error (.behind .eofValue [])
      | '"' :: s => key s
      | '\x7d' :: s => .error (.next .trailingComma ('\x7d' :: s))
      | s => .error (.next .keyNotString s)
    else .error (.next .expectedObjectEnd (c :: s))

/-- Takes off the colon behind a name. -/
def colon (s : List Char) : Except Fault (List Char) :=
  match skipBlanks s with
  | [] => .error (.behind .eofObject [])
  | ':' :: s => .ok s
  | s => .error (.next .expectedColon s)

/-- Takes off the end of an object. -/
def objectEnd (s : List Char) : Except Fault (List Char) :=
  match skipBlanks s with
  | [] => .error (.behind .eofObject [])
  | '\x7d' :: s => .ok s
  | ',' :: s => .error (.next .trailingComma (',' :: s))
  | s => .error (.next .trailingCharacters s)

/-- Reads the members of an object, each on top of those read before it: the state is changed by the
reader of the member with the name. -/
def membersOnto {σ : Type} (member : σ → String → List Char → Except Fault (σ × List Char)) :
    (limit : Nat) → (first : Bool) → σ → List Char → Except Fault (σ × List Char)
  | 0, _, _, s => .error (.behind .eofObject s)
  | limit + 1, first, state, s => do
    let (name, s) ← nextKey first s
    match name with
    | some name =>
      let (state, s) ← member state name s
      membersOnto member limit false state s
    | none => .ok (state, s)

/-! ### Documents of any form -/

/-- How deep lists and objects may stand inside one another. -/
def maxDepth : Nat := 127

/-- Reads a document that may be `depth` brackets deep. -/
def value (limit : Nat) : (depth : Nat) → List Char → Except Fault (Value × List Char)
  | depth, s =>
    match skipBlanks s with
    | [] => .error (.behind .eofValue [])
    | 'n' :: s => return (.null, ← word ['u', 'l', 'l'] s)
    | 't' :: s => return (.bool true, ← word ['r', 'u', 'e'] s)
    | 'f' :: s => return (.bool false, ← word ['a', 'l', 's', 'e'] s)
    | '-' :: s => do
      let (n, s) ← numberBody true s
      return (.number n, s)
    | '"' :: s => do
      let (t, s) ← stringBody s
      return (.string t, s)
    | '[' :: s =>
      match depth with
      | 0 => .error (.next .tooDeep ('[' :: s))
      | depth + 1 => do
        let (items, s) ← itemsOnto (value limit depth) limit [] s
        return (.array items, s)
    | '\x7b' :: s =>
      match depth with
      | 0 => .error (.next .tooDeep ('\x7b' :: s))
      | depth + 1 => do
        let member (members : List (String × Value)) (name : String) (s : List Char) := do
          let (v, s) ← value limit depth (← colon s)
          return (putEntry name v members, s)
        let (members, s) ← membersOnto member limit true [] s
        return (.object members, ← objectEnd s)
    | c :: s =>
      if Text.isDigit c then do
        let (n, s) ← numberBody false (c :: s)
        return (.number n, s)
      else .error (.next .expectedValue (c :: s))

/-! ### Documents that nobody asked for -/

/-- The two kinds of brackets. -/
inductive Bracket where
  | list
  | object
  deriving DecidableEq

/-- The bracket that closes. -/
def closingOf : Bracket → Char
  | .list => ']'
  | .object => '\x7d'

/-- The fault of a text that ends inside brackets. -/
def eofIn : Bracket → Reason
  | .list => .eofList
  | .object => .eofObject

/-- The fault of a text that goes on neither with a comma nor with the bracket that closes. -/
def expectedEnd : Bracket → Reason
  | .list => .expectedListEnd
  | .object => .expectedObjectEnd

/-- Where the reader stands in a document that it skips: at a value inside some brackets, innermost
first, or behind one. -/
inductive SkipState where
  | atValue (outer : List Bracket)
  | inside (bracket : Bracket) (outer : List Bracket) (first : Bool)

/-- Takes off the name of a member and its colon. -/
def skippedKey (s : List Char) : Except Fault (List Char) :=
  match skipBlanks s with
  | [] => .error (.behind .eofObject [])
  | '"' :: s => do colon (← skippedString s)
  | s => .error (.next .keyNotString s)

/-- Takes off a value that has no brackets, or the opening bracket of one that has. -/
def skippedScalar (s : List Char) : Except Fault (Option Bracket × List Char) :=
  match skipBlanks s with
  | [] => .error (.behind .eofValue [])
  | 'n' :: s => return (none, ← word ['u', 'l', 'l'] s)
  | 't' :: s => return (none, ← word ['r', 'u', 'e'] s)
  | 'f' :: s => return (none, ← word ['a', 'l', 's', 'e'] s)
  | '-' :: s => return (none, ← skippedNumber s)
  | '"' :: s => return (none, ← skippedString s)
  | '[' :: s => return (some .list, s)
  | '\x7b' :: s => return (some .object, s)
  | c :: s =>
    if Text.isDigit c then return (none, ← skippedNumber (c :: s))
    else .error (.next .expectedValue (c :: s))

/-- Takes off a document of any depth, with the brackets that are open, innermost first. Every step
takes at least one character. -/
def skippedFrom : (limit : Nat) → SkipState → List Char → Except Fault (List Char)
  | 0, _, s => .error (.behind .eofValue s)
  | limit + 1, .atValue outer, s => do
    let (bracket, s) ← skippedScalar s
    match bracket, outer with
    | some bracket, outer => skippedFrom limit (.inside bracket outer true) s
    | none, bracket :: outer => skippedFrom limit (.inside bracket outer false) s
    | none, [] => .ok s
  | limit + 1, .inside bracket outer first, s =>
    let closing := closingOf bracket
    let item (s : List Char) : Except Fault (List Char) :=
      match bracket with
      | .list => .ok s
      | .object => skippedKey s
    match skipBlanks s with
    | [] => .error (.behind (eofIn bracket) [])
    | c :: s =>
      if c = closing then
        match outer with
        | bracket :: outer => skippedFrom limit (.inside bracket outer false) s
        | [] => .ok s
      else if first then do
        skippedFrom limit (.atValue (bracket :: outer)) (← item (c :: s))
      else if c = ',' then do
        skippedFrom limit (.atValue (bracket :: outer)) (← item s)
      else
        .error (.next (expectedEnd bracket) (c :: s))

/-- Takes off a document. A value and the bracket around it take two steps, so there are at most two
for each character. -/
def skipped (limit : Nat) (s : List Char) : Except Fault (List Char) :=
  skippedFrom (2 * limit + 2) (.atValue []) s

/-! ### Whole texts -/

/-- Reads a text from its start to its end. The reader is given the limit for the text. -/
def whole {α : Type} (reader : (limit : Nat) → List Char → Except Fault (α × List Char))
    (text : String) : Except String α :=
  let s := text.toList
  let result := do
    let (a, rest) ← reader (s.length + 1) s
    match skipBlanks rest with
    | [] => .ok a
    | rest => .error (.next .trailingCharacters rest)
  match result with
  | .ok a => .ok a
  | .error (fault : Fault) => .error (fault.message s)

/-- Reads a text as a document. -/
def Value.ofText (text : String) : Except String Value :=
  whole (fun limit => value limit maxDepth) text

end ModBuild.Json
