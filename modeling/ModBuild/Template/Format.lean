import ModBuild.Template.Argument
import ModBuild.Template.Expand

/-!
# `ModBuild.Template.Format`: positional formatting

A format is literal text with directives that begin with a percent sign. `%%` and `%n` stand for a
percent sign and a line end. A conversion writes an argument: `%s` as text, `%S` as text in upper
case, `%d` and `%x` as a decimal and a hexadecimal number, `%b` as a truth value. A conversion takes
the argument after the one that the conversion before it took; with an index in front, as in `%2$s`,
it takes that argument and does not count. Arguments left over do no harm.

* `scanFormat` reads a format into directives, up to the first place that is none.
* `fill` writes the directives with arguments.
* `format` does both, `render` also expands the tokens of the text first.
-/

set_option autoImplicit false

namespace ModBuild.Template

/-- The ways to write an argument. -/
inductive Conversion where
  | text
  | upper
  | decimal
  | hex
  | truth
  deriving DecidableEq

namespace Conversion

/-- The letter of a conversion. -/
def letter : Conversion → Char
  | text => 's'
  | upper => 'S'
  | decimal => 'd'
  | hex => 'x'
  | truth => 'b'

/-- The conversion with a letter. -/
def ofLetter? : Char → Option Conversion
  | 's' => some text
  | 'S' => some upper
  | 'd' => some decimal
  | 'x' => some hex
  | 'b' => some truth
  | _ => none

/-- Writes an argument. Numbers are asked for by `decimal` and `hex`, and only they can fail. -/
def write? : Conversion → Argument → Option String
  | text, arg => some arg.display
  | upper, arg => some (Text.upper arg.display)
  | decimal, .int value => some (toString value.toInt)
  | hex, .int value => some (Text.hexDigits value.toUInt64.toNat)
  | truth, .bool value => some (Argument.truthText value)
  | truth, _ => some (Argument.truthText true)
  | _, _ => none

end Conversion

/-- A part of a format. -/
inductive Directive where
  | literal (c : Char)
  /-- Writes an argument: the one with the given number, counted from 1, or else the next. -/
  | convert (number : Option Nat) (conversion : Conversion)
  deriving DecidableEq

/-- Why a format cannot be filled. -/
inductive FormatFault where
  | width (digits : String)
  | indexTooLarge (digits : String)
  | indexZero
  | dangling
  | unknown (letter : Char)
  | missing (number : Nat) (conversion : Conversion)
  | mismatch (conversion : Conversion) (arg : Argument)
  deriving DecidableEq

namespace FormatFault

/-- The text of a fault. -/
def message : FormatFault → String
  | width digits => "width '%" ++ digits ++ "' is not supported"
  | indexTooLarge digits => "argument index " ++ digits ++ " is too large"
  | indexZero => "argument indices start at 1"
  | dangling => "dangling '%' at end"
  | unknown letter => "unknown conversion '%" ++ String.ofList [letter] ++ "'"
  | missing number conversion =>
    "missing argument " ++ toString number ++ " for %" ++ String.ofList [conversion.letter]
  | mismatch conversion arg =>
    "%" ++ String.ofList [conversion.letter] ++ " cannot format argument " ++ arg.debug

end FormatFault

/-- Indices are numbers of 64 bits. -/
def indexBound : Nat := Nat.pow 2 64

/-- Reads the letter of a directive whose index, if it has one, is read already. -/
def directiveLetter (number : Option Nat) :
    List Char → Except FormatFault (Directive × List Char)
  | [] => .error .dangling
  | c :: rest =>
    if number.isNone && c = '%' then .ok (.literal '%', rest)
    else if number.isNone && c = 'n' then .ok (.literal '\n', rest)
    else
      match Conversion.ofLetter? c with
      | some conversion => .ok (.convert number conversion, rest)
      | none => .error (.unknown c)

/-- Reads a directive behind its percent sign, and gives what follows it. -/
def directive (s : List Char) : Except FormatFault (Directive × List Char) :=
  let digits := s.takeWhile Text.isDigit
  let rest := s.dropWhile Text.isDigit
  if digits = [] then directiveLetter none rest
  else
    match rest with
    | '$' :: rest =>
      match Text.naturalBelow? indexBound digits with
      | none => .error (.indexTooLarge (String.ofList digits))
      | some 0 => .error .indexZero
      | some number => directiveLetter (some number) rest
    | _ => .error (.width (String.ofList digits))

/-- The last letter of a directive is taken off the text. -/
theorem length_of_directiveLetter {number : Option Nat} {s rest : List Char} {d : Directive}
    (h : directiveLetter number s = .ok (d, rest)) : rest.length ≤ s.length := by
  cases s with
  | nil => simp [directiveLetter] at h
  | cons c s =>
    simp only [directiveLetter] at h
    split at h
    · grind
    · split at h
      · grind
      · split at h <;> grind

/-- A directive takes characters away. -/
theorem length_of_directive {s rest : List Char} {d : Directive}
    (h : directive s = .ok (d, rest)) : rest.length ≤ s.length := by
  have hle := (List.dropWhile_suffix Text.isDigit (l := s)).length_le
  unfold directive at h
  simp only at h
  split at h
  · exact Nat.le_trans (length_of_directiveLetter h) hle
  · split at h
    · rename_i heq
      rw [heq, List.length_cons] at hle
      split at h
      · simp at h
      · simp at h
      · have := length_of_directiveLetter h; omega
    · simp at h

/-- A format as far as it can be read, and what stops it, if something does. -/
structure Scan where
  directives : List Directive
  fault : Option FormatFault
  deriving DecidableEq

/-- Reads a format behind the directives read already, which are held last first. -/
def scanOnto (read : List Directive) (s : List Char) : Scan :=
  match s with
  | [] => ⟨read.reverse, none⟩
  | c :: rest =>
    if c = '%' then
      match _h : directive rest with
      | .ok (d, rest) => scanOnto (d :: read) rest
      | .error fault => ⟨read.reverse, some fault⟩
    else scanOnto (.literal c :: read) rest
termination_by s.length
decreasing_by
  · have := length_of_directive _h; simp; omega
  · simp

/-- Reads a format. -/
def scanFormat (s : List Char) : Scan :=
  scanOnto [] s

/-- Writes directives behind what is written already, which is held last character first. The next
argument without an index is the one at `cursor`. -/
def fillOnto (args : Array Argument) (written : List Char) (cursor : Nat) :
    List Directive → Except FormatFault (List Char)
  | [] => .ok written.reverse
  | .literal c :: rest => fillOnto args (c :: written) cursor rest
  | .convert number conversion :: rest =>
    let index := number.elim cursor (· - 1)
    let cursor := if number.isNone then cursor + 1 else cursor
    match args[index]? with
    | none => .error (.missing (index + 1) conversion)
    | some arg =>
      match conversion.write? arg with
      | some text => fillOnto args (text.toList.reverseAux written) cursor rest
      | none => .error (.mismatch conversion arg)

/-- Writes a format with arguments. Its directives come before the place where it stops to be
one. -/
def fill (scan : Scan) (args : List Argument) : Except FormatFault (List Char) :=
  match fillOnto args.toArray [] 0 scan.directives, scan.fault with
  | .ok _, some fault => .error fault
  | result, _ => result

/-- Fills a format with arguments. -/
def format (template : String) (args : List Argument) : Except BuildError String :=
  match fill (scanFormat template.toList) args with
  | .ok text => .ok (String.ofList text)
  | .error fault => .error (.invalidFormat template fault.message)

/-- Expands the tokens of a template, then fills it as a format. -/
def render (table : Table) (template : String) (args : List Argument) :
    Except BuildError String :=
  match expand table template with
  | .ok expanded => format expanded args
  | .error error => .error error

end ModBuild.Template
