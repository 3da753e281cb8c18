import ModBuild.Text.Quoted
import ModBuild.Text.Ranges

/-!
# `ModBuild.Toml.Quoted`: texts in quotes

A text is written in one of four ways. Double quotes hold escapes, single quotes hold the text as it
is, and three quotes of either kind hold lines. Which way is taken depends on what the text holds,
so that as little as possible has to be escaped.

* `quoted` writes a text.
* `quotedText?` reads one, and `quotedLine?` reads one that has to stay on its line.
-/

set_option autoImplicit false

namespace ModBuild.Toml

/-! ### Writing -/

/-- The ways to write a text. -/
inductive Style where
  /-- Between double quotes. -/
  | escaped
  /-- Between single quotes. -/
  | verbatim
  /-- Between three double quotes. -/
  | escapedLines
  /-- Between three single quotes. -/
  | verbatimLines
  deriving DecidableEq

/-- A control character, apart from the line end. -/
def isCoded (c : Char) : Bool :=
  (c.toNat < 0x20 || c.toNat = 0x7F) && c ≠ '\n'

/-- The length of the longest run of a character. `run` is the length of the run up to here. -/
def longestRun (c : Char) (run : Nat) : List Char → Nat
  | [] => run
  | d :: rest => if d = c then longestRun c (run + 1) rest else max run (longestRun c 0 rest)

/-- The way that a text is written. -/
def style (s : List Char) : Style :=
  let lines := s.contains '\n'
  let plain := !s.any isCoded
  let noSlash := !s.contains '\\'
  if plain && noSlash && !s.contains '"' && !lines then .escaped
  else if plain && !s.contains '\'' && !lines then .verbatim
  else if plain && noSlash && longestRun '"' 0 s ≤ 2 then .escapedLines
  else if plain && longestRun '\'' 0 s ≤ 2 then .verbatimLines
  else if lines then .escapedLines
  else .escaped

/-- The four hexadecimal digits of a code point below `2 ^ 16`, in upper case. -/
def fourDigits (n : Nat) : List Char :=
  [n / 4096, n / 256 % 16, n / 16 % 16, n % 16].map fun d => (Nat.digitChar d).toUpper

/-- A character other than a quote between double quotes. A line end stands for itself where lines
may be. -/
def writtenChar (lines : Bool) (c : Char) : List Char :=
  if c = '\x08' then ['\\', 'b']
  else if c = '\t' then ['\\', 't']
  else if c = '\n' then (if lines then ['\n'] else ['\\', 'n'])
  else if c = '\x0c' then ['\\', 'f']
  else if c = '\r' then ['\\', 'r']
  else if c = '\\' then ['\\', '\\']
  else if isCoded c then '\\' :: 'u' :: fourDigits c.toNat
  else [c]

/-- The characters of a text between double quotes. Of quotes in a row, `free` more may stand for
themselves. -/
def writtenChars (lines : Bool) (free : Nat) : List Char → List Char
  | [] => []
  | '"' :: rest =>
    match free with
    | 0 => '\\' :: '"' :: writtenChars lines (if lines then 2 else 0) rest
    | free + 1 => '"' :: writtenChars lines free rest
  | c :: rest => writtenChar lines c ++ writtenChars lines (if lines then 2 else 0) rest

/-- Three quotes, and a line end if the text has any. -/
def linesStart (quote : Char) (s : List Char) : List Char :=
  [quote, quote, quote] ++ if s.contains '\n' then ['\n'] else []

/-- Writes a text. -/
def quotedChars (s : List Char) : List Char :=
  match style s with
  | .escaped => '"' :: writtenChars false 0 s ++ ['"']
  | .verbatim => '\'' :: s ++ ['\'']
  | .escapedLines => linesStart '"' s ++ writtenChars true 2 s ++ ['"', '"', '"']
  | .verbatimLines => linesStart '\'' s ++ s ++ ['\'', '\'', '\'']

/-- Writes a text. -/
def quoted (text : String) : String :=
  String.ofList (quotedChars text.toList)

/-! ### Reading -/

/-- A space or a tab. -/
def isBlank (c : Char) : Bool :=
  c = ' ' || c = '\t'

/-- A character that stands for itself in a text or a comment. -/
def isPlain (c : Char) : Bool :=
  c = '\t' || (0x20 ≤ c.toNat && c.toNat ≠ 0x7F)

/-- The text starts with a line end. -/
def startsLine : List Char → Bool
  | '\n' :: _ => true
  | '\r' :: '\n' :: _ => true
  | _ => false

/-- A text without a line end at its start. -/
def withoutLineEnd : List Char → List Char
  | '\n' :: s => s
  | '\r' :: '\n' :: s => s
  | s => s

/-- The character with a number of `count` hexadecimal digits. -/
def numberedChar? (count : Nat) (s : List Char) : Option (Char × List Char) :=
  let digits := s.take count
  let code := Text.hexNumber digits
  let isHex := digits.all fun c => (Text.hexDigit? c).isSome
  if digits.length = count && isHex && code.isValidChar then
    some (Char.ofNat code, s.drop count)
  else none

/-- Reads an escape behind its backslash. -/
def escape? : List Char → Option (Char × List Char)
  | [] => none
  | c :: s =>
    match c with
    | 'b' => some ('\x08', s)
    | 't' => some ('\t', s)
    | 'n' => some ('\n', s)
    | 'f' => some ('\x0c', s)
    | 'r' => some ('\r', s)
    | 'e' => some ('\x1b', s)
    | '"' => some ('"', s)
    | '\\' => some ('\\', s)
    | 'x' => numberedChar? 2 s
    | 'u' => numberedChar? 4 s
    | 'U' => numberedChar? 8 s
    | _ => none

/-- What is left behind the digits of a coded character is no longer than the text. -/
theorem length_of_numberedChar? {count : Nat} {s rest : List Char} {c : Char}
    (h : numberedChar? count s = some (c, rest)) : rest.length ≤ s.length := by
  simp only [numberedChar?] at h
  split at h
  · simp only [Option.some.injEq, Prod.mk.injEq] at h
    simp [← h.2]
  · simp at h

/-- An escape takes characters away. -/
theorem length_of_escape? {s rest : List Char} {c : Char} (h : escape? s = some (c, rest)) :
    rest.length ≤ s.length := by
  cases s with
  | nil => simp [escape?] at h
  | cons d s =>
    simp only [escape?] at h
    split at h <;> first
      | exact Nat.le_succ_of_le (length_of_numberedChar? h)
      | (simp only [Option.some.injEq, Prod.mk.injEq] at h; simp [← h.2])
      | simp at h

/-- Reads a text behind one double quote. What is read of it already is held last character first.
-/
def escapedOnto (read : List Char) (s : List Char) : Option (List Char × List Char) :=
  match s with
  | [] => none
  | c :: s =>
    if c = '"' then some (read.reverse, s)
    else if c = '\\' then
      match _h : escape? s with
      | some (d, s) => escapedOnto (d :: read) s
      | none => none
    else if isPlain c then escapedOnto (c :: read) s
    else none
termination_by s.length
decreasing_by
  · have := length_of_escape? _h; simp only [List.length_cons]; omega
  · simp

/-- Reads a text behind one single quote. -/
def verbatimOnto (read : List Char) : List Char → Option (List Char × List Char)
  | [] => none
  | c :: s =>
    if c = '\'' then some (read.reverse, s)
    else if isPlain c then verbatimOnto (c :: read) s
    else none

/-- The end of a text at the first of three quotes: up to two more quotes before the last three
belong to the text. Gives how many these are, and the rest behind all quotes. -/
def closing? (quote : Char) (s : List Char) : Option (Nat × List Char) :=
  let count := min 5 (s.takeWhile (· = quote)).length
  if 3 ≤ count then some (count - 3, s.drop count) else none

/-- Reads a text behind three double quotes. Behind a backslash at the end of a line, blanks and
line ends are passed over, and `passing` says that this goes on. -/
def escapedLinesOnto (passing : Bool) (read : List Char) (s : List Char) :
    Option (List Char × List Char) :=
  match s with
  | [] => none
  | c :: s =>
    if passing && (isBlank c || c = '\n' || (c = '\r' && s.head? = some '\n')) then
      escapedLinesOnto true read s
    else
      match closing? '"' (c :: s) with
      | some (more, rest) => some ((List.replicate more '"' ++ read).reverse, rest)
      | none =>
        if c = '\\' then
          if startsLine (s.dropWhile isBlank) then escapedLinesOnto true read s
          else
            match _h : escape? s with
            | some (d, s) => escapedLinesOnto false (d :: read) s
            | none => none
        else if isPlain c || c = '\n' || (c = '\r' && s.head? = some '\n') then
          escapedLinesOnto false (c :: read) s
        else none
termination_by s.length
decreasing_by
  · simp
  · simp
  · have := length_of_escape? _h; simp only [List.length_cons]; omega
  · simp

/-- Reads a text behind three single quotes. -/
def verbatimLinesOnto (read : List Char) : List Char → Option (List Char × List Char)
  | [] => none
  | c :: s =>
    match closing? '\'' (c :: s) with
    | some (more, rest) => some ((List.replicate more '\'' ++ read).reverse, rest)
    | none =>
      if isPlain c || c = '\n' || (c = '\r' && s.head? = some '\n') then
        verbatimLinesOnto (c :: read) s
      else none

/-- Reads a text that has to stay on its line. -/
def quotedLine? : List Char → Option (List Char × List Char)
  | '"' :: s => escapedOnto [] s
  | '\'' :: s => verbatimOnto [] s
  | _ => none

/-- Reads a text. -/
def quotedText? : List Char → Option (List Char × List Char)
  | '"' :: '"' :: '"' :: s => escapedLinesOnto false [] (withoutLineEnd s)
  | '\'' :: '\'' :: '\'' :: s => verbatimLinesOnto [] (withoutLineEnd s)
  | s => quotedLine? s

end ModBuild.Toml
