import ModBuild.Number.Binary64
import ModBuild.Text.Decimal
import ModBuild.Text.Ranges

/-!
# `ModBuild.Toml.Scalar`: numbers, truth values and times

What a value without quotes or brackets means. Numbers may have underscores between their digits.
Times are only checked: no setting is a time.

* `Scalar.ofText?` reads such a value.
-/

set_option autoImplicit false

namespace ModBuild.Toml

/-- A value without quotes or brackets. -/
inductive Scalar where
  | integer (value : Int)
  /-- A number with a fraction or an exponent, or none at all. -/
  | float
  /-- A number that is too great for its kind. -/
  | tooGreat
  | boolean (value : Bool)
  | time
  deriving DecidableEq

namespace Scalar

/-! ### Numbers -/

/-- Digits with single underscores between them, without the underscores. -/
def ungrouped? (isDigit : Char → Bool) (s : List Char) : Option (List Char) :=
  let groups := Text.cutAt (· = '_') s
  if groups.all (fun g => g ≠ [] && g.all isDigit) then some groups.flatten else none

/-- Decimal digits without zeros in front. -/
def plainDigits? (s : List Char) : Option (List Char) :=
  match ungrouped? Text.isDigit s with
  | some ('0' :: _ :: _) => none
  | digits => digits

/-- The value of digits in a base. -/
def valueIn (base : Nat) (digits : List Char) : Nat :=
  digits.foldl (fun n c => n * base + (Text.hexDigit? c).getD 0) 0

/-- A number in a base up to 16. -/
def inBase? (base : Nat) (s : List Char) : Option Int :=
  let isDigit (c : Char) : Bool := (Text.hexDigit? c).any (· < base)
  (ungrouped? isDigit s).map fun digits => (valueIn base digits : Int)

/-- A whole number. -/
def integer? : List Char → Option Int
  | '0' :: 'x' :: s => inBase? 16 s
  | '0' :: 'o' :: s => inBase? 8 s
  | '0' :: 'b' :: s => inBase? 2 s
  | '-' :: s => (plainDigits? s).map fun digits => -(Text.decimalValue digits : Int)
  | '+' :: s => (plainDigits? s).map fun digits => (Text.decimalValue digits : Int)
  | s => (plainDigits? s).map fun digits => (Text.decimalValue digits : Int)

/-- Whole numbers have up to 128 bits, with a sign or without. -/
def ofInteger (n : Int) : Scalar :=
  if -(Nat.pow 2 127 : Int) ≤ n && n < (Nat.pow 2 128 : Int) then .integer n else .tooGreat

/-- A text without a sign in front. -/
def unsigned : List Char → List Char
  | '+' :: s | '-' :: s => s
  | s => s

/-- The number `0.d₁d₂… * 10 ^ power` is too great for a floating-point number. -/
def overflows (digits : List Char) (power : Int) : Bool :=
  if power > 310 then true
  else if power < 0 then false
  else
    let scale := (power - digits.length : Int)
    (Number.Magnitude.ofRatio? (Text.decimalValue digits * Nat.pow 10 scale.toNat)
      (Nat.pow 10 (-scale).toNat)).isNone

/-- A number with a fraction or an exponent, without its sign. -/
def decimal? (s : List Char) : Option Scalar := do
  let isMark (c : Char) : Bool := c = 'e' || c = 'E'
  let front := s.takeWhile (!isMark ·)
  let exponent ←
    match s.dropWhile (!isMark ·) with
    | [] => some (0 : Int)
    | _ :: '-' :: e => (ungrouped? Text.isDigit e).map fun d => -(Text.decimalValue d : Int)
    | _ :: e => (ungrouped? Text.isDigit (unsigned e)).map fun d => (Text.decimalValue d : Int)
  let (whole, fraction) ←
    match Text.cutAt (· = '.') front with
    | [whole] => some (← plainDigits? whole, [])
    | [whole, fraction] => some (← plainDigits? whole, ← ungrouped? Text.isDigit fraction)
    | _ => none
  let digits := (whole ++ fraction).dropWhile (· = '0')
  if digits ≠ [] && overflows digits (exponent + digits.length - fraction.length) then
    return .tooGreat
  else return .float

/-! ### Times -/

/-- A number of `count` digits in a range. -/
def counted? (count low high : Nat) (s : List Char) : Option Nat :=
  let n := Text.decimalValue s
  if s.length = count && s.all Text.isDigit && low ≤ n && n ≤ high then some n else none

/-- The days of a month. -/
def daysOf (year month : Nat) : Nat :=
  if month = 2 then
    if year % 4 = 0 && (year % 100 ≠ 0 || year % 400 = 0) then 29 else 28
  else if [4, 6, 9, 11].contains month then 30
  else 31

/-- A day of the calendar. -/
def isDate (s : List Char) : Bool :=
  match Text.cutAt (· = '-') s with
  | [year, month, day] =>
    match counted? 4 0 9999 year, counted? 2 1 12 month with
    | some y, some m => (counted? 2 1 (daysOf y m) day).isSome
    | _, _ => false
  | _ => false

/-- A time of day, where the seconds may have a fraction or be missing. -/
def isTimeOfDay (s : List Char) : Bool :=
  let clock := s.takeWhile (· ≠ '.')
  let fraction := (s.dropWhile (· ≠ '.')).drop 1
  let hasFraction := s.contains '.'
  match Text.cutAt (· = ':') clock with
  | [hour, minute] =>
    !hasFraction && (counted? 2 0 23 hour).isSome && (counted? 2 0 59 minute).isSome
  | [hour, minute, second] =>
    (!hasFraction || (fraction ≠ [] && fraction.all Text.isDigit)) &&
      (counted? 2 0 23 hour).isSome && (counted? 2 0 59 minute).isSome &&
      (counted? 2 0 60 second).isSome
  | _ => false

/-- How far a time is from the one of the prime meridian. -/
def isOffset : List Char → Bool
  | ['Z'] | ['z'] => true
  | '+' :: s | '-' :: s =>
    match Text.cutAt (· = ':') s with
    | [hour, minute] => (counted? 2 0 23 hour).isSome && (counted? 2 0 59 minute).isSome
    | _ => false
  | _ => false

/-- A character that starts an offset. -/
def startsOffset (c : Char) : Bool :=
  c = 'Z' || c = 'z' || c = '+' || c = '-'

/-- A day, a time of day, or both, then perhaps with an offset. -/
def isTime (s : List Char) : Bool :=
  if isDate s || isTimeOfDay s then true
  else
    let date := s.take 10
    match s.drop 10 with
    | mark :: rest =>
      let clock := rest.takeWhile (!startsOffset ·)
      let offset := rest.dropWhile (!startsOffset ·)
      isDate date && (mark = 'T' || mark = 't' || mark = ' ') && isTimeOfDay clock &&
        (offset = [] || isOffset offset)
    | [] => false

/-! ### Any of them -/

/-- The value that a text stands for. -/
def ofText? (s : List Char) : Option Scalar :=
  if s = "true".toList then some (.boolean true)
  else if s = "false".toList then some (.boolean false)
  else if unsigned s = "inf".toList || unsigned s = "nan".toList then some .float
  else if isTime s then some .time
  else
    match integer? s with
    | some n => some (ofInteger n)
    | none => decimal? (unsigned s)

/-- A character of a value without quotes or brackets. -/
def isChar (c : Char) : Bool :=
  c.isAlphanum || c = '+' || c = '-' || c = '.' || c = '_' || c = ':'

/-- The text of a value, and what follows. A space may stand between a day and a time. -/
def cut (s : List Char) : List Char × List Char :=
  let first := s.takeWhile isChar
  match s.dropWhile isChar with
  | ' ' :: c :: rest =>
    if isDate first && Text.isDigit c then
      (first ++ ' ' :: (c :: rest).takeWhile isChar, (c :: rest).dropWhile isChar)
    else (first, ' ' :: c :: rest)
  | rest => (first, rest)

end Scalar

end ModBuild.Toml
