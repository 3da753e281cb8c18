/-!
# `ModBuild.Text.Decimal`: reading decimal numbers

Numbers are ASCII digits, perhaps behind a sign, and are bounded by the width they are kept in. A
number that does not fit is refused as soon as that shows, however many digits follow.

* `naturalBelow?` reads digits, `signedNatural?` and `signedInteger?` also a sign.
-/

set_option autoImplicit false

namespace ModBuild.Text

/-- An ASCII decimal digit. -/
def isDigit (c : Char) : Bool :=
  '0' ≤ c && c ≤ '9'

/-- The value of a decimal digit. -/
def digitValue (c : Char) : Nat :=
  c.toNat - '0'.toNat

/-- The number that one more digit makes of a number. -/
def appendDigit (n : Nat) (c : Char) : Nat :=
  n * 10 + digitValue c

/-- The number that digits stand for. -/
def decimalValue (digits : List Char) : Nat :=
  digits.foldl appendDigit 0

/-- Continues a number with digits while it stays below a bound. -/
def continueBelow? (bound : Nat) (n : Nat) : List Char → Option Nat
  | [] => some n
  | c :: rest =>
    let next := appendDigit n c
    if isDigit c && next < bound then continueBelow? bound next rest else none

/-- Reads one or more digits as a number below a bound. -/
def naturalBelow? (bound : Nat) : List Char → Option Nat
  | [] => none
  | digits => continueBelow? bound 0 digits

/-- Reads a number below a bound that may have a plus sign in front. -/
def signedNatural? (bound : Nat) : List Char → Option Nat
  | '+' :: digits => naturalBelow? bound digits
  | digits => naturalBelow? bound digits

/-- Reads a number of 64 bits with two's-complement range that may have a sign in front. -/
def signedInteger? : List Char → Option Int64
  | '-' :: digits => (naturalBelow? (Nat.pow 2 63 + 1) digits).map fun n => Int64.ofInt (-(n : Int))
  | digits => (signedNatural? (Nat.pow 2 63) digits).map fun n => Int64.ofInt n

end ModBuild.Text
