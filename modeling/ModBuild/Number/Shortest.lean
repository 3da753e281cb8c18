import ModBuild.Number.Binary64

/-!
# `ModBuild.Number.Shortest`: the fewest digits that tell a number

A decimal stands for the floating-point number nearest to it. The decimal of a number is the one
with the fewest digits that stands for it, of several the nearest to it, of two equally near ones
the one with the even last digit.

The decimals that stand for a number fill an interval: from halfway to the number below to halfway
to the number above, ends included if the mantissa is even. On the grid of decimals with `n` digits
only the two neighbours of the number have to be tried.
-/

set_option autoImplicit false

namespace ModBuild.Number

/-- Decimal digits before a power of ten: `digits * 10 ^ exponent`. -/
structure Decimal where
  digits : Nat
  exponent : Int
  deriving DecidableEq

namespace Decimal

/-- A decimal as a quotient. -/
def ratio (d : Decimal) : Nat × Nat :=
  (d.digits * Nat.pow 10 d.exponent.toNat, Nat.pow 10 (-d.exponent).toNat)

end Decimal

namespace Magnitude

/-- The halfway points below and above a magnitude, and the magnitude, in quarters of its last
place. Below a power of two the numbers lie twice as close. -/
def quarters (x : Magnitude) : Nat × Nat × Nat :=
  let close := x.mantissa = Nat.pow 2 (precision - 1) && leastExponent < x.exponent
  (4 * x.mantissa - if close then 1 else 2, 4 * x.mantissa, 4 * x.mantissa + 2)

/-- Some quarters of the last place of a magnitude as a quotient. -/
def quarterRatio (x : Magnitude) (n : Nat) : Nat × Nat :=
  (n * Nat.pow 2 x.exponent.toNat, 4 * Nat.pow 2 (-x.exponent).toNat)

/-- A decimal stands for a magnitude. -/
def standsFor (x : Magnitude) (d : Decimal) : Bool :=
  let (low, _, high) := x.quarters
  let below (a b : Nat × Nat) (orEqual : Bool) :=
    a.1 * b.2 < b.1 * a.2 || (orEqual && a.1 * b.2 = b.1 * a.2)
  let even := x.mantissa % 2 = 0
  below (x.quarterRatio low) d.ratio even && below d.ratio (x.quarterRatio high) even

/-- The power of ten of the first digit of a quotient that is not 0. -/
def leadingPower (num den : Nat) : Int :=
  if den ≤ num then ((Nat.toDigits 10 (num / den)).length : Int) - 1
  else -((((List.range 400).find? fun i => den ≤ num * Nat.pow 10 i).getD 0 : Nat) : Int)

/-- The neighbours of a magnitude among the decimals whose last digit is at a power of ten, the
nearer one first. -/
def neighbours (x : Magnitude) (power : Int) : List Decimal :=
  let (num, den) := x.ratio
  let scaledNum := num * Nat.pow 10 (-power).toNat
  let scaledDen := den * Nat.pow 10 power.toNat
  let under := scaledNum / scaledDen
  let twice := 2 * (scaledNum % scaledDen)
  let lower : Decimal := ⟨under, power⟩
  let upper : Decimal := ⟨under + 1, power⟩
  if twice < scaledDen || (twice = scaledDen && under % 2 = 0) then [lower, upper]
  else [upper, lower]

/-- The shortest decimal for a magnitude that is not 0. -/
def shortest (x : Magnitude) : Decimal :=
  let (num, den) := x.ratio
  let lead := leadingPower num den
  let hit := (List.range 17).findSome? fun (n : Nat) => (x.neighbours (lead - n)).find? x.standsFor
  hit.getD ⟨0, 0⟩

end Magnitude

namespace Decimal

/-- A decimal without zeros at the end of its digits. -/
def trim : Nat → Decimal → Decimal
  | 0, d => d
  | fuel + 1, d =>
    if d.digits ≠ 0 && d.digits % 10 = 0 then trim fuel ⟨d.digits / 10, d.exponent + 1⟩ else d

end Decimal

/-- How a decimal is written: the powers of ten of the first digit for which it is written out in
full, with a fraction always. All others are written with one digit before the point and the power
with its sign behind an `e`. -/
structure DecimalStyle where
  leastPlain : Int
  greatestPlain : Int

namespace DecimalStyle


/-- Writes a decimal. -/
def write (style : DecimalStyle) (d : Decimal) : String :=
  let d := Decimal.trim 20 d
  let digits := (toString d.digits).toList
  let lead : Int := d.exponent + digits.length - 1
  if style.leastPlain ≤ lead ∧ lead ≤ style.greatestPlain then
    if 0 ≤ d.exponent then
      String.ofList (digits ++ List.replicate d.exponent.toNat '0') ++ ".0"
    else if 0 ≤ lead then
      let whole := (lead + 1).toNat
      String.ofList (digits.take whole) ++ "." ++ String.ofList (digits.drop whole)
    else
      "0." ++ String.ofList (List.replicate (-lead - 1).toNat '0' ++ digits)
  else
    let fraction := if digits.length > 1 then "." ++ String.ofList (digits.drop 1) else ""
    String.ofList (digits.take 1) ++ fraction ++ "e" ++ (if lead < 0 then "-" else "+") ++
      toString lead.natAbs

end DecimalStyle

/-- Writes a floating-point number in a style. -/
def Binary64.write (style : DecimalStyle) (x : Binary64) : String :=
  let sign := if x.negative then "-" else ""
  if x.magnitude.mantissa = 0 then sign ++ "0.0"
  else sign ++ style.write x.magnitude.shortest

end ModBuild.Number
