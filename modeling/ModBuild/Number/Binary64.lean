/-!
# `ModBuild.Number.Binary64`: floating-point numbers, exactly

A finite number of 64 bits is a sign and `mantissa * 2 ^ exponent`, with a mantissa below `2 ^ 53`.
Arithmetic is on natural numbers: an exact quotient is formed and rounded once, to the nearest
number, and of two equally near ones to the one with the even mantissa.

* `Magnitude.ofRatio?` rounds a quotient.
* `Magnitude.scaled?` multiplies a magnitude by a power of ten the way a quick decimal reader does:
  the power is rounded first, then the product or quotient.
-/

set_option autoImplicit false

namespace ModBuild.Number

/-- A number that is not negative: `mantissa * 2 ^ exponent`. The mantissa has all its 53 bits, or
the exponent is the least one. -/
structure Magnitude where
  mantissa : Nat
  exponent : Int
  deriving DecidableEq

/-- A finite number with its sign, which 0 has too. -/
structure Binary64 where
  negative : Bool
  magnitude : Magnitude
  deriving DecidableEq

namespace Magnitude

/-- The bits of a full mantissa. -/
def precision : Nat := 53

/-- The least exponent. -/
def leastExponent : Int := -1074

/-- The greatest exponent. -/
def greatestExponent : Int := 971

/-- Nothing. -/
def zero : Magnitude :=
  ⟨0, leastExponent⟩

/-- The quotient to the nearest natural number, a tie to the even one. -/
def roundedQuotient (num den : Nat) : Nat :=
  let q := num / den
  let twice := 2 * (num % den)
  if twice > den || (twice = den && q % 2 = 1) then q + 1 else q

/-- The quotient of two numbers over `2 ^ exponent`, rounded. -/
def mantissaAt (num den : Nat) (exponent : Int) : Nat :=
  roundedQuotient (num * Nat.pow 2 (-exponent).toNat) (den * Nat.pow 2 exponent.toNat)

/-- A quotient rounded to the nearest magnitude, if there is one that near: too great a quotient has
none. -/
def ofRatio? (num den : Nat) : Option Magnitude :=
  if num = 0 then some zero
  else
    -- The quotient lies between `2 ^ (guess - 1)` and `2 ^ (guess + 1)`.
    let guess : Int := (Nat.log2 num : Int) - Nat.log2 den
    let full : Int := guess - (precision - 1 : Nat)
    let low := max leastExponent (full - 1)
    let bound := Nat.pow 2 precision
    let exponent := if mantissaAt num den low < bound then low else max leastExponent full
    let m := mantissaAt num den exponent
    let (m, exponent) := if m < bound then (m, exponent) else (m / 2, exponent + 1)
    if exponent > greatestExponent then none else some ⟨m, exponent⟩

/-- A magnitude as a quotient. -/
def ratio (x : Magnitude) : Nat × Nat :=
  (x.mantissa * Nat.pow 2 x.exponent.toNat, Nat.pow 2 (-x.exponent).toNat)

/-- The magnitude nearest to a power of ten that is not too great. -/
def powerOfTen (n : Nat) : Magnitude :=
  (ofRatio? (Nat.pow 10 n) 1).getD zero

/-- The product, rounded. -/
def mul? (x y : Magnitude) : Option Magnitude :=
  ofRatio? (x.ratio.1 * y.ratio.1) (x.ratio.2 * y.ratio.2)

/-- The quotient, rounded. -/
def div? (x y : Magnitude) : Option Magnitude :=
  ofRatio? (x.ratio.1 * y.ratio.2) (x.ratio.2 * y.ratio.1)

/-- The greatest power of ten that is a magnitude. -/
def greatestPower : Nat := 308

/-- Divides by a power of ten, in steps of the greatest one. -/
def dividedByPower (x : Magnitude) (n : Nat) : Magnitude :=
  if n ≤ greatestPower then (x.div? (powerOfTen n)).getD zero
  else if x.mantissa = 0 then x
  else ((x.div? (powerOfTen greatestPower)).getD zero).dividedByPower (n - greatestPower)
termination_by n
decreasing_by simp only [greatestPower] at *; omega

/-- Multiplies a magnitude by a power of ten. A product that is too great is none, and so is one
with a power that is. -/
def scaled? (x : Magnitude) (exponent : Int) : Option Magnitude :=
  if exponent < 0 then some (x.dividedByPower (-exponent).toNat)
  else if exponent ≤ greatestPower then x.mul? (powerOfTen exponent.toNat)
  else if x.mantissa = 0 then some x
  else none

end Magnitude

end ModBuild.Number
