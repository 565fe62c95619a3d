import ConfigRules.Json.Basic
import ConfigRules.Numeral

/-!
Floats in JSON text. They are read fast and not always to the nearest number: digits that do not fit
64 bits are dropped, and what the others make is scaled by a power of ten, with both rounded.
-/

namespace ConfigRules.Json.Real

open Binary64

/-- Takes digits into a coefficient of 64 bits, and gives back those from the first one on that does
not fit. -/
def takeDigits (coefficient : Nat) : List Char → Nat × List Char
  | [] => (coefficient, [])
  | c :: cs =>
    let next := 10 * coefficient + (c.toNat - '0'.toNat)
    if next < 2 ^ 64 then takeDigits next cs else (coefficient, c :: cs)

/-- The greatest power of ten by which a number is scaled at once. -/
def maxPower : Nat := 308

def powerOfTen? (n : Nat) : Option Finite := (Binary64.ofDecimal false 1 n).finite?

/-- Multiplies or divides by a power of ten. What is too great is no number; what is too small comes
down to zero in a few steps. -/
def scale? (x : Finite) (exponent : Int) : Option Finite :=
  if exponent.natAbs ≤ maxPower then do
    let power ← powerOfTen? exponent.natAbs
    (if 0 ≤ exponent then x.mul power else x.div power).finite?
  else if x.units = 0 then some x
  else if 0 ≤ exponent then none
  else do scale? (← (x.div (← powerOfTen? maxPower)).finite?) (exponent + maxPower)
termination_by exponent.natAbs
decreasing_by simp only [maxPower] at *; omega

/-- The float of a numeral without its sign. Digits of the whole part that do not fit count as
zeros; those of the fraction do not count at all. -/
def read? (negative : Bool) (whole fraction exponent : List Char) : Option Finite := do
  let (wholeCoefficient, wholeRest) := takeDigits 0 whole
  let (coefficient, fractionRest) := takeDigits wholeCoefficient fraction.tail
  let places : Int := wholeRest.length - (fraction.tail.length - fractionRest.length)
  let power ← Numeral.readExponent? exponent
  let x ← scale? (← (Binary64.ofInt coefficient).finite?) (power + places)
  return { x with negative }

end ConfigRules.Json.Real
