import ConfigRules.Binary64.Rounding

/-!
The shortest decimal that reads back as a given 64-bit number, and of those the nearest.
-/

namespace ConfigRules

/-- The number `coefficient · 10 ^ exponent`. -/
structure Decimal where
  coefficient : Nat
  exponent : Int
deriving DecidableEq

namespace Decimal

open Binary64

/-- Which of two equally near decimals is taken. -/
inductive Tie where
  | even
  | up
deriving DecidableEq

/-- Reading the decimal with the number's sign gives the number. -/
def ReadsBack (x : Finite) (d : Decimal) : Prop :=
  ofDecimal x.negative d.coefficient d.exponent = .finite x

instance (x : Finite) (d : Decimal) : Decidable (ReadsBack x d) :=
  inferInstanceAs (Decidable (_ = _))

/-- Of the two multiples of `10 ^ exponent` around a number, the nearer one that reads back. -/
def onGrid? (tie : Tie) (x : Finite) (exponent : Int) : Option Decimal :=
  let num := x.units * 10 ^ (-exponent).toNat
  let den := unitsPerOne * 10 ^ exponent.toNat
  let low := num / den
  let rest := num % den
  let takeLow : Bool := 2 * rest < den || (2 * rest == den && tie = .even && low % 2 == 0)
  let order := if takeLow then [low, low + 1] else [low + 1, low]
  (order.map (Decimal.mk · exponent)).find? (ReadsBack x ·)

/-- The power of ten at the first digit of a positive magnitude. The least one, a single unit, is
just under `5 · 10 ^ -324`. -/
def leadingExponent (units : Nat) : Int :=
  ((Nat.toDigits 10 (units * 10 ^ 324 / unitsPerOne)).length : Int) - 325

/-- All the digits of a number, as a unit is `5 ^ 1074 · 10 ^ -1074`. -/
def exact (x : Finite) : Decimal := ⟨x.units * 5 ^ 1074, -1074⟩

/-- The fewest digits that read back; seventeen always do. -/
def shortest (tie : Tie) (x : Finite) : Decimal :=
  let top := leadingExponent x.units
  ((List.range 17).findSome? fun (n : Nat) => onGrid? tie x (top - n)).getD (exact x)

end Decimal

end ConfigRules
