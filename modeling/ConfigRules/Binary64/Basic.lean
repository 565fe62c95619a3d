/-!
Binary floating-point numbers of 64 bits as exact values.

Every finite one is a whole number of *units*, a unit being the finest spacing `2 ^ -1074`. The
units that occur are those with at most 53 significant binary digits, below the overflow
threshold; the order of two numbers is the order of their signed units.
-/

-- Powers of whole numbers are the core library's, also where others are in scope.
attribute [instance (high), default_instance (high)] instPowNat

namespace ConfigRules

namespace Binary64

/-- How many units make one. -/
def unitsPerOne : Nat := 2 ^ 1074

/-- How many binary digits a finite magnitude in units may have. -/
def width : Nat := 2098

/-- The magnitude, in units, from which on a number counts as infinite. -/
def overflow : Nat := 2 ^ width

/-- At most 53 significant binary digits, and no overflow. -/
def Fits (units : Nat) : Prop := 2 ^ (units.log2 - 52) ∣ units ∧ units < overflow

instance (units : Nat) : Decidable (Fits units) := inferInstanceAs (Decidable (_ ∧ _))

/-- A finite number. Zero keeps its sign. -/
structure Finite where
  negative : Bool
  units : Nat
  fits : Fits units
deriving DecidableEq

namespace Finite

/-- The exact value, counted in units. -/
def signedUnits (x : Finite) : Int := if x.negative then -x.units else x.units

/-- The exact value is a whole number. -/
def IsWhole (x : Finite) : Prop := x.units % unitsPerOne = 0

instance (x : Finite) : Decidable x.IsWhole := inferInstanceAs (Decidable (_ = _))

/-- The value with its fraction cut off. -/
def truncate (x : Finite) : Int := x.signedUnits.tdiv unitsPerOne

end Finite

end Binary64

/-- A number as 64-bit binary arithmetic has it. -/
inductive Binary64 where
  | finite (x : Binary64.Finite)
  | infinite (negative : Bool)
  | nan
deriving DecidableEq

namespace Binary64

/-- The place of a number in the order; a NaN has none. -/
def rank? : Binary64 → Option Int
  | finite x => some x.signedUnits
  | infinite negative => some (if negative then -overflow else overflow)
  | nan => none

def finite? : Binary64 → Option Finite
  | finite x => some x
  | _ => none

/-- Numbers compare by value, so both zeros are equal; a NaN compares with nothing. -/
def compare? (x y : Binary64) : Option Ordering :=
  match x.rank?, y.rank? with
  | some a, some b => some (compare a b)
  | _, _ => none

theorem overflow_pos : 0 < overflow := Nat.two_pow_pos width

theorem Fits.zero : Fits 0 := ⟨Nat.dvd_zero _, overflow_pos⟩

/-- Zero with a sign. -/
def zero (negative : Bool) : Binary64 := finite ⟨negative, 0, .zero⟩

end Binary64

end ConfigRules
