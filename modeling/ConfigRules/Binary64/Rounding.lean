import ConfigRules.Binary64.Basic

/-!
Rounding to the nearest 64-bit number, ties to even: of ratios, whole numbers, decimals, products and
quotients.
-/

namespace ConfigRules.Binary64

/-- The whole number nearest to a ratio; of two equally near the even one. -/
def roundDiv (num den : Nat) : Nat :=
  let q := num / den
  let r := num % den
  if 2 * r < den then q else if den < 2 * r then q + 1 else q + q % 2

/-- The spacing of 53-digit numbers at a magnitude, in units. -/
def spacing (units : Nat) : Nat := 2 ^ (units.log2 - 52)

/-- The magnitude of 53 significant digits nearest to `num / den` units. -/
def nearestUnits (num den : Nat) : Nat :=
  let gap := spacing (num / den)
  roundDiv num (den * gap) * gap

theorem roundDiv_le (num den : Nat) : roundDiv num den ≤ num / den + 1 := by
  unfold roundDiv
  dsimp only
  split
  · omega
  · split <;> omega

/-- A multiple of a power of two by at most `2 ^ 53` has at most 53 significant digits. -/
theorem spacing_dvd_mul {m k : Nat} (hm : m ≤ 2 ^ 53) : spacing (m * 2 ^ k) ∣ m * 2 ^ k := by
  unfold spacing
  by_cases hz : m = 0
  · simp [hz]
  by_cases he : m = 2 ^ 53
  · subst he
    rw [← Nat.pow_add, Nat.log2_two_pow]
    exact Nat.pow_dvd_pow 2 (by omega)
  · have hlt : m * 2 ^ k < 2 ^ (53 + k) := by
      rw [Nat.pow_add]
      exact Nat.mul_lt_mul_of_pos_right (by omega) (Nat.two_pow_pos k)
    have hne : m * 2 ^ k ≠ 0 := Nat.mul_ne_zero hz (Nat.ne_of_gt (Nat.two_pow_pos k))
    have hlog := (Nat.log2_lt hne).mpr hlt
    exact Nat.dvd_trans (Nat.pow_dvd_pow 2 (by omega)) (Nat.dvd_mul_left _ _)

theorem spacing_dvd_nearestUnits (num den : Nat) :
    spacing (nearestUnits num den) ∣ nearestUnits num den := by
  have hq : num / (den * spacing (num / den)) < 2 ^ 53 := by
    rw [← Nat.div_div_eq_div_mul]
    generalize num / den = q
    unfold spacing
    by_cases hz : q = 0
    · simp [hz]
    · rw [Nat.div_lt_iff_lt_mul (Nat.two_pow_pos _), ← Nat.pow_add]
      exact (Nat.log2_lt hz).mp (by omega)
  exact spacing_dvd_mul (Nat.le_trans (roundDiv_le _ _) hq)

/-- The number nearest to `num / den` units, infinite from the overflow threshold on. -/
def ofUnits (negative : Bool) (num den : Nat) : Binary64 :=
  if h : nearestUnits num den < overflow then
    finite ⟨negative, nearestUnits num den, spacing_dvd_nearestUnits num den, h⟩
  else infinite negative

/-- The number nearest to `num / den`. -/
def ofRatio (negative : Bool) (num den : Nat) : Binary64 :=
  ofUnits negative (num * unitsPerOne) den

/-- The number nearest to a whole number. -/
def ofInt (n : Int) : Binary64 := ofRatio (n < 0) n.natAbs 1

/-- How many decimal digits a number has; zero has none. -/
def decimalLength (n : Nat) : Nat := if n = 0 then 0 else (Nat.toDigits 10 n).length

/-- The number nearest to `coefficient · 10 ^ exponent`. What lies above `10 ^ 310` is infinite and
what lies below `10 ^ -330` is zero, whatever its digits, so that no huge power is ever taken. -/
def ofDecimal (negative : Bool) (coefficient : Nat) (exponent : Int) : Binary64 :=
  let top := exponent + decimalLength coefficient
  if coefficient = 0 ∨ top < -330 then zero negative
  else if 310 < top then infinite negative
  else ofRatio negative (coefficient * 10 ^ exponent.toNat) (10 ^ (-exponent).toNat)

/-- The number nearest to a product. -/
def Finite.mul (x y : Finite) : Binary64 :=
  ofUnits (x.negative != y.negative) (x.units * y.units) unitsPerOne

/-- The number nearest to a quotient by a number other than zero. -/
def Finite.div (x y : Finite) : Binary64 := ofRatio (x.negative != y.negative) x.units y.units

end ConfigRules.Binary64
