import Mathlib.Data.Nat.Digits.Defs
import Mathlib.Order.Basic
import ConfigRules.Binary64.Rounding

/-!
Exact values of 64-bit numbers and their rounding. Rounding depends on the ratio alone, so a decimal
may be written with more or fewer zeros, and it leaves alone what has a 64-bit number.
-/

namespace ConfigRules.Binary64

theorem unitsPerOne_pos : 0 < unitsPerOne := by
  unfold unitsPerOne
  apply Nat.pow_pos
  decide

namespace Finite

/-- The exact value is a certain whole number. -/
def Equals (x : Finite) (n : Int) : Prop := x.signedUnits = n * unitsPerOne

instance (x : Finite) (n : Int) : Decidable (x.Equals n) := inferInstanceAs (Decidable (_ = _))

variable {x : Finite} {m n : Int}

theorem natAbs_signedUnits (x : Finite) : x.signedUnits.natAbs = x.units := by
  unfold signedUnits
  split <;> simp

theorem Equals.truncate_eq (h : x.Equals n) : x.truncate = n := by
  have hpos := unitsPerOne_pos
  unfold truncate
  rw [h, Int.mul_tdiv_cancel]
  omega

theorem Equals.isWhole (h : x.Equals n) : x.IsWhole := by
  have hunits : x.units = n.natAbs * unitsPerOne := by
    rw [← natAbs_signedUnits, h, Int.natAbs_mul, Int.natAbs_natCast]
  unfold IsWhole
  rw [hunits, Nat.mul_mod_left]

theorem IsWhole.equals (h : x.IsWhole) : x.Equals x.truncate := by
  have hdvd : (unitsPerOne : Int) ∣ x.signedUnits := by
    rw [← Int.dvd_natAbs, natAbs_signedUnits]
    exact Int.natCast_dvd_natCast.mpr (Nat.dvd_of_mod_eq_zero h)
  exact (Int.tdiv_mul_cancel hdvd).symm

theorem Equals.unique (hm : x.Equals m) (hn : x.Equals n) : m = n :=
  hm.truncate_eq.symm.trans hn.truncate_eq

end Finite

variable {num den k : Nat} {negative : Bool}

theorem roundDiv_mul_right (num den : Nat) (hk : 0 < k) :
    roundDiv (num * k) (den * k) = roundDiv num den := by
  have hlow : 2 * (num % den * k) < den * k ↔ 2 * (num % den) < den := by
    rw [← Nat.mul_assoc]
    exact Nat.mul_lt_mul_right hk
  have hhigh : den * k < 2 * (num % den * k) ↔ den < 2 * (num % den) := by
    rw [← Nat.mul_assoc]
    exact Nat.mul_lt_mul_right hk
  unfold roundDiv
  simp only [Nat.mul_div_mul_right _ _ hk, Nat.mul_mod_mul_right, hlow, hhigh]

theorem nearestUnits_mul_right (num den : Nat) (hk : 0 < k) :
    nearestUnits (num * k) (den * k) = nearestUnits num den := by
  unfold nearestUnits
  simp only [Nat.mul_div_mul_right _ _ hk, Nat.mul_right_comm den k, roundDiv_mul_right _ _ hk]

theorem ofUnits_mul_right (num den : Nat) (hk : 0 < k) :
    ofUnits negative (num * k) (den * k) = ofUnits negative num den := by
  unfold ofUnits
  simp only [nearestUnits_mul_right num den hk]

/-- Equal ratios have the same nearest number. -/
theorem ofRatio_congr {a b c d : Nat} (hb : 0 < b) (hd : 0 < d) (h : a * d = c * b) :
    ofRatio negative a b = ofRatio negative c d := by
  unfold ofRatio
  rw [← ofUnits_mul_right (a * unitsPerOne) b hd, ← ofUnits_mul_right (c * unitsPerOne) d hb,
    Nat.mul_right_comm, h, Nat.mul_right_comm c, Nat.mul_comm b d]

/-- What has a 64-bit number is left alone by rounding. -/
theorem nearestUnits_of_fits {units : Nat} (h : Fits units) : nearestUnits units 1 = units := by
  have hdvd : spacing units ∣ units := h.1
  have hpos : 0 < spacing units := Nat.two_pow_pos _
  have hround : roundDiv units (spacing units) = units / spacing units := by
    unfold roundDiv
    simp [Nat.mod_eq_zero_of_dvd hdvd, hpos]
  unfold nearestUnits
  simp only [Nat.div_one, Nat.one_mul, hround]
  exact Nat.div_mul_cancel hdvd

theorem ofUnits_of_fits {units : Nat} (h : Fits units) :
    ofUnits negative units 1 = finite ⟨negative, units, h⟩ := by
  unfold ofUnits
  simp only [nearestUnits_of_fits h]
  rw [dif_pos h.2]

theorem decimalLength_le_iff {n : Nat} : decimalLength n ≤ k ↔ n < 10 ^ k := by
  unfold decimalLength
  split
  · rename_i hn
    simp [hn]
  · cases k with
    | zero =>
      have hpos : (Nat.toDigits 10 n).length ≠ 0 := by simp
      rw [Nat.pow_zero]
      omega
    | succ k => exact Nat.length_toDigits_le_iff (by decide) (Nat.succ_pos k)

theorem decimalLength_mul_pow {n : Nat} (hn : 0 < n) (j : Nat) :
    decimalLength (n * 10 ^ j) = decimalLength n + j := by
  apply eq_of_forall_ge_iff
  intro k
  rw [decimalLength_le_iff]
  by_cases hj : j ≤ k
  · obtain ⟨i, rfl⟩ := Nat.exists_eq_add_of_le hj
    rw [Nat.add_comm j i, Nat.pow_add, Nat.mul_lt_mul_right (Nat.pow_pos (by decide)),
      ← decimalLength_le_iff]
    omega
  · have hpow : 10 ^ k ≤ n * 10 ^ j :=
      Nat.le_trans (Nat.pow_le_pow_right (by decide) (by omega)) (Nat.le_mul_of_pos_left _ hn)
    omega

theorem ofDecimal_zero (negative : Bool) (exponent : Int) :
    ofDecimal negative 0 exponent = zero negative := by
  unfold ofDecimal
  simp

/-- Zeros at the end of a coefficient count in the exponent. -/
theorem ofDecimal_mul_pow (negative : Bool) (coefficient k : Nat) (exponent : Int) :
    ofDecimal negative (coefficient * 10 ^ k) exponent =
      ofDecimal negative coefficient (exponent + k) := by
  have hten : ∀ n : Nat, 0 < 10 ^ n := fun _ => Nat.pow_pos (by decide)
  by_cases hc : coefficient = 0
  · rw [hc, Nat.zero_mul, ofDecimal_zero, ofDecimal_zero]
  · unfold ofDecimal
    have hck : coefficient * 10 ^ k ≠ 0 := Nat.mul_ne_zero hc (Nat.ne_of_gt (hten k))
    have htop : exponent + (decimalLength (coefficient * 10 ^ k) : Nat) =
        exponent + k + (decimalLength coefficient : Nat) := by
      rw [decimalLength_mul_pow (Nat.pos_of_ne_zero hc)]
      omega
    have hratio : ofRatio negative (coefficient * 10 ^ k * 10 ^ exponent.toNat)
          (10 ^ (-exponent).toNat) =
        ofRatio negative (coefficient * 10 ^ (exponent + k).toNat)
          (10 ^ (-(exponent + k)).toNat) := by
      apply ofRatio_congr (hten _) (hten _)
      have hexponents : k + (exponent.toNat + (-(exponent + k)).toNat) =
          (exponent + k).toNat + (-exponent).toNat := by omega
      rw [Nat.mul_assoc, Nat.mul_assoc, Nat.mul_assoc, ← Nat.pow_add, ← Nat.pow_add, ← Nat.pow_add,
        hexponents]
    simp only [hc, hck, htop, hratio]

end ConfigRules.Binary64
