import ConfigRules.Proofs.Binary64
import ConfigRules.Decimal.Layout

/-!
The digits chosen for a 64-bit number read back as that number.
-/

namespace ConfigRules.Decimal

open Binary64

/-- A number of units in decimal, where a unit is `5 ^ k · 10 ^ -k`, reads as that number of units.
The two bounds keep the decimal away from the ends, where its digits do not count. -/
theorem ofDecimal_units {x : Finite} {j k : Nat} (hk : unitsPerOne = 2 ^ k) (hx : x.units ≠ 0)
    (hlow : 10 ^ j ≤ 5 ^ k) (hj : k ≤ j + 331) (hhigh : overflow * 5 ^ k ≤ 10 ^ (k + 310)) :
    ofDecimal x.negative (x.units * 5 ^ k) (-k) = .finite x := by
  have hpos : ∀ n : Nat, 0 < 10 ^ n := fun _ => Nat.pow_pos (by decide)
  have hfive : 0 < 5 ^ k := Nat.pow_pos (by decide)
  have hlong : ¬ decimalLength (x.units * 5 ^ k) ≤ j := by
    have hle := Nat.le_trans hlow (Nat.le_mul_of_pos_left _ (Nat.pos_of_ne_zero hx))
    rwa [decimalLength_le_iff, Nat.not_lt]
  have hshort : decimalLength (x.units * 5 ^ k) ≤ k + 310 := by
    rw [decimalLength_le_iff]
    exact Nat.lt_of_lt_of_le (Nat.mul_lt_mul_of_pos_right x.fits.2 hfive) hhigh
  have hratio : ofRatio x.negative (x.units * 5 ^ k) (10 ^ k) = .finite x := by
    have hscale : x.units * 5 ^ k * unitsPerOne = x.units * 10 ^ k := by
      rw [hk, Nat.mul_assoc, ← Nat.mul_pow]
    have hunits : ofUnits x.negative (x.units * 10 ^ k) (1 * 10 ^ k) = .finite x := by
      rw [ofUnits_mul_right x.units 1 (hpos k), ofUnits_of_fits x.fits]
    rw [Nat.one_mul] at hunits
    unfold ofRatio
    rw [hscale, hunits]
  have hne : x.units * 5 ^ k ≠ 0 := Nat.mul_ne_zero hx (Nat.ne_of_gt hfive)
  have hzero : (-(k : Int)).toNat = 0 := by omega
  have hpow : (- -(k : Int)).toNat = k := by omega
  unfold ofDecimal
  simp only [hzero, hpow, Nat.pow_zero, Nat.mul_one, hratio]
  rw [if_neg (by omega), if_neg (by omega)]

/-- All the digits of a number together read back as the number. -/
theorem exact_readsBack {x : Finite} (h : x.units ≠ 0) : ReadsBack x (exact x) :=
  ofDecimal_units (j := 743) (k := 1074) unitsPerOne.eq_def h (by decide +kernel) (by decide)
    (by decide +kernel)

/-- A point of a grid that is taken reads back. -/
theorem onGrid?_readsBack {tie : Tie} {x : Finite} {exponent : Int} {d : Decimal}
    (h : onGrid? tie x exponent = some d) : ReadsBack x d := by
  have hfound := List.find?_some h
  exact of_decide_eq_true hfound

theorem shortest_readsBack {x : Finite} (tie : Tie) (h : x.units ≠ 0) :
    ReadsBack x (shortest tie x) := by
  unfold shortest
  dsimp only
  cases hf : (List.range 17).findSome? fun (n : Nat) =>
      onGrid? tie x (leadingExponent x.units - n) with
  | none => exact exact_readsBack h
  | some d =>
    obtain ⟨n, _, hn⟩ := List.exists_of_findSome?_eq_some hf
    exact onGrid?_readsBack hn

end ConfigRules.Decimal
