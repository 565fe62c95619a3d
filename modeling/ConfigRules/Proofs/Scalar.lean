import ConfigRules.Scalar

/-!
Scalar values on their way through JSON. Whatever is read from JSON or from a text is finite, and a
finite value that names no kind comes back from JSON as it went.
-/

namespace ConfigRules

namespace Binary64

theorem spacing_le (units : Nat) : spacing units ≤ units + 1 := by
  unfold spacing
  by_cases hz : units = 0
  · simp [hz]
  · have hpow : 2 ^ (units.log2 - 52) ≤ 2 ^ units.log2 :=
      Nat.pow_le_pow_right (by omega) (Nat.sub_le _ _)
    have hlog : 2 ^ units.log2 ≤ units := Nat.log2_self_le hz
    omega

/-- Rounding goes at most one spacing up. -/
theorem nearestUnits_le (num den : Nat) : nearestUnits num den ≤ 2 * (num / den) + 1 := by
  have hgap := spacing_le (num / den)
  have hround := roundDiv_le num (den * spacing (num / den))
  rw [← Nat.div_div_eq_div_mul] at hround
  calc nearestUnits num den
      ≤ (num / den / spacing (num / den) + 1) * spacing (num / den) :=
        Nat.mul_le_mul_right _ hround
    _ = num / den / spacing (num / den) * spacing (num / den) + spacing (num / den) := by
        rw [Nat.add_mul, Nat.one_mul]
    _ ≤ num / den + spacing (num / den) := Nat.add_le_add_right (Nat.div_mul_le_self _ _) _
    _ ≤ 2 * (num / den) + 1 := by omega

theorem two_mul_lt_two_pow (k m : Nat) (h : k + 66 ≤ m) : 2 * (2 ^ 64 * 2 ^ k) + 1 < 2 ^ m := by
  have hpos := Nat.two_pow_pos k
  have hpow : 2 ^ (k + 66) = 2 ^ 66 * 2 ^ k := by rw [Nat.pow_add, Nat.mul_comm]
  have hle : 2 ^ (k + 66) ≤ 2 ^ m := Nat.pow_le_pow_right (by omega) h
  omega

/-- An integer of at most 64 binary digits is far from the overflow threshold. -/
theorem ofInt_finite {n : Int} (h : n.natAbs ≤ 2 ^ 64) : ∃ x, ofInt n = finite x := by
  have hle := nearestUnits_le (n.natAbs * unitsPerOne) 1
  rw [Nat.div_one] at hle
  have hn : n.natAbs * unitsPerOne ≤ 2 ^ 64 * unitsPerOne := Nat.mul_le_mul_right _ h
  have hsmall : 2 * (2 ^ 64 * unitsPerOne) + 1 < overflow := by
    unfold unitsPerOne overflow width
    exact two_mul_lt_two_pow 1074 2098 (by decide)
  have hlt : nearestUnits (n.natAbs * unitsPerOne) 1 < overflow :=
    Nat.lt_of_le_of_lt hle (Nat.lt_of_le_of_lt (by omega) hsmall)
  unfold ofInt ofRatio ofUnits
  rw [dif_pos hlt]
  exact ⟨_, rfl⟩

end Binary64

namespace Scalar

/-- Only floats can fail to be finite. -/
def IsFinite : Scalar → Prop
  | float (.finite _) => True
  | float _ => False
  | _ => True

theorem ofJson?_finite {j : Json} {v : Scalar} (h : ofJson? j = some v) : v.IsFinite := by
  cases j with
  | number n =>
    cases n with
    | real x => cases h; trivial
    | integer n fits =>
      cases hi : Numeral.int64? n with
      | some i =>
        simp only [ofJson?, hi, Option.some.injEq] at h
        subst h
        trivial
      | none =>
        simp only [ofJson?, hi, Option.some.injEq] at h
        obtain ⟨x, hx⟩ := Binary64.ofInt_finite (n := n) (by omega)
        subst h
        rw [hx]
        trivial
  | bool b => cases h; trivial
  | string s => cases h; trivial
  | _ => cases h

theorem convert?_finite {k : Kind} {s : String} {v : Scalar} (h : k.convert? s = some v) :
    v.IsFinite := by
  cases k with
  | float =>
    simp only [Kind.convert?] at h
    split at h <;> cases h
    trivial
  | str => cases h; trivial
  | int | type =>
    obtain ⟨x, _, rfl⟩ := Option.map_eq_some_iff.mp h
    trivial
  | bool =>
    simp only [Kind.convert?] at h
    split at h
    · cases h; trivial
    · split at h <;> cases h
      trivial

theorem read_finite (s : String) : (read s).IsFinite := by
  unfold read
  cases hf : [Kind.type, .bool, .int, .float].findSome? (·.convert? s) with
  | none => trivial
  | some v =>
    obtain ⟨k, _, hk⟩ := List.exists_of_findSome?_eq_some hf
    exact convert?_finite hk

theorem int64?_toInt (n : Int64) : Numeral.int64? n.toInt = some n := by
  have hl := n.le_toInt
  have hu := n.toInt_lt
  rw [Numeral.int64?, if_pos ⟨hl, hu⟩, Int64.ofInt_toInt]

/-- A value that is written comes back as it is, but for kinds, which come back as texts. -/
theorem ofJson?_toJson {v : Scalar} (hf : v.IsFinite) (hk : v.kind ≠ .type) :
    ofJson? v.toJson = some v := by
  cases v with
  | int n => simp only [toJson, ofJson?, int64?_toInt]
  | float x =>
    cases x with
    | finite x => rfl
    | _ => cases hf
  | type k => exact absurd rfl hk
  | _ => rfl

theorem toJson_members (v : Scalar) : v.toJson.members = [] := by
  cases v with
  | float x => cases x <;> rfl
  | _ => rfl

theorem toJson_ne_null {v : Scalar} (hf : v.IsFinite) : v.toJson ≠ .null := by
  cases v with
  | float x =>
    cases x with
    | finite x => simp [toJson]
    | _ => cases hf
  | _ => simp [toJson]

/-- A value that a scalar comes from has no members. -/
theorem members_of_ofJson? {j : Json} {v : Scalar} (h : ofJson? j = some v) : j.members = [] := by
  cases j with
  | object ms => cases h
  | _ => rfl

end Scalar

end ConfigRules
