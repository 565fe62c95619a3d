import ConfigRules.Proofs.Rank
import ConfigRules.Proofs.Requirement

/-!
What definitions of requirements give. The allowed values are of the kind required, and a value that
a check gives back is one that the same check gives back again, the fallback among them.
-/

namespace ConfigRules

namespace Allowed

/-- All allowed values are of a kind. -/
def OfKind (k : Kind) : Allowed → Prop
  | values vs => ∀ v ∈ vs, v.kind = k
  | interval i => i.kind = k

/-- A value is listed, but for the sign of a zero, or its rank lies between the ends. -/
def Includes : Allowed → Scalar → Prop
  | values vs, v => ∃ w ∈ vs, w = v ∨ Scalar.BothZero w v
  | interval i, v => ∃ n m, v = Number.toScalar n ∧ n.rank? = some m ∧ i.Surrounds m

variable {allowed : Allowed} {v : Scalar}

/-- What it is to be allowed. -/
theorem contains_iff (hk : allowed.OfKind v.kind) (hf : v.IsFinite) :
    allowed.contains v = true ↔ allowed.Includes v := by
  cases allowed with
  | values vs =>
    simp only [contains, List.any_eq_true, Scalar.equal_iff hf]
    rfl
  | interval i =>
    have hnumber : ∀ {n m}, v = Number.toScalar n → n.rank? = some m →
        (i.contains v = true ↔ i.Surrounds m) := by
      rintro n m rfl hn
      exact Interval.contains_iff hk.symm hn
    constructor
    · intro h
      obtain ⟨n, m, hv, hn⟩ := Interval.exists_rank hf h
      exact ⟨n, m, hv, hn, (hnumber hv hn).mp h⟩
    · rintro ⟨n, m, hv, hn, hm⟩
      exact (hnumber hv hn).mpr hm

end Allowed

namespace Requirement

variable {r : Requirement} {rule item : String} {k : Kind} {allowed : Allowed} {v : Scalar}

theorem readValues_ofKind {candidates : List Json}
    (h : readValues rule k candidates = .ok allowed) : allowed.OfKind k := by
  obtain ⟨vs, hvs, h⟩ := bind_ok.mp h
  cases pure_ok.mp h
  intro v hv
  obtain ⟨_, hx, rfl⟩ := List.mem_filterMap.mp hv
  obtain ⟨raw, _, hraw⟩ := exists_of_forall₂ (mapM_ok.mp hvs) hx
  obtain ⟨_, ⟨_, hf⟩ | ⟨j, _, hj, _⟩⟩ := check_some (checkEntry_ok hraw)
  · cases hf
  · exact (coerce_ok hj).1

theorem readAllowed_ofKind {raw : Json} (h : readAllowed rule k raw = .ok allowed) :
    allowed.OfKind k := by
  unfold readAllowed at h
  split at h
  · split at h
    · split at h
      · rename_i hk
        cases h
        exact hk
      · cases h
    · exact readValues_ofKind h
    · cases h
  · exact readValues_ofKind h
  · exact readValues_ofKind h

theorem define_ofKind {entries : Json.Members} (h : define rule entries = .ok r)
    (ha : r.allowed = some allowed) : allowed.OfKind r.kind := by
  obtain ⟨_, _, hallowed, _⟩ := define_ok h
  obtain ⟨_, hnone⟩ | ⟨raw, a, _, hsome, hread⟩ := option_mapM_ok hallowed
  · rw [ha] at hnone
    cases hnone
  · rw [ha] at hsome
    cases hsome
    exact readAllowed_ofKind hread

/-- What a check gives back is listed among the allowed values or lies between their ends. -/
theorem check_includes {entries : Json.Members} {raw : Option Json}
    (h : define rule entries = .ok r) (ha : r.allowed = some allowed)
    (hv : r.check item raw = .ok (some v)) : allowed.Includes v := by
  have hadmits := check_admits (define_consistent h) hv
  have hkind : allowed.OfKind v.kind := hadmits.kind ▸ define_ofKind h ha
  exact (Allowed.contains_iff hkind hadmits.finite).mp (hadmits.allowed allowed ha)

/-- A missing value counts as the fallback would if it were there. -/
theorem check_missing (hr : r.Consistent) (hp : r.present = true) (hv : r.fallback = some v) :
    ∀ raw, given? raw = none → r.check item raw = r.check item (some v.toJson) := by
  intro raw hraw
  rw [check_toJson hp hr (hr.fallback v hv)]
  unfold check
  rw [hp, hraw, hv]

/-- A definition gives a requirement for one of the kinds that rules declare, with allowed values
of that kind and a fallback among them. Whatever a check gives back is admitted, can be written, and
comes back from every further check; so the fallback stands for a missing value. -/
theorem define_sound {entries : Json.Members} (h : define rule entries = .ok r) :
    r.kind ∈ [Kind.int, .float, .str] ∧
      (∀ allowed, r.allowed = some allowed → allowed.OfKind r.kind) ∧
      (∀ v, r.fallback = some v → r.Admits v) ∧
      (∀ item raw v, r.check item raw = .ok (some v) →
        r.Admits v ∧ v.toJson ≠ .null ∧ ∀ other, r.check other (some v.toJson) = .ok (some v)) ∧
      (∀ v, r.present = true → r.fallback = some v → ∀ item,
        r.check item none = r.check item (some v.toJson) ∧
          r.check item (some .null) = r.check item (some v.toJson)) := by
  have hr := define_consistent h
  refine ⟨hr.declared, fun allowed ha => define_ofKind h ha, hr.fallback, ?_, ?_⟩
  · intro item raw v hv
    have hadmits := check_admits hr hv
    have hp := (check_some hv).1
    exact ⟨hadmits, Scalar.toJson_ne_null hadmits.finite, fun _ => check_toJson hp hr hadmits⟩
  · intro v hp hv item
    exact ⟨check_missing hr hp hv none rfl, check_missing hr hp hv (some .null) rfl⟩

/-- A float in an interval, with a fallback in a text. -/
def ratio : Json.Members :=
  [("exists", .bool true), ("type", .string "float"), ("allowed", .string "]0.0, 10.0]"),
    ("default", .string " 2.5 ")]

theorem define_sound_ratio : ∃ r v w, define "ratio" ratio = .ok r ∧ r.present = true ∧
    r.fallback = some v ∧ r.check "ratio" none = r.check "ratio" (some v.toJson) ∧
    r.check "ratio" (some (.string "7.25")) = .ok (some w) ∧ w.kind = .float ∧
    r.check "ratio" (some w.toJson) = .ok (some w) := by
  obtain ⟨r, h, hp, hkind, hfallback, hcheck⟩ : ∃ r, define "ratio" ratio = .ok r ∧
      r.present = true ∧ r.kind = .float ∧ r.fallback.isSome = true ∧
      (r.check "ratio" (some (.string "7.25"))).toOption.any (fun x => decide (x.isSome = true)) =
        true := exists_ok (by decide +kernel)
  obtain ⟨v, hv⟩ := Option.isSome_iff_exists.mp hfallback
  obtain ⟨x, hw, hx⟩ := exists_ok hcheck
  obtain ⟨w, rfl⟩ := Option.isSome_iff_exists.mp hx
  obtain ⟨-, -, -, hfixed, hmissing⟩ := define_sound h
  obtain ⟨hadmits, -, hagain⟩ := hfixed "ratio" _ w hw
  exact ⟨r, v, w, h, hp, hv, (hmissing v hp hv "ratio").1, hw, hkind ▸ hadmits.kind, hagain "ratio"⟩

end Requirement

end ConfigRules
