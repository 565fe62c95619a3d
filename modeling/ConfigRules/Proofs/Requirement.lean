import ConfigRules.Proofs.Except
import ConfigRules.Proofs.Scalar
import ConfigRules.Requirement.Definition

/-!
What a requirement lets through. A value that a check gives back is of the kind required, is among
the allowed ones, and passes the same check again once it has been written.
-/

namespace ConfigRules

namespace Requirement

variable {r : Requirement} {item : String} {raw : Option Json} {v : Scalar}

/-- A scalar is a value that the requirement is content with. -/
structure Admits (r : Requirement) (v : Scalar) : Prop where
  kind : v.kind = r.kind
  finite : v.IsFinite
  allowed : ∀ allowed, r.allowed = some allowed → allowed.contains v = true

/-- The requirement is for one of the kinds that rules declare, and admits its own fallback. -/
structure Consistent (r : Requirement) : Prop where
  declared : r.kind ∈ [Kind.int, .float, .str]
  fallback : ∀ v, r.fallback = some v → r.Admits v

theorem Consistent.kind_ne_type (h : r.Consistent) : r.kind ≠ .type := by
  intro hk
  have hd := h.declared
  rw [hk] at hd
  simp at hd

theorem coerce_ok {k : Kind} {j : Json} (h : coerce k j = .ok v) :
    v.kind = k ∧ v.IsFinite ∧ j.members = [] := by
  unfold coerce at h
  split at h
  · cases h
  · rename_i w hw
    have hj := Scalar.members_of_ofJson? hw
    split at h
    · rename_i hk
      cases h
      exact ⟨hk, Scalar.ofJson?_finite hw, hj⟩
    · split at h
      · dsimp only at h
        split at h
        · rename_i hk
          cases h
          exact ⟨hk, Scalar.read_finite _, hj⟩
        · cases h
      · cases h

theorem coerce_toJson (hf : v.IsFinite) (hk : v.kind ≠ .type) :
    coerce v.kind v.toJson = .ok v := by
  simp [coerce, Scalar.ofJson?_toJson hf hk]

/-- A check that has something to write has found nothing, and writes the fallback, or has found a
value that it converts. -/
theorem check_some (h : r.check item raw = .ok (some v)) :
    r.present = true ∧ ((given? raw = none ∧ r.fallback = some v) ∨
      ∃ j, given? raw = some j ∧ coerce r.kind j = .ok v ∧
        ∀ allowed, r.allowed = some allowed → allowed.contains v = true) := by
  unfold check at h
  split at h
  · cases h
  · cases h
  · rename_i hp hg
    split at h
    · rename_i w hw
      cases h
      exact ⟨hp, .inl ⟨hg, hw⟩⟩
    · cases h
  · rename_i j hp hg
    split at h
    · cases h
    · rename_i w hw
      split at h
      · rename_i ha
        cases h
        exact ⟨hp, .inr ⟨j, hg, hw, by simp [ha]⟩⟩
      · rename_i allowed ha
        split at h
        · rename_i hin
          cases h
          refine ⟨hp, .inr ⟨j, hg, hw, ?_⟩⟩
          intro other ho
          rw [ha, Option.some.injEq] at ho
          exact ho ▸ hin
        · cases h

/-- A check that has nothing to write has found nothing, as required. -/
theorem check_none (h : r.check item raw = .ok none) :
    r.present = false ∧ given? raw = none := by
  unfold check at h
  split at h
  · cases h
  · rename_i hp hg
    exact ⟨hp, hg⟩
  · split at h <;> cases h
  · split at h
    · cases h
    · split at h
      · cases h
      · split at h <;> cases h

theorem check_admits (hr : r.Consistent) (h : r.check item raw = .ok (some v)) : r.Admits v := by
  obtain ⟨_, ⟨_, hv⟩ | ⟨j, _, hv, ha⟩⟩ := check_some h
  · exact hr.fallback v hv
  · obtain ⟨hk, hf, _⟩ := coerce_ok hv
    exact ⟨hk, hf, ha⟩

theorem given?_eq_none {raw : Option Json} (h : given? raw = none) :
    raw = none ∨ raw = some .null := by
  unfold given? at h
  split at h
  · exact .inr rfl
  · exact .inl h

theorem given?_toJson (hf : v.IsFinite) : given? (some v.toJson) = some v.toJson := by
  unfold given?
  split
  · rename_i he
    exact absurd (Option.some.inj he) (Scalar.toJson_ne_null hf)
  · rfl

/-- A value is written only over one without members, or where there is none. -/
theorem check_leaf (h : r.check item raw = .ok (some v)) : ∀ j, raw = some j → j.members = [] := by
  intro j hj
  subst hj
  obtain ⟨_, ⟨hg, _⟩ | ⟨k, hg, hv, _⟩⟩ := check_some h
  · rcases given?_eq_none hg with he | he <;> cases he
    rfl
  · unfold given? at hg
    split at hg <;> cases hg
    exact (coerce_ok hv).2.2

/-- An admitted value passes the check that has let it through. -/
theorem check_toJson (hp : r.present = true) (hr : r.Consistent) (hv : r.Admits v) :
    r.check item (some v.toJson) = .ok (some v) := by
  have hk : v.kind ≠ .type := hv.kind ▸ hr.kind_ne_type
  have hc : coerce r.kind v.toJson = .ok v := hv.kind ▸ coerce_toJson hv.finite hk
  unfold check
  rw [hp, given?_toJson hv.finite]
  dsimp only
  rw [hc]
  cases ha : r.allowed with
  | none => rfl
  | some allowed => simp [hv.allowed allowed ha]

theorem checkEntry_ok {rule key : String} {x : Option Scalar}
    (h : checkEntry rule key r raw = .ok x) : r.check (rule ++ "." ++ key) raw = .ok x := by
  unfold checkEntry at h
  split at h
  · rename_i w hw
    rw [hw, Except.ok.inj h]
  · cases h

theorem readKind_declared {rule : String} {entries : Json.Members} {k : Kind}
    (h : readKind rule entries = .ok k) : k ∈ [Kind.int, .float, .str] := by
  obtain ⟨x, hx, h⟩ := bind_ok.mp h
  split at h
  · rename_i l
    cases h
    have hin : (Allowed.values [.type .int, .type .float, .type .str]).contains (.type k) =
        true := by
      obtain ⟨_, ⟨_, hf⟩ | ⟨j, _, _, ha⟩⟩ := check_some (checkEntry_ok hx)
      · cases hf
      · exact ha _ rfl
    cases k <;> simp_all [Allowed.contains, Scalar.equal]
  · cases h

theorem readFallback_admits {rule : String} {k : Kind} {allowed : Option Allowed} {raw : Json}
    {present : Bool} {fallback : Option Scalar} (hk : k ∈ [Kind.int, .float, .str])
    (h : readFallback rule k allowed raw = .ok (some v)) :
    Admits ⟨present, k, allowed, fallback⟩ v := by
  have hr : Consistent ⟨true, k, allowed, none⟩ := ⟨hk, fun w hw => nomatch hw⟩
  obtain ⟨hkind, hf, ha⟩ := check_admits hr (checkEntry_ok h)
  exact ⟨hkind, hf, ha⟩

/-- What the entries of a definition have been read as, one after another. -/
theorem define_ok {rule : String} {entries : Json.Members} (h : define rule entries = .ok r) :
    readKind rule entries = .ok r.kind ∧ readPresent rule entries = .ok r.present ∧
      (entries.get? allowedKey).mapM (readAllowed rule r.kind) = .ok r.allowed ∧
      ∃ fallback, r.fallback = fallback.join ∧
        (entries.get? defaultKey).mapM (readFallback rule r.kind r.allowed) = .ok fallback := by
  unfold define at h
  split at h
  · obtain ⟨_, he, _⟩ := bind_ok.mp h
    cases he
  · obtain ⟨k, hk, h⟩ := bind_ok.mp h
    obtain ⟨present, hp, h⟩ := bind_ok.mp h
    obtain ⟨allowed, ha, h⟩ := bind_ok.mp h
    obtain ⟨fallback, hf, h⟩ := bind_ok.mp h
    cases pure_ok.mp h
    exact ⟨hk, hp, ha, fallback, rfl, hf⟩

/-- Definitions give consistent requirements only. -/
theorem define_consistent {rule : String} {entries : Json.Members}
    (h : define rule entries = .ok r) : r.Consistent := by
  obtain ⟨hk, _, _, fallback, hfallback, hf⟩ := define_ok h
  have hd := readKind_declared hk
  refine ⟨hd, ?_⟩
  intro v hv
  rw [hfallback] at hv
  obtain ⟨_, rfl⟩ | ⟨raw, w, _, rfl, hw⟩ := option_mapM_ok hf
  · cases hv
  · cases hv
    exact readFallback_admits hd hw

end Requirement

end ConfigRules
