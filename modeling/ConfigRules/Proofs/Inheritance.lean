import ConfigRules.Proofs.References
import ConfigRules.Proofs.WellFormed

/-!
What the variants of a rule take over from its base. A definition of a requirement is read key by
key, so a section changes what its keys stand for and leaves the rest as it is in the base.
-/

namespace ConfigRules

/-- Some entries with those of a section in their place, key by key, in any order. -/
def Json.Overridden (overrides plain entries : Json.Members) : Prop :=
  ∀ key, entries.get? key = (overrides.get? key).or (plain.get? key)

namespace Requirement

variable {rule : String} {entries others : Json.Members} {r base : Requirement} {k : Kind}
  {raw : Json} {x : Option Scalar}

/-- No key is foreign if none that has a value is. -/
theorem find?_foreign_eq_none : entries.find? (fun (key, _) => key ∉ keys) = none ↔
    ∀ key, key ∉ keys → entries.get? key = none := by
  rw [List.find?_eq_none]
  simp only [Keyed.get?_eq_none, List.mem_map, decide_eq_true_eq]
  constructor
  · rintro h key hkey ⟨m, hm, rfl⟩
    exact h m hm hkey
  · intro h m hm hkey
    exact h m.1 hkey ⟨m, hm, rfl⟩

theorem define_legal (h : define rule entries = .ok r) :
    entries.find? (fun (key, _) => key ∉ keys) = none := by
  cases hfind : entries.find? (fun (key, _) => key ∉ keys) with
  | none => rfl
  | some m =>
    unfold define at h
    rw [hfind] at h
    obtain ⟨_, he, _⟩ := bind_ok.mp h
    cases he

/-- A definition is read by its keys, in whatever order they come. -/
theorem define_of_lookups (h : define rule entries = .ok r)
    (hsame : ∀ key, others.get? key = entries.get? key) : define rule others = .ok r := by
  have hlegal := define_legal h
  have hothers : others.find? (fun (key, _) => key ∉ keys) = none := by
    rw [find?_foreign_eq_none] at hlegal ⊢
    intro key hkey
    rw [hsame, hlegal key hkey]
  unfold define readKind readPresent at h ⊢
  rw [hlegal] at h
  rw [hothers, hsame, hsame, hsame, hsame]
  exact h

theorem given?_eq_some {j : Json} (h : given? (some raw) = some j) : raw = j := by
  unfold given? at h
  split at h
  · cases h
  · exact Option.some.inj h

theorem readFallback_ok {allowed : Option Allowed} (h : readFallback rule k allowed raw = .ok x) :
    ∃ v, x = some v ∧ coerce k raw = .ok v := by
  have hcheck := checkEntry_ok h
  cases x with
  | none => cases (check_none hcheck).1
  | some v =>
    obtain ⟨_, ⟨_, hnone⟩ | ⟨j, hj, hv, _⟩⟩ := check_some hcheck
    · cases hnone
    · cases given?_eq_some hj
      exact ⟨v, rfl, hv⟩

/-- The fallback is what its own entry stands for. The allowed values do not change it, though they
may refuse it. -/
theorem fallback_eq (h : define rule entries = .ok r) :
    r.fallback = (entries.get? defaultKey).bind fun raw => (coerce r.kind raw).toOption := by
  obtain ⟨-, -, -, fallback, hfallback, hf⟩ := define_ok h
  obtain ⟨hnone, rfl⟩ | ⟨raw, x, hraw, rfl, hx⟩ := option_mapM_ok hf
  · rw [hfallback, hnone]
    rfl
  · obtain ⟨v, rfl, hv⟩ := readFallback_ok hx
    rw [hfallback, hraw, Option.bind_some, hv]
    rfl

section

variable (hbase : define rule entries = .ok base) (h : define rule others = .ok r)

include hbase h

theorem present_of_same (hsame : others.get? existsKey = entries.get? existsKey) :
    r.present = base.present := by
  obtain ⟨-, hp, -⟩ := define_ok h
  obtain ⟨-, hbp, -⟩ := define_ok hbase
  unfold readPresent at hp hbp
  rw [hsame] at hp
  exact Except.ok.inj (hp.symm.trans hbp)

theorem allowed_of_same (hk : r.kind = base.kind)
    (hsame : others.get? allowedKey = entries.get? allowedKey) : r.allowed = base.allowed := by
  obtain ⟨-, -, ha, -⟩ := define_ok h
  obtain ⟨-, -, hba, -⟩ := define_ok hbase
  rw [hsame, hk] at ha
  exact Except.ok.inj (ha.symm.trans hba)

theorem fallback_of_same (hk : r.kind = base.kind)
    (hsame : others.get? defaultKey = entries.get? defaultKey) : r.fallback = base.fallback := by
  rw [fallback_eq h, fallback_eq hbase, hsame, hk]

end

/-- What a section makes of a base. Where it lacks a key the base has its way, the kind being the
same; all of it is what the entries of the base with those of the section in their place describe,
in whatever order they come. -/
structure Inherits (name : String) (plain overrides : Json.Members) (base r : Requirement) :
    Prop where
  present : overrides.get? existsKey = none → r.present = base.present
  allowed : r.kind = base.kind → overrides.get? allowedKey = none → r.allowed = base.allowed
  fallback : r.kind = base.kind → overrides.get? defaultKey = none → r.fallback = base.fallback
  exists_overridden : ∃ entries, Json.Overridden overrides plain entries
  overridden : ∀ entries, Json.Overridden overrides plain entries → define name entries = .ok r

end Requirement

namespace Rule

variable {name source : String} {entries overrides merged : Json.Members} {definition : Json}
  {r : Rule}

/-- A section without repeated keys takes the place of the entries of its keys. -/
theorem override_ok (h : override name source entries overrides = .ok merged)
    (hnodup : (overrides.map Prod.fst).Nodup) : Json.Overridden overrides entries merged := by
  fun_induction override name source entries overrides with
  | case1 entries =>
    cases h
    exact fun _ => rfl
  | case2 => cases h
  | case3 entries key value rest _ ih =>
    obtain ⟨hkey, hrest⟩ := List.nodup_cons.mp hnodup
    have ih := ih h hrest
    intro other
    rw [ih other, Keyed.get?]
    split
    · rename_i he
      subst he
      rw [Keyed.get?_eq_none.mpr hkey, Keyed.get?_put_self]
      rfl
    · rename_i he
      rw [Keyed.get?_put_other (Ne.symm he)]

theorem readVariant_requirement {v : Variant} {found : List Path}
    (h : readVariant name entries source overrides = .ok (v, found)) :
    ∃ merged, override name source entries overrides = .ok merged ∧
      Requirement.define name merged = .ok v.requirement := by
  obtain ⟨_, _, h⟩ := bind_ok.mp h
  obtain ⟨merged, hmerged, h⟩ := bind_ok.mp h
  split at h
  · cases h
  · obtain ⟨requirement, hr, h⟩ := bind_ok.mp h
    cases pure_ok.mp h
    exact ⟨merged, hmerged, hr⟩

/-- The variant of a section inherits from the base of its rule. -/
theorem readVariant_inherits {base : Requirement} {v : Variant} {found : List Path}
    (hbase : Requirement.define name entries = .ok base)
    (h : readVariant name entries source overrides = .ok (v, found))
    (hnodup : (overrides.map Prod.fst).Nodup) :
    Requirement.Inherits name entries overrides base v.requirement := by
  obtain ⟨merged, hmerged, hr⟩ := readVariant_requirement h
  have hover := override_ok hmerged hnodup
  have hsame : ∀ key, overrides.get? key = none → merged.get? key = entries.get? key := by
    intro key hkey
    rw [hover key, hkey]
    rfl
  refine ⟨?_, ?_, ?_, ⟨merged, hover⟩, ?_⟩
  · exact fun hlacks => Requirement.present_of_same hbase hr (hsame _ hlacks)
  · exact fun hk hlacks => Requirement.allowed_of_same hbase hr hk (hsame _ hlacks)
  · exact fun hk hlacks => Requirement.fallback_of_same hbase hr hk (hsame _ hlacks)
  · intro others hothers
    apply Requirement.define_of_lookups hr
    intro key
    rw [hothers key, hover key]

theorem nodup_of_mem_sections (hw : definition.WellFormed) :
    ∀ x ∈ sections definition.members, (x.2.map Prod.fst).Nodup := by
  intro x hx
  obtain ⟨⟨key, value⟩, hm, he⟩ := List.mem_filterMap.mp hx
  have hvalue := hw.member hm
  cases value with
  | object ms =>
    cases he
    exact hvalue.nodup
  | _ => cases he

/-- The variants of a rule are those of its definition's sections, in order, and each takes over
from the base what its own section leaves alone. Neither the other sections nor the order of keys
have a part in it. -/
theorem variants_inherit (hw : definition.WellFormed) (h : define name definition = .ok r) :
    List.Forall₂ (fun (source, overrides) v => v.condition.source = source ∧
      Requirement.Inherits name (plainEntries definition.members) overrides r.base v.requirement)
        (sections definition.members) r.variants := by
  have hnodup := nodup_of_mem_sections hw
  unfold define at h
  split at h
  · rename_i entries
    obtain ⟨base, hbase, h⟩ := bind_ok.mp h
    obtain ⟨read, hread, h⟩ := bind_ok.mp h
    cases pure_ok.mp h
    rw [List.forall₂_map_right_iff]
    have hboth := (List.forall₂_and_left _ _).mpr ⟨hnodup, mapM_ok.mp hread⟩
    refine hboth.imp ?_
    rintro ⟨source, overrides⟩ ⟨v, found⟩ ⟨hnodup, hv⟩
    exact ⟨readVariant_source hv, readVariant_inherits hbase hv hnodup⟩
  · cases h

/-- Two sections among the entries of the base: one has a fallback, and the other allowed values and
the kind of the base. -/
def layered : Json :=
  .object [("exists", .bool true),
    ("{level} > 2", .object [("default", .string "9")]),
    ("default", .string "7"), ("type", .string "int"),
    ("{level} > 1",
      .object [("allowed", .array [.string "7", .string "8"]), ("type", .string "int")]),
    ("allowed", .string "[0,10]")]

theorem wellFormed_layered : layered.WellFormed := by
  have hflat : ∀ ms : Json.Members, (ms.map Prod.fst).Nodup → (∀ m ∈ ms, m.2.shape ≠ .object) →
      (Json.object ms).WellFormed :=
    fun ms hk hv => .ofMembers hk fun m hm => .ofLeaf (hv m hm)
  refine .ofMembers (by decide) ?_
  simp only [List.forall_mem_cons]
  exact ⟨.ofLeaf (by decide), hflat _ (by decide) (by decide), .ofLeaf (by decide),
    .ofLeaf (by decide), hflat _ (by decide) (by decide), .ofLeaf (by decide),
    List.forall_mem_nil _⟩

/-- The base with the first section's fallback, in another order. -/
def reordered : Json.Members :=
  [("default", .string "9"), ("allowed", .string "[0,10]"), ("type", .string "int"),
    ("exists", .bool true)]

theorem overridden_reordered :
    Json.Overridden [("default", .string "9")] (plainEntries layered.members) reordered := by
  intro key
  by_cases hkey : key ∈ Requirement.keys
  · simp only [Requirement.keys, List.mem_cons, List.not_mem_nil, or_false] at hkey
    rcases hkey with rfl | rfl | rfl | rfl <;> rfl
  · have hnone : ∀ ms : Json.Members, ms.find? (fun (key, _) => key ∉ Requirement.keys) = none →
        ms.get? key = none := fun ms hlegal => Requirement.find?_foreign_eq_none.mp hlegal key hkey
    rw [hnone reordered rfl, hnone [("default", .string "9")] rfl,
      hnone (plainEntries layered.members) rfl]
    rfl

theorem variants_inherit_layered : ∃ r v w, define "limit" layered = .ok r ∧ layered.WellFormed ∧
    r.variants = [v, w] ∧ v.requirement.allowed = r.base.allowed ∧
    w.requirement.fallback = r.base.fallback ∧
    Requirement.define "limit" reordered = .ok v.requirement := by
  obtain ⟨r, h, hkinds⟩ : ∃ r, define "limit" layered = .ok r ∧
      ∀ v ∈ r.variants, v.requirement.kind = r.base.kind := exists_ok (by decide +kernel)
  have hsections : sections layered.members = [("{level} > 2", [("default", .string "9")]),
      ("{level} > 1", [("allowed", .array [.string "7", .string "8"]),
        ("type", .string "int")])] := rfl
  have hall := variants_inherit wellFormed_layered h
  rw [hsections] at hall
  obtain ⟨v, next, hv, hnext, hvariants⟩ := List.forall₂_cons_left_iff.mp hall
  obtain ⟨w, rest, hw, hrest, rfl⟩ := List.forall₂_cons_left_iff.mp hnext
  obtain rfl := List.forall₂_nil_left_iff.mp hrest
  rw [hvariants, List.forall_mem_cons, List.forall_mem_singleton] at hkinds
  exact ⟨r, v, w, h, wellFormed_layered, hvariants, hv.2.allowed hkinds.1 rfl,
    hw.2.fallback hkinds.2 rfl, hv.2.overridden reordered overridden_reordered⟩

end Rule

end ConfigRules
