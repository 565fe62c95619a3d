import ConfigRules.Proofs.Condition.Reading
import ConfigRules.Proofs.Requirement
import ConfigRules.Rule.Basic

/-!
What definitions make of rules: consistent requirements, conditions parsed from their sources, and
references that cover what is found in those sources but never the rule's own item.
-/

namespace ConfigRules

section

variable {α : Type}

theorem mem_of_mem_eraseDupsBy {same : α → α → Bool} {x : α} :
    (xs : List α) → x ∈ xs.eraseDupsBy same → x ∈ xs
  | [], h => h
  | y :: ys, h => by
    rw [List.eraseDupsBy_cons] at h
    rcases List.mem_cons.mp h with rfl | h
    · exact List.mem_cons_self
    · exact List.mem_cons_of_mem _ (List.mem_filter.mp (mem_of_mem_eraseDupsBy _ h)).1
termination_by xs => xs.length
decreasing_by exact Nat.lt_succ_of_le (List.length_filter_le ..)

/-- Whatever is dropped from a list is the same as something that is kept. -/
theorem exists_mem_eraseDupsBy (same : α → α → Bool) (refl : ∀ x, same x x = true) {x : α} :
    (xs : List α) → x ∈ xs → ∃ y ∈ xs.eraseDupsBy same, same x y = true
  | [], h => nomatch h
  | y :: ys, h => by
    rw [List.eraseDupsBy_cons]
    cases hs : same x y with
    | true => exact ⟨y, List.mem_cons_self, hs⟩
    | false =>
      have hx : x ∈ ys.filter fun z => same z y = false := by
        rcases List.mem_cons.mp h with rfl | h
        · rw [refl] at hs
          cases hs
        · exact List.mem_filter.mpr ⟨h, by simp [hs]⟩
      obtain ⟨z, hz, hsame⟩ := exists_mem_eraseDupsBy same refl _ hx
      exact ⟨z, List.mem_cons_of_mem _ hz, hsame⟩
termination_by xs => xs.length
decreasing_by exact Nat.lt_succ_of_le (List.length_filter_le ..)

end

theorem Condition.parse_source {source : String} {x : Condition}
    (h : Condition.parse source = .ok x) : x.source = source := by
  obtain ⟨f, _, hx⟩ := bind_ok.mp h
  rw [← pure_ok.mp hx]

namespace Rule

/-- The items that the conditions of a rule read. -/
def reads (r : Rule) : List Path := r.variants.flatMap fun v => v.condition.items

/-- The requirement that is in force when a variant, or the base, has been selected. -/
def requirement (r : Rule) (selected : Option Variant) : Requirement :=
  (selected.map Variant.requirement).getD r.base

/-- An item is referred to, in one of its spellings. -/
def RefersTo (r : Rule) (p : Path) : Prop := ∃ d ∈ r.references, d.SameItem p

instance (r : Rule) (p : Path) : Decidable (RefersTo r p) :=
  inferInstanceAs (Decidable (∃ d ∈ r.references, _))

theorem RefersTo.congr {r : Rule} {p q : Path} (h : r.RefersTo p) (hs : p.SameItem q) :
    r.RefersTo q := by
  obtain ⟨d, hd, hp⟩ := h
  exact ⟨d, hd, hp.trans hs⟩

/-- What is known of every rule that comes from a definition. -/
structure Defined (r : Rule) : Prop where
  base : r.base.Consistent
  variants : ∀ v ∈ r.variants, v.requirement.Consistent
  parsed : ∀ v ∈ r.variants, Condition.parse v.condition.source = .ok v.condition
  scanned : ∀ v ∈ r.variants, ∀ p ∈ Reference.paths v.condition.source, r.RefersTo p
  foreign : ¬ r.RefersTo r.path

theorem Defined.requirement {r : Rule} (h : r.Defined) {selected : Option Variant}
    (hs : ∀ v, selected = some v → v ∈ r.variants) : (r.requirement selected).Consistent := by
  cases selected with
  | none => exact h.base
  | some v => exact h.variants v (hs v rfl)

theorem readReferences_ok {name source : String} {found : List Path}
    (h : readReferences name source = .ok found) :
    found = Reference.paths source ∧ ∀ p ∈ found, ¬ p.SameItem ⟨name⟩ := by
  unfold readReferences at h
  dsimp only at h
  split at h
  · cases h
  · split at h
    · cases h
    · rename_i hn
      cases h
      refine ⟨rfl, ?_⟩
      intro p hp
      simpa using List.find?_eq_none.mp hn p hp

theorem readVariant_ok {name source : String} {entries overrides : Json.Members} {v : Variant}
    {found : List Path} (h : readVariant name entries source overrides = .ok (v, found)) :
    found = Reference.paths v.condition.source ∧ (∀ p ∈ found, ¬ p.SameItem ⟨name⟩) ∧
      Condition.parse v.condition.source = .ok v.condition ∧ v.requirement.Consistent := by
  obtain ⟨paths, hpaths, h⟩ := bind_ok.mp h
  obtain ⟨hfound, hforeign⟩ := readReferences_ok hpaths
  obtain ⟨merged, _, h⟩ := bind_ok.mp h
  split at h
  · cases h
  · rename_i x hx
    obtain ⟨requirement, hr, h⟩ := bind_ok.mp h
    cases pure_ok.mp h
    have hsource := Condition.parse_source hx
    exact ⟨by rw [hsource, hfound], hforeign, by rw [hsource, hx],
      Requirement.define_consistent hr⟩

/-- A rule that comes from a definition is put together from the variants and the references of its
sections. -/
theorem define_ok {name : String} {definition : Json} {r : Rule}
    (h : define name definition = .ok r) : r.name = name ∧ r.base.Consistent ∧
      ∃ read : List (Variant × List Path), r.variants = read.map (·.1) ∧
        r.references = (read.flatMap (·.2)).eraseDupsBy (fun p q => p.SameItem q) ∧
        ∀ x ∈ read, x.2 = Reference.paths x.1.condition.source ∧
          (∀ p ∈ x.2, ¬ p.SameItem ⟨name⟩) ∧
          Condition.parse x.1.condition.source = .ok x.1.condition ∧
          x.1.requirement.Consistent := by
  unfold define at h
  split at h
  · rename_i entries
    obtain ⟨base, hbase, h⟩ := bind_ok.mp h
    obtain ⟨read, hread, h⟩ := bind_ok.mp h
    cases pure_ok.mp h
    refine ⟨rfl, Requirement.define_consistent hbase, read, rfl, rfl, ?_⟩
    intro x hx
    obtain ⟨_, _, hv⟩ := exists_of_forall₂ (mapM_ok.mp hread) hx
    exact readVariant_ok hv
  · cases h

theorem define_defined {name : String} {definition : Json} {r : Rule}
    (h : define name definition = .ok r) : r.Defined := by
  obtain ⟨hname, hbase, read, hvariants, hreferences, hread⟩ := define_ok h
  refine ⟨hbase, ?_, ?_, ?_, ?_⟩
  · intro v hv
    rw [hvariants] at hv
    obtain ⟨x, hx, rfl⟩ := List.mem_map.mp hv
    exact (hread x hx).2.2.2
  · intro v hv
    rw [hvariants] at hv
    obtain ⟨x, hx, rfl⟩ := List.mem_map.mp hv
    exact (hread x hx).2.2.1
  · intro v hv p hp
    rw [hvariants] at hv
    obtain ⟨x, hx, rfl⟩ := List.mem_map.mp hv
    rw [← (hread x hx).1] at hp
    obtain ⟨d, hd, hs⟩ := exists_mem_eraseDupsBy (fun p q => p.SameItem q)
      (fun p => decide_eq_true rfl) _ (List.mem_flatMap.mpr ⟨x, hx, hp⟩)
    exact ⟨d, hreferences ▸ hd, (of_decide_eq_true hs).symm⟩
  · intro hown
    obtain ⟨d, hd, hs⟩ := hown
    rw [hreferences] at hd
    obtain ⟨x, hx, hdx⟩ := List.mem_flatMap.mp (mem_of_mem_eraseDupsBy _ hd)
    exact (hread x hx).2.1 d hdx (by rwa [path, hname] at hs)

/-- The variant selected is one of the rule's. -/
theorem firstHolding_mem {name : String} {c : Config} {vs : List Variant} {v : Variant}
    (h : firstHolding name c vs = .ok (some v)) : v ∈ vs := by
  induction vs with
  | nil => cases h
  | cons w vs ih =>
    rw [firstHolding] at h
    split at h
    · cases h
    · cases h
      exact List.mem_cons_self
    · exact List.mem_cons_of_mem _ (ih h)

theorem select_mem {r : Rule} {c : Config} {selected : Option Variant}
    (h : r.select c = .ok selected) : ∀ v, selected = some v → v ∈ r.variants := by
  intro v hv
  subst hv
  exact firstHolding_mem h

/-- The selection depends only on the items that the conditions read. -/
theorem select_of_resolveAlike {r : Rule} {c d : Config} (h : Condition.ResolveAlike r.reads c d) :
    r.select c = r.select d := by
  unfold select
  unfold reads at h
  generalize r.variants = vs at h ⊢
  induction vs with
  | nil => rfl
  | cons v vs ih =>
    rw [List.flatMap_cons] at h
    simp only [firstHolding, Condition.decided_congr v.condition h.left, ih h.right]

theorem select_congr {r : Rule} {c d : Config} (h : Agree r.reads c d) :
    r.select c = r.select d := select_of_resolveAlike (.of_agree h)

end Rule

end ConfigRules
