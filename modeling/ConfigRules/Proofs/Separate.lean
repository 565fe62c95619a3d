import ConfigRules.Proofs.Pass

/-!
Rules that do not write over each other. What such a rule has looked at stays as it is for the rest
of a pass, so at its end the rule would come to the same again.
-/

namespace ConfigRules

/-- No rule's item, and no item that a condition reads, lies above a rule's item; and conditions
read only what their rules refer to. -/
structure Separate (rules : List Rule) : Prop where
  rules_apart : ∀ q ∈ rules, ∀ r ∈ rules, ¬ q.path.Above r.path
  reads_apart : ∀ q ∈ rules, ∀ p ∈ q.reads, ∀ r ∈ rules, ¬ p.Above r.path
  reads_known : ∀ r ∈ rules, ∀ p ∈ r.reads, r.RefersTo p

instance (rules : List Rule) : Decidable (Separate rules) :=
  decidable_of_iff ((∀ q ∈ rules, ∀ r ∈ rules, ¬ q.path.Above r.path) ∧
      (∀ q ∈ rules, ∀ p ∈ q.reads, ∀ r ∈ rules, ¬ p.Above r.path) ∧
        ∀ r ∈ rules, ∀ p ∈ r.reads, r.RefersTo p)
    ⟨fun ⟨hrules, hreads, hknown⟩ => ⟨hrules, hreads, hknown⟩,
      fun ⟨hrules, hreads, hknown⟩ => ⟨hrules, hreads, hknown⟩⟩

variable {r : Rule} {rules rest : List Rule}

theorem Separate.subset (h : Separate rules) (hs : rest ⊆ rules) : Separate rest :=
  ⟨fun q hq r hr => h.rules_apart q (hs hq) r (hs hr),
    fun q hq p hp r hr => h.reads_apart q (hs hq) p hp r (hs hr),
    fun r hr => h.reads_known r (hs hr)⟩

theorem Separate.tail (h : Separate (r :: rest)) : Separate rest :=
  h.subset (List.subset_cons_self r rest)

theorem Separate.perm {others : List Rule} (h : Separate rules) (hp : rules.Perm others) :
    Separate others := h.subset hp.symm.subset

/-- No rule behind another one writes its item or below it. -/
theorem Separate.own_kept (ha : Arranged (r :: rest)) (hs : Separate (r :: rest)) :
    ∀ q ∈ rest, ¬ r.path.LeadsTo q.path := by
  intro q hq hl
  have hdistinct := (List.pairwise_cons.mp ha.distinct).1 q hq
  exact hs.rules_apart r List.mem_cons_self q (List.mem_cons_of_mem _ hq) ⟨hl, hdistinct⟩

/-- Neither a rule nor one behind it writes what the rule's conditions read. -/
theorem Separate.reads_kept (ha : Arranged (r :: rest)) (hs : Separate (r :: rest)) {p : Path}
    (hp : p ∈ r.reads) : ∀ q ∈ r :: rest, ¬ p.LeadsTo q.path := by
  intro q hq hl
  have hr : r ∈ r :: rest := List.mem_cons_self
  have hrefers : ¬ r.RefersTo q.path := by
    rcases List.mem_cons.mp hq with rfl | hq
    · exact (ha.defined q hr).foreign
    · exact (List.pairwise_cons.mp ha.forward).1 q hq
  have hnot : ¬ p.SameItem q.path := fun he => hrefers ((hs.reads_known r hr p hp).congr he)
  exact hs.reads_apart r hr p hp q hq ⟨hl, hnot⟩

section

variable {mode : Mode} {c : Config}

/-- A rule's conditions read the same on the configuration that the pass leaves. -/
theorem Separate.reads_final (ha : Arranged (r :: rest)) (hs : Separate (r :: rest)) :
    Agree r.reads (pass mode rest (r.apply c)).2 c := by
  intro p hp
  have hkept := hs.reads_kept ha hp
  rw [get?_pass fun q hq => hkept q (List.mem_cons_of_mem _ hq),
    Rule.get?_apply (hkept r List.mem_cons_self)]

/-- That configuration holds at the rule's item what the rule has left there. -/
theorem Separate.own_final (ha : Arranged (r :: rest)) (hs : Separate (r :: rest)) :
    r.path.get? (pass mode rest (r.apply c)).2 =
      (r.resolve c).outcome.leaves (r.path.get? c) := by
  rw [get?_pass (hs.own_kept ha), Rule.get?_apply_self]

/-- A rule comes to the same on the configuration that the pass leaves. -/
theorem Separate.resolve_final (ha : Arranged (r :: rest)) (hs : Separate (r :: rest)) :
    r.resolve (pass mode rest (r.apply c)).2 = r.resolve c :=
  Rule.resolve_again (ha.defined r List.mem_cons_self) (Rule.select_congr (hs.reads_final ha))
    (hs.own_final ha)

/-- On the configuration that the pass leaves, a rule has nothing to change. -/
theorem Separate.apply_final (ha : Arranged (r :: rest)) (hs : Separate (r :: rest)) :
    r.apply (pass mode rest (r.apply c)).2 = (pass mode rest (r.apply c)).2 := by
  have hsame : r.resolve (pass mode rest (r.apply c)).2 = r.resolve c := hs.resolve_final ha
  obtain he | ⟨v, hv, he⟩ := Rule.apply_cases r (pass mode rest (r.apply c)).2
  · exact he
  · rw [hsame] at hv
    rw [he]
    apply Path.set_of_get?
    rw [hs.own_final ha, hv]
    rfl

end

end ConfigRules
