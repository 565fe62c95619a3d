import ConfigRules.Proofs.Condition.Grammar

/-!
What the formulas of phrases are made up of. Whatever holds of the operands that the tokens stand
for holds of the operands in the formula.
-/

namespace ConfigRules.Condition

/-- A formula as the grammar makes it up, of operands with a property: items can stand alone, and
comparisons and memberships take operands and nothing else. -/
inductive Formula.Composed (P : Formula → Prop) : Formula → Prop
  | truth {b} : Composed P (.truth b)
  | item {path position} (h : P (.item path position)) : Composed P (.item path position)
  | not {f} (h : Composed P f) : Composed P (.not f)
  | and {f g} (hf : Composed P f) (hg : Composed P g) : Composed P (.and f g)
  | or {f g} (hf : Composed P f) (hg : Composed P g) : Composed P (.or f g)
  | compare {r f g} (hf : P f) (hg : P g) : Composed P (.compare r f g)
  | member {f negated fs} (hf : P f) (hne : fs ≠ []) (hs : ∀ g ∈ fs, P g) :
    Composed P (.member f negated fs)

variable {P : Formula → Prop} {k : Phrase} {ts : List Token} {f : Formula} {xs : List Formula}

theorem Operands.all (h : Operands ts xs) (ht : ∀ t ∈ ts, ∀ x, Operand t x → P x) :
    xs ≠ [] ∧ ∀ x ∈ xs, P x := by
  induction h with
  | one h => simpa using ht _ (by simp) _ h
  | snoc hs hc h ih =>
    simp only [List.forall_mem_append, List.forall_mem_cons] at ht
    refine ⟨by simp, ?_⟩
    intro x hx
    rcases List.mem_append.mp hx with hx | hx
    · exact (ih ht.1).2 x hx
    · rw [List.mem_singleton.mp hx]
      exact ht.2.2.1 _ h

theorem Derives.composed (h : Derives k ts f) (ht : ∀ t ∈ ts, ∀ x, Operand t x → P x) :
    f.Composed P := by
  induction h with
  | conjunction _ ih | negation _ ih | atom _ ih => exact ih ht
  | or _ _ _ ihf ihg =>
    simp only [List.forall_mem_append, List.forall_mem_cons] at ht
    exact .or (ihf ht.1) (ihg ht.2.2)
  | and _ _ _ ihf ihg =>
    simp only [List.forall_mem_append, List.forall_mem_cons] at ht
    exact .and (ihf ht.1) (ihg ht.2.2)
  | not _ _ ih =>
    rw [List.forall_mem_cons] at ht
    exact .not (ih ht.2)
  | parentheses _ _ _ ih =>
    simp only [List.forall_mem_append, List.forall_mem_cons] at ht
    exact ih ht.1.2
  | truth _ => exact .truth
  | compare hx _ hy =>
    simp only [List.forall_mem_cons] at ht
    exact .compare (ht.1 _ hx) (ht.2.2.1 _ hy)
  | member hx _ _ hs _ =>
    simp only [List.forall_mem_append, List.forall_mem_cons] at ht
    obtain ⟨hne, hall⟩ := hs.all ht.1.2.2
    exact .member (ht.1.1.1 _ hx) hne hall
  | item h => exact .item (ht _ List.mem_cons_self _ (.item h))

end ConfigRules.Condition
