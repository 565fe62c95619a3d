import ConfigRules.Proofs.Ruleset
import Mathlib.Data.Set.Card
import Mathlib.Logic.Relation

/-!
The order in which rules apply. There is one unless rules refer to one another in a circle, and it
is determined: at every place stands the first rule, as they are defined, among those that wait for
no other one.
-/

namespace ConfigRules

/-- The item of one rule is a dependency of the other one. -/
def Precedes (rules : List Rule) (q r : Rule) : Prop := q ∈ rules ∧ r ∈ rules ∧ r.RefersTo q.path

def Acyclic (rules : List Rule) : Prop := ∀ r, ¬ Relation.TransGen (Precedes rules) r r

/-- A rule that has not had its turn yet, while all those have whose items it depends on. -/
def Eligible (rules : List Rule) (done : List Nat) (i : Nat) : Prop :=
  i ∉ done ∧ ∃ r, rules[i]? = some r ∧ ∀ d q, rules[d]? = some q → r.RefersTo q.path → d ∈ done

variable {rules : List Rule}

theorem Precedes.rank_lt {rank : Rule → Nat}
    (hrank : ∀ q ∈ rules, ∀ r ∈ rules, r.RefersTo q.path → rank q < rank r) {q r : Rule}
    (h : Relation.TransGen (Precedes rules) q r) : rank q < rank r := by
  induction h with
  | single h => exact hrank _ h.1 _ h.2.1 h.2.2
  | tail _ h ih => exact ih.trans (hrank _ h.1 _ h.2.1 h.2.2)

theorem acyclic_iff_stratified : Acyclic rules ↔ Stratified rules := by
  constructor
  · intro h
    -- the rank of a rule is the number of rules that must apply before it
    refine ⟨fun r => {q | Relation.TransGen (Precedes rules) q r}.ncard, ?_⟩
    intro q hq r hr hrefers
    have hqr : Precedes rules q r := ⟨hq, hr, hrefers⟩
    have hfinite : {p | Relation.TransGen (Precedes rules) p r}.Finite := by
      apply (List.finite_toSet rules).subset
      intro p hp
      obtain ⟨_, hstep, _⟩ := Relation.TransGen.head'_iff.mp hp
      exact hstep.1
    apply Set.ncard_lt_ncard _ hfinite
    have hsub : {p | Relation.TransGen (Precedes rules) p q} ⊆
        {p | Relation.TransGen (Precedes rules) p r} := fun p hp => hp.tail hqr
    exact ⟨hsub, fun hback => h q (hback (.single hqr))⟩
  · intro h
    obtain ⟨rank, hrank⟩ := h
    intro r hr
    exact absurd (Precedes.rank_lt hrank hr) (Nat.lt_irrefl _)

namespace Precedence

/-- What stands at a place of an order is the least thing that could come next there. -/
theorem Built.next {g : Precedence} {done : List Nat} (h : g.Built done) {k i : Nat}
    (hk : done[k]? = some i) : g.Next (done.take k) i := by
  induction h with
  | nil => simp at hk
  | snoc _ hn ih =>
    rename_i done j _
    rcases Nat.lt_trichotomy k done.length with hlt | rfl | hgt
    · rw [List.getElem?_append_left hlt] at hk
      rw [List.take_append_of_le_length hlt.le]
      exact ih hk
    · rw [List.getElem?_concat_length, Option.some.injEq] at hk
      rw [List.take_left]
      exact hk ▸ hn
    · rw [List.getElem?_eq_none (by simp; omega)] at hk
      cases hk

end Precedence

namespace Ruleset

theorem eligible_iff (hd : Distinct rules) {done : List Nat} {i : Nat} :
    Eligible rules done i ↔ i < rules.length ∧ (precedence rules).Ready done i := by
  constructor
  · intro h
    obtain ⟨hnot, r, hr, hall⟩ := h
    refine ⟨(List.getElem?_eq_some_iff.mp hr).1, hnot, ?_⟩
    intro e he hei
    obtain ⟨q, r', hq, hr', hrefers⟩ := (mem_edges hd).mp he
    rw [hei, hr, Option.some.injEq] at hr'
    exact hall e.1 q hq (hr' ▸ hrefers)
  · intro h
    obtain ⟨hlt, hnot, hall⟩ := h
    have hr := List.getElem?_eq_getElem hlt
    refine ⟨hnot, rules[i], hr, ?_⟩
    intro d q hq hrefers
    exact hall (d, i) ((mem_edges hd).mpr ⟨q, rules[i], hq, hr, hrefers⟩) rfl

theorem order_determined (rules : List Rule) :
    ((∃ s, ofRules rules = .ok s) ↔ Distinct rules ∧ Acyclic rules) ∧
      ∀ s, ofRules rules = .ok s → s.rules = rules ∧
        (∀ d i, (d, i) ∈ edges s.rules ↔
          ∃ q r, rules[d]? = some q ∧ rules[i]? = some r ∧ r.RefersTo q.path) ∧
        s.order.Perm (List.range rules.length) ∧
        ∀ k i, s.order[k]? = some i → IsLeast {j | Eligible rules (s.order.take k) j} i := by
  refine ⟨by rw [exists_ofRules_iff, acyclic_iff_stratified], ?_⟩
  intro s hs
  obtain ⟨hd, hrules, horder⟩ := ofRules_ok.mp hs
  obtain ⟨hsorted, hlength⟩ := Precedence.order_ok.mp horder
  have hbuilt : (precedence rules).Built s.order := hsorted ▸ Precedence.sorted_built _
  rw [hrules]
  refine ⟨rfl, fun d i => mem_edges hd, hbuilt.perm_range (hsorted ▸ hlength), ?_⟩
  intro k i hk
  have hnext := hbuilt.next hk
  refine ⟨(eligible_iff hd).mpr ⟨hnext.lt_size, hnext.ready⟩, ?_⟩
  intro j hj
  obtain ⟨hlt, hready⟩ := (eligible_iff hd).mp hj
  exact hnext.least j hlt hready

/-- The limit is defined first, but waits for the level. -/
theorem order_determined_limitByLevel : ∃ rules s, ofRules rules = .ok s ∧ s.order = [1, 0] ∧
    IsLeast {j | Eligible rules [] j} 1 ∧ IsLeast {j | Eligible rules [1] j} 0 := by
  obtain ⟨s, h, horder⟩ : ∃ s, ofDefinitions limitByLevel = .ok s ∧ s.order = [1, 0] :=
    exists_ok (by decide +kernel)
  obtain ⟨rules, _, hs⟩ := ofDefinitions_ok.mp h
  obtain ⟨_, _, _, hleast⟩ := (order_determined rules).2 s hs
  rw [horder] at hleast
  exact ⟨rules, s, hs, horder, hleast 0 1 rfl, hleast 1 0 rfl⟩

end Ruleset

end ConfigRules
