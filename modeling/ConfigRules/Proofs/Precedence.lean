import ConfigRules.Proofs.Progress

/-!
Orders that respect a precedence. Nothing comes before what must come first, and everything comes
exactly when some rank goes up along every edge.
-/

namespace ConfigRules.Precedence

variable {g : Precedence} {done : List Nat} {i : Nat}

/-- Nothing in the list must come before something that stands to its left. -/
theorem Built.arranged (h : g.Built done) : done.Pairwise fun a b => (b, a) ∉ g.edges := by
  induction h with
  | nil => exact .nil
  | snoc hb hn ih =>
    rw [List.pairwise_append]
    refine ⟨ih, by simp, ?_⟩
    intro a ha b hmem
    rw [List.mem_singleton.mp hmem]
    intro he
    exact hn.ready.1 (hb.closed _ he ha)

theorem Built.irreflexive (h : g.Built done) : ∀ i ∈ done, (i, i) ∉ g.edges := by
  induction h with
  | nil => simp
  | snoc _ hn ih =>
    intro i hi
    rcases List.mem_append.mp hi with hi | hi
    · exact ih i hi
    · rw [List.mem_singleton.mp hi]
      intro he
      exact hn.ready.1 (hn.ready.2 _ he rfl)

theorem order_ok {is : List Nat} :
    g.order = .ok is ↔ is = g.sorted ∧ g.sorted.length = g.size := by
  unfold order
  split
  · rename_i hl
    exact ⟨fun h => ⟨(Except.ok.inj h).symm, hl⟩, fun h => by rw [h.1]⟩
  · rename_i hl
    exact ⟨fun h => (nomatch h), fun h => absurd h.2 hl⟩

/-- Every edge joins two of the things. -/
def Bounded (g : Precedence) : Prop := ∀ e ∈ g.edges, e.1 < g.size ∧ e.2 < g.size

/-- A rank that goes up along every edge. -/
def Ranked (g : Precedence) (rank : Nat → Nat) : Prop := ∀ e ∈ g.edges, rank e.1 < rank e.2

/-- Where a rank goes up along every edge, a thing that is left out has one of lower rank before it
that is left out too; so none is. -/
theorem Ranked.mem_of_stuck {rank : Nat → Nat} (hr : g.Ranked rank) (hb : g.Bounded)
    (hn : ∀ i < g.size, ¬ g.Ready done i) (i : Nat) (hi : i < g.size) : i ∈ done := by
  induction hk : rank i using Nat.strongRecOn generalizing i with
  | _ k ih =>
    by_contra hout
    apply hn i hi
    refine ⟨hout, ?_⟩
    intro e he hei
    have hlt := hr e he
    rw [hei, hk] at hlt
    exact ih (rank e.1) hlt e.1 (hb e he).1 rfl

/-- All the things can be put in order exactly when a rank goes up along every edge. -/
theorem sorted_length_iff (hb : g.Bounded) :
    g.sorted.length = g.size ↔ ∃ rank, g.Ranked rank := by
  constructor
  · intro hl
    refine ⟨(g.sorted.idxOf ·), ?_⟩
    intro e he
    have hmem : ∀ i < g.size, i ∈ g.sorted := fun i hi =>
      ((sorted_built g).perm_range hl).mem_iff.mpr (List.mem_range.mpr hi)
    have h1 := hmem e.1 (hb e he).1
    have h2 := hmem e.2 (hb e he).2
    by_contra hle
    have hne : g.sorted.idxOf e.1 ≠ g.sorted.idxOf e.2 := by
      intro heq
      have hloop : e = (e.1, e.1) := Prod.ext rfl ((List.idxOf_inj h1).mp heq).symm
      exact (sorted_built g).irreflexive e.1 h1 (hloop ▸ he)
    have hlt : g.sorted.idxOf e.2 < g.sorted.idxOf e.1 := by
      dsimp only at hle
      omega
    have hpair := List.pairwise_iff_getElem.mp (sorted_built g).arranged _ _
      (List.idxOf_lt_length_of_mem h2) (List.idxOf_lt_length_of_mem h1) hlt
    simp only [List.getElem_idxOf] at hpair
    exact hpair he
  · intro h
    obtain ⟨rank, hr⟩ := h
    have hs : List.range g.size ⊆ g.sorted := fun i hi =>
      hr.mem_of_stuck hb (sorted_stuck g) i (List.mem_range.mp hi)
    have hle := (List.subperm_of_subset List.nodup_range hs).length_le
    have hge := (sorted_built g).length_le
    rw [List.length_range] at hle
    omega

end ConfigRules.Precedence
