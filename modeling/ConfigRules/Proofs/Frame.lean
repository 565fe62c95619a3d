import ConfigRules.Proofs.Pass

/-!
What a pass leaves alone. It changes only the items of its rules and what lies on the way to them,
and nothing that was there is gone.
-/

namespace ConfigRules

variable {r : Rule} {rules : List Rule} {mode : Mode} {c : Config} {p : Path}

/-- On the way to its item a rule makes things present, and everywhere else it changes nothing. -/
theorem Rule.isSome_get?_apply (h : (p.get? c).isSome) : (p.get? (r.apply c)).isSome := by
  by_cases hl : p.LeadsTo r.path
  · obtain he | ⟨v, _, he⟩ := r.apply_cases c
    · rwa [he]
    · rw [he]
      exact Path.isSome_get?_set hl v c
  · rwa [Rule.get?_apply hl]

theorem isSome_get?_pass (h : (p.get? c).isSome) : (p.get? (pass mode rules c).2).isSome := by
  induction rules generalizing c with
  | nil => exact h
  | cons r rest ih =>
    by_cases hstop : mode.StopsAt (r.resolve c)
    · rwa [pass_stop hstop]
    · rw [pass_go hstop]
      exact ih (Rule.isSome_get?_apply h)

namespace Ruleset

theorem ordered_subset (s : Ruleset) : s.ordered ⊆ s.rules := by
  intro r hr
  obtain ⟨_, _, hi⟩ := List.mem_filterMap.mp hr
  exact List.mem_of_getElem? hi

/-- Whether rules fail or not, a pass keeps the value of every item that leads to none of theirs,
and every item that is present stays so. -/
theorem run_frame (s : Ruleset) (mode : Mode) (c : Config) :
    (∀ p : Path, (∀ r ∈ s.rules, ¬ p.LeadsTo r.path) → p.get? (s.run mode c).2 = p.get? c) ∧
      ∀ p : Path, (p.get? c).isSome → (p.get? (s.run mode c).2).isSome := by
  refine ⟨?_, fun p => isSome_get?_pass⟩
  intro p hp
  exact get?_pass fun r hr => hp r (s.ordered_subset hr)

/-- A name beside the level that is to be written. -/
def named : Config := [("app", .object [("name", .string "x")])]

theorem run_frame_named : ∃ s, ofDefinitions limitByLevel = .ok s ∧
    (∀ r ∈ s.rules, ¬ (Path.mk "/app/name").LeadsTo r.path) ∧
    Path.get? ⟨"/app/name"⟩ (s.run .collectAll named).2 = Path.get? ⟨"/app/name"⟩ named ∧
    (Path.get? ⟨"app"⟩ named).isSome ∧ (Path.get? ⟨"app"⟩ (s.run .collectAll named).2).isSome := by
  obtain ⟨s, hs, hbeside⟩ : ∃ s, ofDefinitions limitByLevel = .ok s ∧
      ∀ r ∈ s.rules, ¬ (Path.mk "/app/name").LeadsTo r.path := exists_ok (by decide +kernel)
  obtain ⟨hkept, hpresent⟩ := run_frame s .collectAll named
  have happ : (Path.get? ⟨"app"⟩ named).isSome := by decide +kernel
  exact ⟨s, hs, hbeside, hkept _ hbeside, happ, hpresent _ happ⟩

end Ruleset

end ConfigRules
