import ConfigRules.Proofs.Separate

/-!
Passes over a configuration that a pass has left. Where rules are separate, a second pass changes
nothing and tells the same, and a pass that succeeds meets every requirement.
-/

namespace ConfigRules

/-- What a requirement is content to find in a configuration. -/
def Requirement.MetBy (r : Requirement) (raw : Option Json) : Prop :=
  if r.present then ∃ v : Scalar, raw = some v.toJson ∧ r.Admits v
  else raw = none ∨ raw = some .null

variable {r : Rule} {rules : List Rule} {mode : Mode} {c : Config}

theorem pass_again (ha : Arranged rules) (hs : Separate rules) :
    pass mode rules (pass mode rules c).2 = pass mode rules c := by
  induction rules generalizing c with
  | nil => rfl
  | cons r rest ih =>
    by_cases hstop : mode.StopsAt (r.resolve c)
    · rw [pass_stop hstop]
      exact pass_stop hstop
    · have hsame : r.resolve (pass mode rest (r.apply c)).2 = r.resolve c := hs.resolve_final ha
      rw [pass_go hstop]
      dsimp only
      rw [pass_go (hsame ▸ hstop), hsame, hs.apply_final ha, ih ha.tail hs.tail]

/-- A rule that neither fails on a configuration nor changes it finds there what it requires. -/
theorem Rule.met_of_apply_eq (hr : r.Defined) (he : (r.resolve c).outcome.error? = none)
    (hc : r.apply c = c) : ∃ selected, r.select c = .ok selected ∧
      (r.resolve c).selected = selected.map (fun v => v.condition.source) ∧
      (r.requirement selected).MetBy (r.path.get? c) := by
  obtain ⟨e, hf⟩ | ⟨selected, x, hselect, hx, hresolve⟩ := r.resolve_cases c
  · rw [hf] at he
    cases he
  · refine ⟨selected, hselect, by rw [hresolve], ?_⟩
    unfold Requirement.MetBy
    cases x with
    | none =>
      obtain ⟨hp, hg⟩ := Requirement.check_none hx
      rw [if_neg (by simp [hp])]
      exact Requirement.given?_eq_none hg
    | some v =>
      have hfound : r.path.get? c = some v.toJson := by
        have hleft := r.get?_apply_self c
        rwa [hc, hresolve] at hleft
      rw [if_pos (Requirement.check_some hx).1]
      exact ⟨v, hfound, Requirement.check_admits (hr.requirement (select_mem hselect)) hx⟩

/-- After a pass that succeeds, every rule would come to what the report says of it and has nothing
left to write. -/
theorem pass_settled (ha : Arranged rules) (hs : Separate rules)
    (h : (pass mode rules c).1.isSuccess = true) : ∀ r ∈ rules,
      r.resolve (pass mode rules c).2 ∈ (pass mode rules c).1 ∧
        r.apply (pass mode rules c).2 = (pass mode rules c).2 := by
  induction rules generalizing c with
  | nil => exact fun _ hr => nomatch hr
  | cons q rest ih =>
    by_cases hstop : mode.StopsAt (q.resolve c)
    · rw [pass_stop hstop] at h
      have hfailed := hstop.2
      cases he : (q.resolve c).outcome.error? <;> simp [Report.isSuccess, he] at h hfailed
    · have hsame : q.resolve (pass mode rest (q.apply c)).2 = q.resolve c := hs.resolve_final ha
      rw [pass_go hstop] at h ⊢
      have hrest : (pass mode rest (q.apply c)).1.isSuccess = true := (Bool.and_eq_true_iff.mp h).2
      intro r hr
      rcases List.mem_cons.mp hr with rfl | hr
      · exact ⟨by simp [hsame], hs.apply_final ha⟩
      · obtain ⟨hin, hkept⟩ := ih ha.tail hs.tail hrest r hr
        exact ⟨List.mem_cons_of_mem _ hin, hkept⟩

namespace Ruleset

variable {definitions : List (String × Json)} {s : Ruleset}

/-- A second pass over the configuration that the first one has left gives the same report and
changes nothing; and after a pass that succeeds, every item meets the requirement selected. -/
theorem run_idempotent (h : ofDefinitions definitions = .ok s) (hs : Separate s.rules) (mode : Mode)
    (c : Config) : s.run mode (s.run mode c).2 = s.run mode c ∧
      ((s.run mode c).1.isSuccess = true → ∀ r ∈ s.rules, ∃ selected,
        r.select (s.run mode c).2 = .ok selected ∧
        (∃ x ∈ (s.run mode c).1, x.rule = r.name ∧
          x.selected = selected.map fun v => v.condition.source) ∧
        (r.requirement selected).MetBy (r.path.get? (s.run mode c).2)) := by
  obtain ⟨hp, ha⟩ := accepted h
  have hs : Separate s.ordered := hs.perm hp.symm
  refine ⟨pass_again ha hs, ?_⟩
  intro hsuccess r hr
  have hr : r ∈ s.ordered := hp.mem_iff.mpr hr
  obtain ⟨hin, hkept⟩ := pass_settled ha hs hsuccess r hr
  have herror : (r.resolve (s.run mode c).2).outcome.error? = none :=
    Option.isNone_iff_eq_none.mp (List.all_eq_true.mp hsuccess _ hin)
  obtain ⟨selected, hselect, hselected, hmet⟩ := Rule.met_of_apply_eq (ha.defined r hr) herror hkept
  exact ⟨selected, hselect, ⟨_, hin, r.resolve_rule _, hselected⟩, hmet⟩

theorem run_idempotent_limitByLevel : ∃ s, ofDefinitions limitByLevel = .ok s ∧
    Separate s.rules ∧ (s.run .failFast []).1.isSuccess = true ∧
      s.run .failFast (s.run .failFast []).2 = s.run .failFast [] := by
  obtain ⟨s, h, hs, hsuccess⟩ : ∃ s, ofDefinitions limitByLevel = .ok s ∧
      Separate s.rules ∧ (s.run .failFast []).1.isSuccess = true := exists_ok (by decide +kernel)
  exact ⟨s, h, hs, hsuccess, (run_idempotent h hs .failFast []).1⟩

end Ruleset

end ConfigRules
