import ConfigRules.Proofs.Pass

/-!
The two modes of a pass. Up to the first failure they do the same, since the rules before it leave
the same configuration; there one of them ends and the other one goes on.
-/

namespace ConfigRules

namespace Report

variable {report before after : Report} {x : Resolution} {e : Error}

@[simp] theorem isSuccess_append : (before ++ after).isSuccess =
    (before.isSuccess && after.isSuccess) := List.all_append

@[simp] theorem isSuccess_cons : isSuccess (x :: report) =
    (x.outcome.error?.isNone && report.isSuccess) := rfl

theorem failures_eq_nil : report.failures = [] ↔ report.isSuccess = true := by
  unfold failures isSuccess
  rw [List.filterMap_eq_nil_iff, List.all_eq_true]
  simp

theorem result_ok : report.result = .ok () ↔ report.isSuccess = true := by
  rw [← failures_eq_nil]
  unfold result
  split <;> simp_all

/-- A report with a failure results in its first one. -/
theorem result_error (hb : before.isSuccess = true) (hx : x.outcome = .failed e) :
    (before ++ x :: after).result = .error e := by
  have hfailures : (before ++ x :: after).failures = (x.rule, e) :: failures after := by
    have hnone := failures_eq_nil.mpr hb
    unfold failures at hnone ⊢
    rw [List.filterMap_append, hnone]
    simp [hx, Outcome.error?]
  unfold result
  rw [hfailures]

end Report

variable {rules : List Rule} {c : Config}

theorem stopsAt_failFast {x : Resolution} :
    Mode.failFast.StopsAt x ↔ ∃ e, x.outcome = .failed e := by
  unfold Mode.StopsAt
  cases x.outcome <;> simp [Outcome.error?]

theorem isNone_of_goes {x : Resolution} (h : ¬ Mode.failFast.StopsAt x) :
    x.outcome.error?.isNone = true := by
  cases he : x.outcome with
  | failed e => exact absurd (stopsAt_failFast.mpr ⟨e, he⟩) h
  | _ => rfl

/-- Either no rule fails and the modes do the same; or the reports begin alike with rules that have
not failed and one that has, where the pass that stops at failures ends. -/
theorem pass_modes (rules : List Rule) (c : Config) :
    ((pass .collectAll rules c).1.isSuccess = true ∧
        pass .failFast rules c = pass .collectAll rules c) ∨
      ∃ (before after : Report) (x : Resolution) (e : Error),
        (pass .collectAll rules c).1 = before ++ x :: after ∧
        before.isSuccess = true ∧ x.outcome = .failed e ∧
        (pass .failFast rules c).1 = before ++ [x] := by
  induction rules generalizing c with
  | nil => exact .inl ⟨rfl, rfl⟩
  | cons r rest ih =>
    rw [pass_go (collectAll_goes _)]
    by_cases hstop : Mode.failFast.StopsAt (r.resolve c)
    · obtain ⟨e, he⟩ := stopsAt_failFast.mp hstop
      rw [pass_stop hstop]
      exact .inr ⟨[], _, r.resolve c, e, rfl, rfl, he, rfl⟩
    · have hpassed := isNone_of_goes hstop
      rw [pass_go hstop]
      rcases ih (r.apply c) with ⟨hall, hsame⟩ | ⟨before, after, x, e, hwhole, hb, hx, hcut⟩
      · left
        rw [hsame]
        simp [hpassed, hall]
      · right
        refine ⟨r.resolve c :: before, after, x, e, ?_, ?_, hx, ?_⟩
        · rw [hwhole]
          rfl
        · simp [hpassed, hb]
        · rw [hcut]
          rfl

theorem failFast_isSuccess : (pass .failFast rules c).1.isSuccess =
    (pass .collectAll rules c).1.isSuccess := by
  rcases pass_modes rules c with ⟨_, hsame⟩ | ⟨before, after, x, e, hwhole, _, hx, hcut⟩
  · rw [hsame]
  · rw [hwhole, hcut]
    simp [hx, Outcome.error?]

/-- A pass that stops at failures succeeds when the one that goes on does, and then leaves the same;
and else it reports and results in what the other one tells up to its first failure. -/
theorem Ruleset.modes_agree (s : Ruleset) (c : Config) :
    (s.run .failFast c).1.isSuccess = (s.run .collectAll c).1.isSuccess ∧
      ((s.check c).1 = .ok () ↔ (s.run .collectAll c).1.isSuccess = true) ∧
      (((s.run .collectAll c).1.isSuccess = true ∧ s.run .failFast c = s.run .collectAll c) ∨
        ∃ (before after : Report) (x : Resolution) (e : Error),
          (s.run .collectAll c).1 = before ++ x :: after ∧
          before.isSuccess = true ∧ x.outcome = .failed e ∧
          (s.run .failFast c).1 = before ++ [x] ∧ (s.check c).1 = .error e) := by
  have hcheck : (s.check c).1 = (s.run .failFast c).1.result := rfl
  have hsuccess : (s.run .failFast c).1.isSuccess = (s.run .collectAll c).1.isSuccess :=
    failFast_isSuccess
  refine ⟨hsuccess, ?_, ?_⟩
  · rw [hcheck, Report.result_ok, hsuccess]
  · obtain hall | ⟨before, after, x, e, hwhole, hb, hx, hcut⟩ := pass_modes s.ordered c
    · exact .inl hall
    · have hresult : (s.check c).1 = .error e := by
        rw [hcheck]
        unfold run
        rw [hcut]
        exact Report.result_error hb hx
      exact .inr ⟨before, after, x, e, hwhole, hb, hx, hcut, hresult⟩

end ConfigRules
