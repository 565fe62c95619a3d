import ConfigRules.Proofs.ModeAgreement

/-!
Reports as traces. A report tells every write of its pass and no other, so the configurations that
the rules saw can be had back from it.
-/

namespace ConfigRules

namespace Report

/-- The items that a report says have been written, with their values. -/
def writes (report : Report) : List (Path × Json) :=
  report.filterMap fun x =>
    match x.outcome with
    | .written v => some (⟨x.rule⟩, v)
    | _ => none

/-- A configuration with the writes of a report made, in their order. -/
def replay (report : Report) (c : Config) : Config :=
  report.writes.foldl (fun c (p, v) => p.set v c) c

variable {report : Report} {x : Resolution} {c : Config} {k : Nat}

theorem replay_cons : replay (x :: report) c = replay report (x.outcome.store ⟨x.rule⟩ c) := by
  unfold replay writes Outcome.store
  rw [List.filterMap_cons]
  cases x.outcome <;> rfl

theorem replay_append {after : Report} :
    replay (report ++ after) c = replay after (replay report c) := by
  induction report generalizing c with
  | nil => rfl
  | cons x report ih => rw [List.cons_append, replay_cons, replay_cons, ih]

/-- The next resolution of a report makes its own write only. -/
theorem replay_take_succ (h : report[k]? = some x) :
    replay (report.take (k + 1)) c = x.outcome.store ⟨x.rule⟩ (replay (report.take k) c) := by
  rw [List.take_add_one, h, replay_append]
  exact replay_cons

end Report

open Report

variable {mode : Mode} {rules : List Rule} {c : Config} {k : Nat} {x : Resolution}

/-- What a resolution says of a rule is what the rule has done. -/
theorem Rule.store_resolve (r : Rule) (c : Config) :
    (r.resolve c).outcome.store ⟨(r.resolve c).rule⟩ c = r.apply c := by
  rw [r.resolve_rule]
  rfl

theorem pass_replay (mode : Mode) (rules : List Rule) (c : Config) :
    (pass mode rules c).2 = (pass mode rules c).1.replay c := by
  induction rules generalizing c with
  | nil => rfl
  | cons r rest ih =>
    by_cases hstop : mode.StopsAt (r.resolve c)
    · obtain ⟨rfl, herror⟩ := hstop
      obtain ⟨e, he⟩ := stopsAt_failFast.mp ⟨rfl, herror⟩
      rw [pass_stop ⟨rfl, herror⟩, replay_cons, he]
      rfl
    · rw [pass_go hstop, replay_cons, r.store_resolve]
      exact ih (r.apply c)

theorem pass_resolution (h : (pass mode rules c).1[k]? = some x) :
    ∃ r, rules[k]? = some r ∧ x = r.resolve (replay ((pass mode rules c).1.take k) c) := by
  induction rules generalizing c k with
  | nil => cases h
  | cons r rest ih =>
    cases k with
    | zero =>
      refine ⟨r, rfl, ?_⟩
      by_cases hstop : mode.StopsAt (r.resolve c)
      · rw [pass_stop hstop] at h
        exact (Option.some.inj h).symm
      · rw [pass_go hstop] at h
        exact (Option.some.inj h).symm
    | succ k =>
      by_cases hstop : mode.StopsAt (r.resolve c)
      · rw [pass_stop hstop] at h
        cases h
      · rw [pass_go hstop] at h ⊢
        rw [List.take_succ_cons, replay_cons, r.store_resolve]
        exact ih h

theorem pass_names (mode : Mode) (rules : List Rule) (c : Config) :
    (pass mode rules c).1.map Resolution.rule <+: rules.map Rule.name := by
  rw [List.prefix_iff_getElem?]
  intro k hk
  rw [List.length_map] at hk
  obtain ⟨r, hr, hx⟩ := pass_resolution (List.getElem?_eq_getElem hk)
  rw [List.getElem_map, List.getElem?_map, hr, hx, r.resolve_rule]
  rfl

/-- A pass that goes on at failures, or meets none, goes through all its rules; any other one ends at
its first failure. -/
theorem pass_end (mode : Mode) (rules : List Rule) (c : Config) :
    ((mode = .collectAll ∨ isSuccess (pass mode rules c).1 = true) ∧
        (pass mode rules c).1.map Resolution.rule = rules.map Rule.name) ∨
      mode = .failFast ∧ ∃ before x e, (pass mode rules c).1 = before ++ [x] ∧
        isSuccess before = true ∧ x.outcome = .failed e := by
  induction rules generalizing c with
  | nil => exact .inl ⟨.inr rfl, rfl⟩
  | cons r rest ih =>
    by_cases hstop : mode.StopsAt (r.resolve c)
    · obtain ⟨rfl, herror⟩ := hstop
      obtain ⟨e, he⟩ := stopsAt_failFast.mp ⟨rfl, herror⟩
      rw [pass_stop ⟨rfl, herror⟩]
      exact .inr ⟨rfl, [], r.resolve c, e, rfl, rfl, he⟩
    · rw [pass_go hstop]
      rcases ih (r.apply c) with ⟨hgoes, hall⟩ | ⟨rfl, before, x, e, hreport, hb, he⟩
      · left
        rw [List.map_cons, List.map_cons, r.resolve_rule, hall]
        refine ⟨?_, rfl⟩
        cases mode with
        | collectAll => exact .inl rfl
        | failFast => simpa [isNone_of_goes hstop] using hgoes
      · right
        refine ⟨rfl, r.resolve c :: before, x, e, ?_, ?_, he⟩
        · rw [hreport]
          rfl
        · rw [isSuccess_cons, isNone_of_goes hstop, hb]
          rfl

namespace Ruleset

/-- The report of a pass is a trace of it. It names the rules in their order, all of them unless the
pass stops at a failure. Replaying it gives the configuration that the pass leaves, and replaying
what comes before a resolution gives the configuration on which its rule comes to it; the rules
behind see the value that it has written, and nothing new if it has written none. -/
theorem run_trace (s : Ruleset) (mode : Mode) (c : Config) :
    (s.run mode c).1.map Resolution.rule <+: s.ordered.map Rule.name ∧
      (((mode = .collectAll ∨ isSuccess (s.run mode c).1 = true) ∧
          (s.run mode c).1.map Resolution.rule = s.ordered.map Rule.name) ∨
        mode = .failFast ∧ ∃ before x e, (s.run mode c).1 = before ++ [x] ∧
          isSuccess before = true ∧ x.outcome = .failed e) ∧
      (s.run mode c).2 = replay (s.run mode c).1 c ∧
      ∀ k x, (s.run mode c).1[k]? = some x →
        (∃ r, s.ordered[k]? = some r ∧ x = r.resolve (replay ((s.run mode c).1.take k) c)) ∧
        (∀ v, x.outcome = .written v →
          Path.get? ⟨x.rule⟩ (replay ((s.run mode c).1.take (k + 1)) c) = some v) ∧
        ((∀ v, x.outcome ≠ .written v) →
          replay ((s.run mode c).1.take (k + 1)) c = replay ((s.run mode c).1.take k) c) := by
  refine ⟨pass_names mode s.ordered c, pass_end mode s.ordered c, pass_replay mode s.ordered c, ?_⟩
  intro k x hx
  rw [replay_take_succ hx]
  refine ⟨pass_resolution hx, ?_, ?_⟩
  · intro v hv
    rw [hv]
    exact Path.get?_set_self ⟨x.rule⟩ v _
  · intro hunwritten
    cases ho : x.outcome with
    | written v => exact absurd ho (hunwritten v)
    | _ => rfl

/-- A limit that is a list; the level is missing. -/
def listedLimit : Config := [("limit", .array [])]

theorem run_trace_listedLimit : ∃ s x y v e, ofDefinitions limitByLevel = .ok s ∧
    (s.run .collectAll listedLimit).1 = [x, y] ∧ x.outcome = .written v ∧ y.outcome = .failed e ∧
      Path.get? ⟨x.rule⟩ (replay [x] listedLimit) = some v ∧
      (∃ r, s.ordered[1]? = some r ∧ y = r.resolve (replay [x] listedLimit)) ∧
      (s.run .collectAll listedLimit).2 = replay [x] listedLimit := by
  obtain ⟨s, hs, hshape⟩ : ∃ s, ofDefinitions limitByLevel = .ok s ∧
      (s.run .collectAll listedLimit).1.map (fun x =>
        ((Report.writes [x]).length, x.outcome.error?.isSome)) = [(1, false), (0, true)] :=
    exists_ok (by decide +kernel)
  obtain ⟨x, _, hreport, hx, hrest⟩ := List.map_eq_cons_iff.mp hshape
  obtain ⟨y, _, rfl, hy, hend⟩ := List.map_eq_cons_iff.mp hrest
  obtain rfl := List.map_eq_nil_iff.mp hend
  obtain ⟨v, hv⟩ : ∃ v, x.outcome = .written v := by
    cases h : x.outcome <;> simp [Report.writes, h] at hx ⊢
  obtain ⟨e, he⟩ : ∃ e, y.outcome = .failed e := by
    cases h : y.outcome <;> simp [Outcome.error?, h] at hy ⊢
  obtain ⟨-, -, hleft, htrace⟩ := s.run_trace .collectAll listedLimit
  rw [hreport] at htrace hleft
  obtain ⟨-, hwritten, -⟩ := htrace 0 x rfl
  obtain ⟨hresolve, -, hkept⟩ := htrace 1 y rfl
  have hfailed : ∀ v, y.outcome ≠ .written v := by simp [he]
  exact ⟨s, x, y, v, e, hs, hreport, hv, he, hwritten v hv, hresolve, hleft.trans (hkept hfailed)⟩

end Ruleset

end ConfigRules
