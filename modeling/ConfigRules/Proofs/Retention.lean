import ConfigRules.Proofs.Pass

/-!
What becomes of a written value in the rest of a pass. It stays until a later rule writes below its
item: that turns the item into an object, which it remains.
-/

namespace ConfigRules

/-- A resolution that writes below an item. -/
def Resolution.WritesBelow (x : Resolution) (p : Path) : Prop :=
  (∃ v, x.outcome = .written v) ∧ p.Above ⟨x.rule⟩

variable {r : Rule} {rules : List Rule} {p : Path} {mode : Mode} {c : Config} {v : Json}

namespace Rule

/-- A rule that writes below an item gives it members. -/
theorem members_apply (h : (r.resolve c).WritesBelow p) :
    ∃ j, p.get? (r.apply c) = some j ∧ j.members ≠ [] := by
  obtain ⟨⟨v, hv⟩, ha⟩ := h
  rw [r.resolve_rule] at ha
  rw [apply_written hv]
  exact Path.members_set_below ha v c

/-- A rule for another item keeps an item's value, unless it writes below the item. -/
theorem get?_apply_other (hp : ¬ p.SameItem r.path) (h : ¬ (r.resolve c).WritesBelow p) :
    p.get? (r.apply c) = p.get? c := by
  by_cases hl : p.LeadsTo r.path
  · obtain he | ⟨v, hv, _⟩ := r.apply_cases c
    · rw [he]
    · refine absurd ⟨⟨v, hv⟩, ?_⟩ h
      rw [r.resolve_rule]
      exact ⟨hl, hp⟩
  · exact get?_apply hl

end Rule

/-- An item with members keeps having some. -/
theorem members_pass (hp : ∀ r ∈ rules, ¬ p.SameItem r.path)
    (h : ∃ j, p.get? c = some j ∧ j.members ≠ []) :
    ∃ j, p.get? (pass mode rules c).2 = some j ∧ j.members ≠ [] := by
  induction rules generalizing c with
  | nil => exact h
  | cons r rest ih =>
    by_cases hstop : mode.StopsAt (r.resolve c)
    · rw [pass_stop hstop]
      exact h
    · rw [pass_go hstop]
      apply ih fun q hq => hp q (List.mem_cons_of_mem _ hq)
      by_cases hw : (r.resolve c).WritesBelow p
      · exact Rule.members_apply hw
      · rw [Rule.get?_apply_other (hp r List.mem_cons_self) hw]
        exact h

/-- A value without members stays at its item exactly when no rule writes below it. -/
theorem get?_pass_iff (hp : ∀ r ∈ rules, ¬ p.SameItem r.path) (hv : v.members = [])
    (h : p.get? c = some v) : p.get? (pass mode rules c).2 = some v ↔
      ∀ x ∈ (pass mode rules c).1, ¬ x.WritesBelow p := by
  induction rules generalizing c with
  | nil => simp [pass, h]
  | cons r rest ih =>
    have hrest : ∀ q ∈ rest, ¬ p.SameItem q.path := fun q hq => hp q (List.mem_cons_of_mem _ hq)
    by_cases hstop : mode.StopsAt (r.resolve c)
    · have hfailed : ¬ (r.resolve c).WritesBelow p := by
        intro hw
        obtain ⟨⟨w, hw⟩, _⟩ := hw
        exact goes_of_written hw hstop
      rw [pass_stop hstop]
      simpa [h] using hfailed
    · rw [pass_go hstop]
      by_cases hw : (r.resolve c).WritesBelow p
      · obtain ⟨j, hj, hne⟩ : ∃ j, p.get? (pass mode rest (r.apply c)).2 = some j ∧
            j.members ≠ [] := members_pass hrest (Rule.members_apply hw)
        constructor
        · intro he
          rw [hj, Option.some.injEq] at he
          exact absurd (he ▸ hv) hne
        · intro hnone
          exact absurd hw (hnone _ List.mem_cons_self)
      · have hkept := Rule.get?_apply_other (hp r List.mem_cons_self) hw
        rw [ih hrest (hkept.trans h), List.forall_mem_cons]
        exact ⟨fun hall => ⟨hw, hall⟩, fun hall => hall.2⟩

/-- What a pass tells behind a resolution comes from the pass of the rules behind its rule. -/
theorem pass_split {before after : Report} {x : Resolution}
    (h : (pass mode rules c).1 = before ++ x :: after) : ∃ earlier r rest d,
      rules = earlier ++ r :: rest ∧ r.resolve d = x ∧
        pass mode (r :: rest) d = (x :: after, (pass mode rules c).2) := by
  induction before generalizing rules c with
  | nil =>
    cases rules with
    | nil => cases h
    | cons r rest =>
      refine ⟨[], r, rest, c, rfl, ?_, Prod.ext h rfl⟩
      by_cases hstop : mode.StopsAt (r.resolve c)
      · rw [pass_stop hstop] at h
        exact (List.cons.inj h).1
      · rw [pass_go hstop] at h
        exact (List.cons.inj h).1
  | cons y before ih =>
    cases rules with
    | nil => cases h
    | cons q rules =>
      by_cases hstop : mode.StopsAt (q.resolve c)
      · rw [pass_stop hstop] at h
        simp at h
      · rw [pass_go hstop] at h ⊢
        obtain ⟨earlier, r, rest, d, hrules, hx, hpass⟩ := ih (List.cons.inj h).2
        exact ⟨q :: earlier, r, rest, d, by rw [hrules]; rfl, hx, hpass⟩

namespace Ruleset

variable {definitions : List (String × Json)} {s : Ruleset}

/-- A value that a rule has written is there at the end of the pass exactly when no later rule of
the pass has written below the rule's item. -/
theorem written_kept_iff (h : ofDefinitions definitions = .ok s) (mode : Mode) (c : Config)
    {before after : Report} {name : String} {selected : Option String} {v : Json}
    (hx : (s.run mode c).1 = before ++ ⟨name, selected, .written v⟩ :: after) :
    Path.get? ⟨name⟩ (s.run mode c).2 = some v ↔ ∀ x ∈ after, ¬ x.WritesBelow ⟨name⟩ := by
  obtain ⟨_, ha⟩ := accepted h
  obtain ⟨earlier, r, rest, d, hrules, hr, hpass⟩ := pass_split hx
  have hdistinct : ∀ q ∈ rest, ¬ r.path.SameItem q.path := by
    have hd := ha.distinct
    rw [hrules] at hd
    exact (List.pairwise_cons.mp (List.pairwise_append.mp hd).2.1).1
  have hw : (r.resolve d).outcome = .written v := by rw [hr]
  rw [pass_go (goes_of_written hw), Prod.mk.injEq, List.cons.injEq] at hpass
  obtain ⟨⟨_, hafter⟩, hfinal⟩ := hpass
  have hname : r.path = ⟨name⟩ := by rw [Rule.path, ← r.resolve_rule d, hr]
  have hself : r.path.get? (r.apply d) = some v := by rw [r.get?_apply_self, hw]; rfl
  change Path.get? ⟨name⟩ (pass mode s.ordered c).2 = some v ↔ _
  rw [← hafter, ← hfinal, ← hname]
  exact get?_pass_iff hdistinct (Rule.written_members hw) hself

/-- Rules for an item and for one below it. -/
def nested : List (String × Json) :=
  [("a", .object (withDefault 1)), ("/a/b", .object (withDefault 2))]

/-- A third rule is for an item beside the second one. -/
def branching : List (String × Json) := nested ++ [("/a/c", .object (withDefault 3))]

/-- Of the three values that are written, the first one gives way to an object, and the second one is
kept although another one is written after it. -/
theorem written_kept_branching : ∃ s x y z, ofDefinitions branching = .ok s ∧
    (s.run .failFast []).1 = [x, y, z] ∧
      x.outcome = .written (Scalar.int 1).toJson ∧ y.outcome = .written (Scalar.int 2).toJson ∧
      z.outcome = .written (Scalar.int 3).toJson ∧
      Path.get? ⟨"a"⟩ (s.run .failFast []).2 ≠ some (Scalar.int 1).toJson ∧
      Path.get? ⟨"/a/b"⟩ (s.run .failFast []).2 = some (Scalar.int 2).toJson := by
  let x : Resolution := ⟨"a", none, .written (Scalar.int 1).toJson⟩
  let y : Resolution := ⟨"/a/b", none, .written (Scalar.int 2).toJson⟩
  let z : Resolution := ⟨"/a/c", none, .written (Scalar.int 3).toJson⟩
  obtain ⟨s, hs, hreport⟩ : ∃ s, ofDefinitions branching = .ok s ∧
      (s.run .failFast []).1 = [x, y, z] := ⟨_, rfl, rfl⟩
  have hlost : ¬ ∀ w ∈ [y, z], ¬ w.WritesBelow ⟨"a"⟩ := by
    intro h
    exact h y List.mem_cons_self ⟨⟨_, rfl⟩, by decide⟩
  have hkept : ∀ w ∈ [z], ¬ w.WritesBelow ⟨"/a/b"⟩ := by
    intro w hw
    obtain rfl := List.mem_singleton.mp hw
    rintro ⟨-, h⟩
    revert h
    decide
  have hfromFirst : (s.run .failFast []).1 = [] ++ x :: [y, z] := hreport
  have hfromSecond : (s.run .failFast []).1 = [x] ++ y :: [z] := hreport
  have hfirst := mt (written_kept_iff hs .failFast [] hfromFirst).mp hlost
  have hsecond := (written_kept_iff hs .failFast [] hfromSecond).mpr hkept
  exact ⟨s, x, y, z, hs, hreport, rfl, rfl, rfl, hfirst, hsecond⟩

/-- The value written first gives way to an object. -/
theorem written_lost_nested : ∃ s selected v x, ofDefinitions nested = .ok s ∧
    (s.run .failFast []).1 = [⟨"a", selected, .written v⟩, x] ∧
      Path.get? ⟨"a"⟩ (s.run .failFast []).2 ≠ some v := by
  refine ⟨_, none, (Scalar.int 1).toJson, _, rfl, rfl, ?_⟩
  intro h
  cases h

end Ruleset

end ConfigRules
