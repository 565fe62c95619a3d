import ConfigRules.Pass
import ConfigRules.Proofs.Access
import ConfigRules.Proofs.Ruleset
import ConfigRules.Proofs.WellFormed

/-!
What rules do to a configuration, one at a time and in a pass. A rule writes its own item at most,
and only over a value without members; so a pass leaves every item as it was that does not lead to
the item of one of its rules.
-/

namespace ConfigRules

/-- The value of a rule's item after its outcome. -/
def Outcome.leaves (before : Option Json) : Outcome → Option Json
  | .written v => some v
  | _ => before

namespace Rule

variable {r : Rule} {c d : Config}

/-- The configuration that a rule leaves. -/
def apply (r : Rule) (c : Config) : Config := (r.resolve c).outcome.store r.path c

theorem resolve_rule (r : Rule) (c : Config) : (r.resolve c).rule = r.name := by
  unfold resolve
  split
  · rfl
  · split <;> rfl

theorem checkSelected_ok {selected : Option Variant} {x : Option Scalar} :
    r.checkSelected c selected = .ok x ↔
      (r.requirement selected).check r.name (r.path.get? c) = .ok x := by
  unfold checkSelected requirement
  dsimp only
  split
  · rename_i w hw
    rw [hw]
    simp
  · rename_i e he
    rw [he]
    simp

/-- What has become of a rule that has not failed: the requirement selected has let a value through,
or there is nothing to write. -/
theorem resolve_cases (r : Rule) (c : Config) : (∃ e, (r.resolve c).outcome = .failed e) ∨
    ∃ selected x, r.select c = .ok selected ∧
      (r.requirement selected).check r.name (r.path.get? c) = .ok x ∧
      r.resolve c = ⟨r.name, selected.map fun v => v.condition.source,
        (x.map fun v => Outcome.written v.toJson).getD .unchanged⟩ := by
  unfold resolve
  split
  · exact .inl ⟨_, rfl⟩
  · rename_i selected hs
    dsimp only
    split
    · rename_i v hv
      exact .inr ⟨selected, some v, hs, checkSelected_ok.mp hv, rfl⟩
    · rename_i hn
      exact .inr ⟨selected, none, hs, checkSelected_ok.mp hn, rfl⟩
    · exact .inl ⟨_, rfl⟩

theorem resolve_ok {selected : Option Variant} {x : Option Scalar} (hs : r.select c = .ok selected)
    (hx : (r.requirement selected).check r.name (r.path.get? c) = .ok x) :
    r.resolve c = ⟨r.name, selected.map fun v => v.condition.source,
      (x.map fun v => Outcome.written v.toJson).getD .unchanged⟩ := by
  unfold resolve
  simp only [hs, checkSelected_ok.mpr hx]
  cases x <;> rfl

/-- A rule looks at its own item and at those that its conditions read. -/
theorem resolve_congr (hs : r.select c = r.select d) (hp : r.path.get? c = r.path.get? d) :
    r.resolve c = r.resolve d := by
  unfold resolve checkSelected
  rw [hs, hp]

theorem resolve_written {v : Json} (h : (r.resolve c).outcome = .written v) :
    ∃ selected w, r.select c = .ok selected ∧
      (r.requirement selected).check r.name (r.path.get? c) = .ok (some w) ∧ v = w.toJson := by
  obtain ⟨e, he⟩ | ⟨selected, x, hs, hx, hr⟩ := resolve_cases r c
  · rw [he] at h
    cases h
  · rw [hr] at h
    cases x with
    | none => cases h
    | some w =>
      cases h
      exact ⟨selected, w, hs, hx, rfl⟩

/-- What a rule writes has no members. -/
theorem written_members {v : Json} (h : (r.resolve c).outcome = .written v) : v.members = [] := by
  obtain ⟨_, w, _, _, rfl⟩ := resolve_written h
  exact Scalar.toJson_members w

/-- A rule writes only over a value without members. -/
theorem written_over {v : Json} (h : (r.resolve c).outcome = .written v) :
    ∀ j, r.path.get? c = some j → j.members = [] := by
  obtain ⟨_, _, _, hw, _⟩ := resolve_written h
  exact Requirement.check_leaf hw

theorem apply_written {v : Json} (h : (r.resolve c).outcome = .written v) :
    r.apply c = r.path.set v c := by
  unfold apply
  rw [h]
  rfl

/-- A rule leaves the configuration as it was, or writes its item. -/
theorem apply_cases (r : Rule) (c : Config) : r.apply c = c ∨
    ∃ v, (r.resolve c).outcome = .written v ∧ r.apply c = r.path.set v c := by
  unfold apply
  cases h : (r.resolve c).outcome with
  | written v => exact .inr ⟨v, rfl, rfl⟩
  | _ => exact .inl rfl

/-- A rule writes nothing that has keys. -/
theorem apply_distinct (r : Rule) (hc : (Json.object c).Distinct) :
    (Json.object (r.apply c)).Distinct := by
  obtain he | ⟨v, hv, he⟩ := r.apply_cases c
  · rwa [he]
  · obtain ⟨_, w, _, _, rfl⟩ := resolve_written hv
    rw [he, Path.object_set]
    exact Json.Distinct.ofMembers_distinct.set hc w.toJson_distinct

theorem get?_apply_self (r : Rule) (c : Config) :
    r.path.get? (r.apply c) = (r.resolve c).outcome.leaves (r.path.get? c) := by
  unfold apply
  cases (r.resolve c).outcome with
  | written v => exact Path.get?_set_self r.path v c
  | _ => rfl

/-- An item that does not lead to the rule's own keeps its value. Nothing is lost below the rule's
item, since nothing can have been there. -/
theorem get?_apply {p : Path} (hp : ¬ p.LeadsTo r.path) : p.get? (r.apply c) = p.get? c := by
  obtain he | ⟨v, hv, he⟩ := apply_cases r c
  · rw [he]
  · rw [he]
    obtain hb | ha := Path.below_or_apart hp
    · rw [Path.get?_below_leaf hb (written_over hv), Path.get?_below_leaf hb]
      intro j hj
      rw [Path.get?_set_self, Option.some.injEq] at hj
      exact hj ▸ written_members hv
    · exact Path.get?_set_apart ha v c

/-- A rule comes to the same on any configuration that selects alike and holds, at the rule's item,
what the rule has left there. -/
theorem resolve_again (hr : r.Defined) (hs : r.select d = r.select c)
    (hd : r.path.get? d = (r.resolve c).outcome.leaves (r.path.get? c)) :
    r.resolve d = r.resolve c := by
  cases ho : (r.resolve c).outcome with
  | written v =>
    rw [ho] at hd
    obtain ⟨selected, w, hsel, hw, rfl⟩ := resolve_written ho
    have hc := hr.requirement (select_mem hsel)
    have hp := (Requirement.check_some hw).1
    have hagain : (r.requirement selected).check r.name (r.path.get? d) = .ok (some w) := by
      rw [hd]
      exact Requirement.check_toJson hp hc (Requirement.check_admits hc hw)
    rw [resolve_ok (hs.trans hsel) hagain, resolve_ok hsel hw]
  | _ =>
    rw [ho] at hd
    exact resolve_congr hs hd

end Rule

/-- A pass ends with a resolution. -/
def Mode.StopsAt (mode : Mode) (x : Resolution) : Prop :=
  mode = .failFast ∧ x.outcome.error?.isSome = true

section

variable {mode : Mode} {r : Rule} {rules rest : List Rule} {c : Config}

theorem pass_stop (h : mode.StopsAt (r.resolve c)) :
    pass mode (r :: rest) c = ([r.resolve c], c) := by
  rw [pass]
  exact if_pos h

theorem pass_go (h : ¬ mode.StopsAt (r.resolve c)) : pass mode (r :: rest) c =
    (r.resolve c :: (pass mode rest (r.apply c)).1, (pass mode rest (r.apply c)).2) := by
  rw [pass]
  exact if_neg h

theorem collectAll_goes (x : Resolution) : ¬ Mode.collectAll.StopsAt x := fun h => nomatch h.1

theorem goes_of_written {x : Resolution} {v : Json} (h : x.outcome = .written v) :
    ¬ mode.StopsAt x := by
  intro hstop
  have herror := hstop.2
  rw [h] at herror
  cases herror

/-- A pass leaves every item as it was that does not lead to the item of a rule. -/
theorem get?_pass {p : Path} (h : ∀ r ∈ rules, ¬ p.LeadsTo r.path) :
    p.get? (pass mode rules c).2 = p.get? c := by
  induction rules generalizing c with
  | nil => rfl
  | cons r rest ih =>
    by_cases hs : mode.StopsAt (r.resolve c)
    · rw [pass_stop hs]
    · rw [pass_go hs]
      exact (ih fun q hq => h q (List.mem_cons_of_mem _ hq)).trans
        (Rule.get?_apply (h r List.mem_cons_self))

end

/-- A pass keeps every key once in its objects. -/
theorem pass_distinct (hc : (Json.object c).Distinct) :
    (Json.object (pass mode rules c).2).Distinct := by
  induction rules generalizing c with
  | nil => exact hc
  | cons r rest ih =>
    by_cases hs : mode.StopsAt (r.resolve c)
    · rwa [pass_stop hs]
    · rw [pass_go hs]
      exact ih (r.apply_distinct hc)

end ConfigRules
