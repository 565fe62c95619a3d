import ConfigRules.Proofs.Condition.Reading
import ConfigRules.Proofs.Except

/-!
Conditions on configurations that hold more. What a condition comes to stays as it is when missing
items get values, as long as the items that it names keep those that they have.
-/

namespace ConfigRules

/-- At some items a configuration has every value that another one has there. An item that is absent
or null in the other one may hold anything. -/
def Extends (items : List Path) (c d : Config) : Prop :=
  ∀ p ∈ items, ∀ v, p.get? c = some v → v ≠ .null → p.get? d = some v

namespace Condition

/-- Whatever items resolve to on one configuration, they resolve to on another one. -/
def ResolveMore (items : List Path) (c d : Config) : Prop :=
  ∀ p ∈ items, ∀ position v, Formula.resolve c p position = .ok v →
    Formula.resolve d p position = .ok v

theorem ResolveMore.left {ps qs : List Path} {c d : Config} (h : ResolveMore (ps ++ qs) c d) :
    ResolveMore ps c d :=
  fun p hp => h p (List.mem_append_left _ hp)

theorem ResolveMore.right {ps qs : List Path} {c d : Config} (h : ResolveMore (ps ++ qs) c d) :
    ResolveMore qs c d :=
  fun p hp => h p (List.mem_append_right _ hp)

theorem ResolveMore.of_extends {ps : List Path} {c d : Config} (h : Extends ps c d) :
    ResolveMore ps c d := by
  intro p hp position v hv
  unfold Formula.resolve at hv ⊢
  split at hv
  · cases hv
  · cases hv
  · rename_i j hnull hj
    rw [h p hp j hj hnull]
    split
    · rename_i he
      cases he
    · rename_i he
      exact absurd (Option.some.inj he) hnull
    · rename_i he
      cases he
      exact hv

namespace Formula

variable {c d : Config} {b : Bool}

theorem value_mono {f : Formula} {v : Scalar} (hf : ResolveMore f.items c d)
    (h : f.value c = .ok v) : f.value d = .ok v := by
  cases f with
  | item path position => exact hf path (by simp [items]) position v h
  | _ => exact h

theorem relates_mono {r : Relation} {f g : Formula} (hf : ResolveMore f.items c d)
    (hg : ResolveMore g.items c d) : relates c r f g = .ok b → relates d r f g = .ok b :=
  bind_mono (fun _ => value_mono hf) fun _ => bind_mono (fun _ => value_mono hg) fun _ h => h

theorem anyEqual_mono {subject : Scalar} {fs : List Formula}
    (hs : ResolveMore (itemsOfAll fs) c d) :
    anyEqual c subject fs = .ok b → anyEqual d subject fs = .ok b := by
  induction fs with
  | nil => exact id
  | cons f fs ih =>
    rw [itemsOfAll] at hs
    refine bind_mono (fun _ => value_mono hs.left) fun element => ?_
    cases element.convertTo? subject.kind with
    | none => exact id
    | some converted =>
      dsimp only
      cases converted.equal subject with
      | true => exact id
      | false => exact ih hs.right

theorem isMember_mono {f : Formula} {fs : List Formula} (hf : ResolveMore f.items c d)
    (hs : ResolveMore (itemsOfAll fs) c d) :
    isMember c f fs = .ok b → isMember d f fs = .ok b := by
  refine bind_mono (fun _ => value_mono hf) fun subject => ?_
  cases subject.kind with
  | int | float | str => exact anyEqual_mono hs
  | bool | type => exact id

theorem holds_mono {b : Bool} :
    (f : Formula) → ResolveMore f.items c d → f.holds c = .ok b → f.holds d = .ok b
  | truth _, _ => id
  | number _ _, _ | text _ _, _ => id
  | item path position, h =>
    bind_mono (fun v => h path (by simp [items]) position v) fun _ => id
  | not f, h => by
    rw [items] at h
    exact bind_mono (fun _ => holds_mono f h) fun _ => id
  | and f g, h => by
    rw [items] at h
    refine bind_mono (fun _ => holds_mono f h.left) fun first => ?_
    cases first with
    | true => exact holds_mono g h.right
    | false => exact id
  | or f g, h => by
    rw [items] at h
    refine bind_mono (fun _ => holds_mono f h.left) fun first => ?_
    cases first with
    | true => exact id
    | false => exact holds_mono g h.right
  | compare r f g, h => by
    rw [items] at h
    exact relates_mono h.left h.right
  | member f _ fs, h => by
    rw [items] at h
    exact bind_mono (fun _ => isMember_mono h.left h.right) fun _ => id

end Formula

/-- A condition sees only the items that it names. It comes to the same on configurations that agree
on those, faults included; and what it has come to stands wherever the items that it names and that
are present keep their values, whatever the missing ones get. -/
theorem holds_determined (x : Condition) (c d : Config) :
    (Agree x.items c d → x.holds c = x.holds d) ∧
      (Extends x.items c d → ∀ b, x.holds c = .ok b → x.holds d = .ok b) := by
  refine ⟨fun h => decided_congr x (.of_agree h), ?_⟩
  intro h b
  have hmore : Extends x.formula.items c d := fun p hp => h p (mem_items.mpr hp)
  exact Formula.holds_mono x.formula (.of_extends hmore)

/-- A switch that is on. -/
def switched : Config := [("on", .bool true)]

/-- The same switch, with a level that nothing compares with and a note. -/
def switchedHigh : Config := [("note", .null), ("on", .bool true), ("level", .string "high")]

/-- The level is not looked at, so it need not be one. -/
theorem holds_determined_switched : ∃ x, Condition.parse "{on} or {level} > 3" = .ok x ∧
    x.holds switched = .ok true ∧ Extends x.items switched switchedHigh ∧
    x.holds switchedHigh = .ok true ∧
    ∃ y, Condition.parse "{on}" = .ok y ∧ Agree y.items switched switchedHigh ∧
      y.holds switched = y.holds switchedHigh := by
  obtain ⟨x, hx, hitems, hholds⟩ : ∃ x, Condition.parse "{on} or {level} > 3" = .ok x ∧
      x.items = [⟨"on"⟩, ⟨"level"⟩] ∧ (x.holds switched).toOption = some true :=
    exists_ok (by decide +kernel)
  obtain ⟨y, hy, hon⟩ : ∃ y, Condition.parse "{on}" = .ok y ∧ y.items = [⟨"on"⟩] :=
    exists_ok (by decide +kernel)
  have hsame : Path.get? ⟨"on"⟩ switched = Path.get? ⟨"on"⟩ switchedHigh := rfl
  have hmore : Extends x.items switched switchedHigh := by
    intro p hp v hv hnull
    rw [hitems] at hp
    rcases List.mem_pair.mp hp with rfl | rfl
    · exact hsame ▸ hv
    · cases hv
  have hagree : Agree y.items switched switchedHigh := by
    intro p hp
    rw [hon] at hp
    rw [List.mem_singleton.mp hp, hsame]
  have htrue : x.holds switched = .ok true := by
    cases h : x.holds switched <;> simp_all [Except.toOption]
  exact ⟨x, hx, htrue, hmore, (holds_determined x _ _).2 hmore true htrue, y, hy, hagree,
    (holds_determined y _ _).1 hagree⟩

end Condition

end ConfigRules
