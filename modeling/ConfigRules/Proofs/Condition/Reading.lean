import ConfigRules.Condition.Basic

/-!
What conditions read. A formula looks at the items that it names and at nothing else.
-/

namespace ConfigRules

/-- Two configurations hold the same values at some items. -/
def Agree (items : List Path) (c d : Config) : Prop := ∀ p ∈ items, p.get? c = p.get? d

namespace Condition

/-- Two configurations give some items the same values in conditions, or the same faults. -/
def ResolveAlike (items : List Path) (c d : Config) : Prop :=
  ∀ p ∈ items, Formula.resolve c p = Formula.resolve d p

theorem ResolveAlike.left {ps qs : List Path} {c d : Config} (h : ResolveAlike (ps ++ qs) c d) :
    ResolveAlike ps c d :=
  fun p hp => h p (List.mem_append_left _ hp)

theorem ResolveAlike.right {ps qs : List Path} {c d : Config} (h : ResolveAlike (ps ++ qs) c d) :
    ResolveAlike qs c d :=
  fun p hp => h p (List.mem_append_right _ hp)

theorem ResolveAlike.of_agree {ps : List Path} {c d : Config} (h : Agree ps c d) :
    ResolveAlike ps c d := by
  intro p hp
  funext position
  unfold Formula.resolve
  rw [h p hp]

namespace Formula

variable {c d : Config}

theorem value_congr (f : Formula) (h : ResolveAlike f.items c d) : f.value c = f.value d := by
  cases f with
  | item path position => exact congrFun (h path (by simp [items])) position
  | _ => rfl

theorem relates_congr (r : Relation) (f g : Formula) (hf : ResolveAlike f.items c d)
    (hg : ResolveAlike g.items c d) : relates c r f g = relates d r f g := by
  unfold relates
  rw [value_congr f hf, value_congr g hg]

theorem anyEqual_congr (subject : Scalar) (fs : List Formula)
    (h : ResolveAlike (itemsOfAll fs) c d) : anyEqual c subject fs = anyEqual d subject fs := by
  induction fs with
  | nil => rfl
  | cons f fs ih =>
    rw [itemsOfAll] at h
    simp only [anyEqual, value_congr f h.left, ih h.right]

theorem isMember_congr (f : Formula) (fs : List Formula) (hf : ResolveAlike f.items c d)
    (hs : ResolveAlike (itemsOfAll fs) c d) : isMember c f fs = isMember d f fs := by
  unfold isMember
  simp only [value_congr f hf, anyEqual_congr _ fs hs]

theorem holds_congr : (f : Formula) → ResolveAlike f.items c d → f.holds c = f.holds d
  | truth _, _ | number _ _, _ | text _ _, _ => rfl
  | item path position, h => by
    simp only [holds, h path (by simp [items])]
  | not f, h => by
    rw [items] at h
    simp only [holds, holds_congr f h]
  | and f g, h | or f g, h => by
    rw [items] at h
    simp only [holds, holds_congr f h.left, holds_congr g h.right]
  | compare r f g, h => by
    rw [items] at h
    simp only [holds, relates_congr r f g h.left h.right]
  | member f _ fs, h => by
    rw [items] at h
    simp only [holds, isMember_congr f fs h.left h.right]

end Formula

theorem mem_items {x : Condition} {p : Path} : p ∈ x.items ↔ p ∈ x.formula.items :=
  List.mem_eraseDups

/-- A condition is decided alike wherever the items that it names have the same values. -/
theorem decided_congr {c d : Config} (x : Condition) (h : ResolveAlike x.items c d) :
    x.holds c = x.holds d :=
  Formula.holds_congr x.formula fun p hp => h p (mem_items.mpr hp)

end Condition

end ConfigRules
