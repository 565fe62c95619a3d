import ConfigRules.Path

/-!
Reading and writing along paths. A write is seen at its own path, turns everything above it into
objects, and leaves everything else as it was.
-/

namespace ConfigRules

/-- Neither list of keys leads to a place on the way of the other. -/
def Apart (ks ls : List String) : Prop := ¬ ks <+: ls ∧ ¬ ls <+: ks

theorem Apart.symm {ks ls : List String} (h : Apart ks ls) : Apart ls ks := ⟨h.2, h.1⟩

theorem Apart.ne_nil {ks ls : List String} (h : Apart ks ls) : ls ≠ [] := by
  intro he
  subst he
  exact h.2 List.nil_prefix

theorem Apart.tail {key : String} {ks ls : List String} (h : Apart (key :: ks) (key :: ls)) :
    Apart ks ls :=
  ⟨fun hp => h.1 (List.cons_prefix_cons.mpr ⟨rfl, hp⟩),
    fun hp => h.2 (List.cons_prefix_cons.mpr ⟨rfl, hp⟩)⟩

namespace Json

@[simp] theorem members_object (ms : Members) : (object ms).members = ms := rfl

/-- A value without members has nothing below it. -/
theorem get?_leaf {j : Json} (hj : j.members = []) {ks : List String} (hk : ks ≠ []) :
    j.get? ks = none := by
  cases ks with
  | nil => contradiction
  | cons key keys => simp [get?, hj, Keyed.get?]

theorem get?_append (ks ls : List String) (j : Json) :
    j.get? (ks ++ ls) = (j.get? ks).bind (get? ls) := by
  induction ks generalizing j with
  | nil => rfl
  | cons key keys ih =>
    simp only [List.cons_append, get?]
    cases j.members.get? key with
    | none => rfl
    | some v => exact ih v

theorem get?_set_self (ks : List String) (v j : Json) : (set ks v j).get? ks = some v := by
  induction ks generalizing j with
  | nil => rfl
  | cons key keys ih =>
    simp only [set, get?, members_object, Keyed.get?_put_self, Option.bind_some]
    exact ih _

theorem get?_set_apart {ks ls : List String} (h : Apart ks ls) (v j : Json) :
    (set ks v j).get? ls = j.get? ls := by
  induction ks generalizing ls j with
  | nil => exact absurd List.nil_prefix h.1
  | cons key keys ih =>
    cases ls with
    | nil => exact absurd rfl h.ne_nil
    | cons other others =>
      by_cases he : other = key
      · subst he
        simp only [set, get?, members_object, Keyed.get?_put_self, Option.bind_some, ih h.tail]
        cases j.members.get? other with
        | none => exact get?_leaf rfl h.tail.ne_nil
        | some w => rfl
      · simp only [set, get?, members_object, Keyed.get?_put_other he]

/-- Writing the value that is there changes nothing. -/
theorem set_of_get? {ks : List String} {v j : Json} (h : j.get? ks = some v) : set ks v j = j := by
  induction ks generalizing j with
  | nil => exact (Option.some.inj h).symm
  | cons key keys ih =>
    obtain ⟨w, hw, hv⟩ := Option.bind_eq_some_iff.mp h
    cases j with
    | object ms =>
      rw [members_object] at hw
      have hput : Keyed.put key w ms = ms := Keyed.put_of_get? hw
      simp only [set, members_object, hw, Option.getD_some, ih hv, hput]
    | _ => simp [members, Keyed.get?] at hw

/-- A value that is read from below a place makes that place an object. -/
theorem members_ne_nil_of_get? {ks : List String} {v j : Json} (h : j.get? ks = some v)
    (hk : ks ≠ []) : j.members ≠ [] := by
  intro hj
  rw [get?_leaf hj hk] at h
  cases h

end Json

namespace Path

theorem segments_ne_nil (p : Path) : p.segments ≠ [] := by
  have hsplit : ∀ cs : List Char, Text.split '/' cs ≠ [] := by
    intro cs
    induction cs with
    | nil => simp [Text.split]
    | cons c cs ih =>
      unfold Text.split
      split
      · simp
      · split <;> simp
  unfold segments
  split
  · simpa using hsplit _
  · simp

/-- The keys of an item lead to the other item, or on the way to it. -/
def LeadsTo (p q : Path) : Prop := p.segments <+: q.segments

instance (p q : Path) : Decidable (LeadsTo p q) := inferInstanceAs (Decidable (_ <+: _))

/-- The item lies above the other one: its keys lead to an object that the other item is in. -/
def Above (p q : Path) : Prop := p.LeadsTo q ∧ ¬ p.SameItem q

instance (p q : Path) : Decidable (Above p q) := inferInstanceAs (Decidable (_ ∧ _))

theorem Above.segments_eq {p q : Path} (h : p.Above q) :
    ∃ ls, ls ≠ [] ∧ q.segments = p.segments ++ ls := by
  obtain ⟨⟨ls, hl⟩, hne⟩ := h
  refine ⟨ls, ?_, hl.symm⟩
  intro he
  rw [he, List.append_nil] at hl
  exact hne hl

theorem object_set (p : Path) (v : Json) (c : Config) :
    Json.object (p.set v c) = Json.set p.segments v (.object c) := by
  unfold set
  cases hs : p.segments with
  | nil => exact absurd hs p.segments_ne_nil
  | cons key keys => rfl

theorem get?_set_self (p : Path) (v : Json) (c : Config) : p.get? (p.set v c) = some v := by
  simp only [get?, object_set, Json.get?_set_self]

theorem get?_set_apart {p q : Path} (h : Apart p.segments q.segments) (v : Json) (c : Config) :
    q.get? (p.set v c) = q.get? c := by
  simp only [get?, object_set, Json.get?_set_apart h]

theorem set_of_get? {p : Path} {v : Json} {c : Config} (h : p.get? c = some v) : p.set v c = c := by
  have ho : Json.object (p.set v c) = Json.object c := by
    rw [object_set]
    exact Json.set_of_get? h
  exact Json.object.inj ho

theorem get?_congr {p q : Path} (h : p.SameItem q) (c : Config) : p.get? c = q.get? c := by
  unfold SameItem at h
  simp only [get?, h]

/-- Nothing is below an item whose value has no members. -/
theorem get?_below_leaf {p q : Path} (h : p.Above q) {c : Config}
    (hp : ∀ j, p.get? c = some j → j.members = []) : q.get? c = none := by
  obtain ⟨ls, hne, hl⟩ := h.segments_eq
  unfold get? at hp ⊢
  rw [hl, Json.get?_append]
  cases hv : (Json.object c).get? p.segments with
  | none => rfl
  | some j => exact Json.get?_leaf (hp j hv) hne

/-- A write below an item gives it members. -/
theorem members_set_below {p q : Path} (h : p.Above q) (v : Json) (c : Config) :
    ∃ j, p.get? (q.set v c) = some j ∧ j.members ≠ [] := by
  obtain ⟨ls, hne, hl⟩ := h.segments_eq
  have hself := get?_set_self q v c
  unfold get? at hself ⊢
  rw [hl, Json.get?_append] at hself
  obtain ⟨j, hj, hbelow⟩ := Option.bind_eq_some_iff.mp hself
  exact ⟨j, hj, Json.members_ne_nil_of_get? hbelow hne⟩

/-- A write makes everything on the way to its item present. -/
theorem isSome_get?_set {p q : Path} (h : p.LeadsTo q) (v : Json) (c : Config) :
    (p.get? (q.set v c)).isSome := by
  obtain ⟨ls, hl⟩ := h
  have hself := get?_set_self q v c
  unfold get? at hself ⊢
  rw [← hl, Json.get?_append] at hself
  obtain ⟨j, hj, _⟩ := Option.bind_eq_some_iff.mp hself
  exact Option.isSome_of_eq_some hj

theorem leadsTo_of_sameItem {p q : Path} (h : p.SameItem q) : p.LeadsTo q := by
  unfold LeadsTo
  exact (show p.segments = q.segments from h) ▸ List.prefix_rfl

/-- An item that does not lead to another one lies below it or apart from it. -/
theorem below_or_apart {p q : Path} (h : ¬ p.LeadsTo q) :
    q.Above p ∨ Apart q.segments p.segments := by
  by_cases hq : q.LeadsTo p
  · exact .inl ⟨hq, fun hs => h (leadsTo_of_sameItem hs.symm)⟩
  · exact .inr ⟨hq, h⟩

end Path

end ConfigRules
