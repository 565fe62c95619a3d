import ConfigRules.Proofs.Alike
import ConfigRules.Proofs.Requirement
import ConfigRules.Proofs.WellFormed

/-!
JSON values up to members that are null. Without them a value reads the same, since a member that is
null counts as missing, and a write makes the same difference.
-/

namespace ConfigRules

namespace Json

mutual

/-- A value without the members that are null, in all objects that are not in an array. -/
def withoutNulls : Json → Json
  | object ms => object (membersWithoutNulls ms)
  | j => j

def membersWithoutNulls : List (String × Json) → Members
  | [] => []
  | (key, v) :: rest =>
    if v.shape = .null then membersWithoutNulls rest
    else (key, v.withoutNulls) :: membersWithoutNulls rest

end

open Requirement (given?)

variable {i j v : Json} {key : String} {ks : List String} {ms : Members}

theorem shape_eq_null : j.shape = .null ↔ j = .null := by
  cases j <;> simp [shape]

theorem given?_of_ne (h : j ≠ .null) : given? (some j) = some j := by
  cases j <;> simp_all [given?]

theorem members_withoutNulls (j : Json) :
    j.withoutNulls.members = membersWithoutNulls j.members := by
  cases j <;> simp [withoutNulls, members, membersWithoutNulls]

theorem shape_withoutNulls (j : Json) : j.withoutNulls.shape = j.shape := by
  cases j <;> simp [withoutNulls, shape]

theorem ofJson?_withoutNulls (j : Json) : Scalar.ofJson? j.withoutNulls = Scalar.ofJson? j := by
  cases j <;> simp [withoutNulls, Scalar.ofJson?]

theorem withoutNulls_of_members (h : j.members = []) : j.withoutNulls = j := by
  cases j with
  | object ms =>
    rw [members_object] at h
    rw [h, withoutNulls, membersWithoutNulls]
  | _ => rw [withoutNulls]; simp

/-- A key that has no value, or null, has none without the nulls. -/
theorem get?_membersWithoutNulls (h : (ms.map Prod.fst).Nodup) :
    Keyed.get? key (membersWithoutNulls ms) = (given? (ms.get? key)).map withoutNulls := by
  induction ms with
  | nil => rfl
  | cons m ms ih =>
    obtain ⟨k, w⟩ := m
    obtain ⟨hk, h⟩ := List.nodup_cons.mp h
    rw [membersWithoutNulls]
    by_cases hkey : k = key
    · subst hkey
      by_cases hw : w.shape = .null
      · have hnone : Keyed.get? k ms = none := Keyed.get?_eq_none.mpr hk
        rw [shape_eq_null] at hw
        simp [hw, ih h, hnone, Keyed.get?, given?, shape]
      · have hne : w ≠ .null := fun he => hw (shape_eq_null.mpr he)
        simp [hw, Keyed.get?, given?_of_ne hne]
    · by_cases hw : w.shape = .null <;> simp [hw, Keyed.get?, hkey, ih h]

theorem get?_withoutNulls (hj : j.WellFormed) (hn : j ≠ .null) :
    j.withoutNulls.get? ks = (given? (j.get? ks)).map withoutNulls := by
  induction ks generalizing j with
  | nil => simp [get?, given?_of_ne hn]
  | cons k ks ih =>
    simp only [get?, members_withoutNulls, get?_membersWithoutNulls hj.nodup]
    cases hw : Keyed.get? k j.members with
    | none => rfl
    | some w =>
      by_cases hnull : w = .null
      · subst hnull
        cases ks <;> rfl
      · simpa [given?_of_ne hnull] using ih (hj.get? hw) hnull

/-- A new member goes to the end when the key was there with null, and else takes the place that the
key had. -/
theorem alike_put_withoutNulls (h : (ms.map Prod.fst).Nodup) (hv : v ≠ .null) :
    Alike (object (membersWithoutNulls (ms.put key v)))
      (object (Keyed.put key v.withoutNulls (membersWithoutNulls ms))) := by
  have hshape : v.shape ≠ .null := fun he => hv (shape_eq_null.mp he)
  induction ms with
  | nil =>
    simp only [Keyed.put, membersWithoutNulls, hshape, if_false]
    exact .refl _
  | cons m ms ih =>
    obtain ⟨k, w⟩ := m
    obtain ⟨hk, h⟩ := List.nodup_cons.mp h
    by_cases hkey : k = key
    · subst hkey
      by_cases hw : w.shape = .null
      · -- The write is in place of the null, but behind the other members where there is none.
        have hnone : Keyed.get? k (membersWithoutNulls ms) = none := by
          rw [get?_membersWithoutNulls h, Keyed.get?_eq_none.mpr hk]
          rfl
        simp only [Keyed.put, membersWithoutNulls, hshape, hw, if_true, if_false,
          Keyed.put_new hnone]
        exact alike_append_singleton hnone _
      · simp only [Keyed.put, membersWithoutNulls, hshape, hw, if_true, if_false]
        exact .refl _
    · by_cases hw : w.shape = .null
      · simpa [Keyed.put, membersWithoutNulls, hkey, hw] using ih h
      · simpa [Keyed.put, membersWithoutNulls, hkey, hw] using (ih h).cons (k, w.withoutNulls)

theorem set_ne_null (hv : v ≠ .null) : set ks v j ≠ .null := by
  cases ks with
  | nil => exact hv
  | cons k ks => simp [set]

/-- A write makes the same difference without the nulls. -/
theorem alike_set_withoutNulls (hj : j.WellFormed) (hn : v ≠ .null) (hv : v.members = []) :
    Alike (set ks v j).withoutNulls (set ks v j.withoutNulls) := by
  induction ks generalizing j with
  | nil =>
    simp only [set, withoutNulls_of_members hv]
    exact .refl _
  | cons k ks ih =>
    have hbelow : (Keyed.get? k (membersWithoutNulls j.members)).getD .null =
        ((Keyed.get? k j.members).getD .null).withoutNulls := by
      rw [get?_membersWithoutNulls hj.nodup]
      cases Keyed.get? k j.members with
      | none => simp [given?, withoutNulls]
      | some w => cases w <;> simp [given?, withoutNulls]
    simp only [set, members_withoutNulls, hbelow, withoutNulls]
    exact (alike_put_withoutNulls hj.nodup (set_ne_null hn)).trans ((ih hj.getD).put k _)

/-- Values are equal up to members that are null and up to the order of members. -/
def Equivalent (i j : Json) : Prop := Alike i.withoutNulls j.withoutNulls

theorem Reordered.looks {i j : Json} (h : Reordered i j) :
    i.shape = j.shape ∧ Scalar.ofJson? i = Scalar.ofJson? j := by
  cases h <;> exact ⟨rfl, rfl⟩

theorem Alike.looks {i j : Json} (h : Alike i j) :
    i.shape = j.shape ∧ Scalar.ofJson? i = Scalar.ofJson? j := by
  induction h with
  | refl => exact ⟨rfl, rfl⟩
  | tail _ hs ih => exact ⟨ih.1.trans hs.looks.1, ih.2.trans hs.looks.2⟩

namespace Equivalent

theorem shape (h : Equivalent i j) : i.shape = j.shape := by
  have hlooks := h.looks.1
  rwa [shape_withoutNulls, shape_withoutNulls] at hlooks

theorem ofJson? (h : Equivalent i j) : Scalar.ofJson? i = Scalar.ofJson? j := by
  have hlooks := h.looks.2
  rwa [ofJson?_withoutNulls, ofJson?_withoutNulls] at hlooks

/-- What is there and is not null is equivalent again. -/
theorem get? (h : Equivalent i j) (hi : i.WellFormed) (hj : j.WellFormed) (hni : i ≠ .null)
    (hnj : j ≠ .null) (ks : List String) :
    Option.Rel Equivalent (given? (i.get? ks)) (given? (j.get? ks)) := by
  have hrel := Alike.get? h ks
  rw [get?_withoutNulls hi hni, get?_withoutNulls hj hnj] at hrel
  cases hx : given? (i.get? ks) with
  | none =>
    cases hy : given? (j.get? ks) with
    | none => exact .none
    | some w =>
      rw [hx, hy] at hrel
      nomatch hrel
  | some v =>
    cases hy : given? (j.get? ks) with
    | none =>
      rw [hx, hy] at hrel
      nomatch hrel
    | some w =>
      rw [hx, hy] at hrel
      cases hrel with
      | some hvw => exact .some hvw

theorem set (h : Equivalent i j) (hi : i.WellFormed) (hj : j.WellFormed) (hn : v ≠ .null)
    (hv : v.members = []) (ks : List String) :
    Equivalent (Json.set ks v i) (Json.set ks v j) :=
  (alike_set_withoutNulls hi hn hv).trans
    ((Alike.set h ks v).trans (alike_set_withoutNulls hj hn hv).symm)

end Equivalent

end Json

end ConfigRules
