import Mathlib.Logic.Relation
import ConfigRules.Proofs.Access

/-!
JSON values up to the order of the members of their objects. Writes along paths that are apart can
change places.
-/

namespace ConfigRules

namespace Keyed

variable {κ α : Type} [DecidableEq κ] {key other : κ} {v w : α} {es fs : Keyed κ α}

theorem get?_append : get? key (es ++ fs) = (get? key es).or (get? key fs) := by
  induction es with
  | nil => simp [get?]
  | cons e es ih =>
    obtain ⟨k, x⟩ := e
    by_cases hk : k = key <;> simp [get?, hk, ih]

theorem put_append_left (h : get? key es ≠ none) : put key v (es ++ fs) = put key v es ++ fs := by
  induction es with
  | nil => exact absurd rfl h
  | cons e es ih =>
    obtain ⟨k, x⟩ := e
    by_cases hk : k = key
    · simp [put, hk]
    · simp only [get?, hk, if_false] at h
      simp [put, hk, ih h]

theorem put_append_right (h : get? key es = none) : put key v (es ++ fs) = es ++ put key v fs := by
  induction es with
  | nil => rfl
  | cons e es ih =>
    obtain ⟨k, x⟩ := e
    by_cases hk : k = key
    · simp [get?, hk] at h
    · simp only [get?, hk, if_false] at h
      simp [put, hk, ih h]

theorem put_new (h : get? key es = none) : put key v es = es ++ [(key, v)] := by
  have hput : put key v (es ++ []) = es ++ put key v [] := put_append_right h
  rwa [List.append_nil] at hput

/-- Whatever value a key is given, it stands in the same place. -/
theorem put_split (key : κ) (es : Keyed κ α) :
    ∃ before after, ∀ v, put key v es = before ++ (key, v) :: after := by
  induction es with
  | nil => exact ⟨[], [], fun _ => rfl⟩
  | cons e es ih =>
    obtain ⟨k, x⟩ := e
    by_cases hk : k = key
    · exact ⟨[], es, fun v => by simp [put, hk]⟩
    · obtain ⟨before, after, h⟩ := ih
      exact ⟨(k, x) :: before, after, fun v => by simp [put, hk, h]⟩

/-- Two keys can be given their values in either order, unless both are new. -/
theorem put_comm (hne : key ≠ other) (h : get? key es ≠ none ∨ get? other es ≠ none) :
    put key v (put other w es) = put other w (put key v es) := by
  induction es with
  | nil => exact absurd rfl (h.elim id id)
  | cons e es ih =>
    obtain ⟨k, x⟩ := e
    by_cases hk : k = key
    · subst hk
      simp [put, hne]
    · by_cases ho : k = other
      · subst ho
        simp [put, hk]
      · simp only [get?, hk, ho, if_false] at h
        simp [put, hk, ho, ih h]

end Keyed

namespace Json

/-- Two neighbouring members of an object, at any depth, change places. -/
inductive Reordered : Json → Json → Prop
  | swap {k l : String} (h : k ≠ l) (v w : Json) (before after : Members) :
    Reordered (object (before ++ (k, v) :: (l, w) :: after))
      (object (before ++ (l, w) :: (k, v) :: after))
  | member {v w : Json} (h : Reordered v w) (k : String) (before after : Members) :
    Reordered (object (before ++ (k, v) :: after)) (object (before ++ (k, w) :: after))
  | item {v w : Json} (h : Reordered v w) (before after : List Json) :
    Reordered (array (before ++ v :: after)) (array (before ++ w :: after))

/-- Values are equal up to the order of the members of their objects. -/
def Alike : Json → Json → Prop := Relation.ReflTransGen Reordered

theorem Alike.refl (j : Json) : Alike j j := Relation.ReflTransGen.refl

theorem Alike.trans {i j k : Json} (h : Alike i j) (hk : Alike j k) : Alike i k :=
  Relation.ReflTransGen.trans h hk

theorem Reordered.alike {i j : Json} (h : Reordered i j) : Alike i j :=
  Relation.ReflTransGen.single h

theorem Reordered.symm {i j : Json} (h : Reordered i j) : Reordered j i := by
  induction h with
  | swap h v w before after => exact .swap h.symm w v before after
  | member _ k before after ih => exact ih.member k before after
  | item _ before after ih => exact ih.item before after

theorem Alike.symm {i j : Json} (h : Alike i j) : Alike j i := by
  induction h with
  | refl => exact .refl _
  | tail _ hs ih => exact hs.symm.alike.trans ih

theorem Alike.member {v w : Json} (h : Alike v w) (k : String) (before after : Members) :
    Alike (object (before ++ (k, v) :: after)) (object (before ++ (k, w) :: after)) :=
  h.lift (fun x => object (before ++ (k, x) :: after)) fun _ _ hx => hx.member k before after

theorem Alike.put {v w : Json} (h : Alike v w) (key : String) (ms : Members) :
    Alike (object (ms.put key v)) (object (ms.put key w)) := by
  obtain ⟨before, after, hput⟩ := ms.put_split key
  rw [hput, hput]
  exact h.member key before after

/-- Members that are given to an object come in either order. -/
theorem alike_put_put {key other : String} (hne : key ≠ other) (v w : Json) (ms : Members) :
    Alike (object ((ms.put other w).put key v)) (object ((ms.put key v).put other w)) := by
  by_cases h : ms.get? key ≠ none ∨ ms.get? other ≠ none
  · rw [Keyed.put_comm hne h]
    exact .refl _
  · obtain ⟨hk, ho⟩ : ms.get? key = none ∧ ms.get? other = none := by simpa using h
    have hput : ∀ k x l y, ms.get? k = none → ms.get? l = none → l ≠ k →
        (ms.put k x).put l y = ms ++ [(k, x), (l, y)] := by
      intro k x l y hk hl hlk
      rw [Keyed.put_new hk, Keyed.put_append_right hl]
      simp [Keyed.put, hlk.symm]
    rw [hput other w key v ho hk hne, hput key v other w hk ho hne.symm]
    exact (Reordered.swap hne.symm w v ms []).alike

/-- Objects with one more member in front. -/
theorem Alike.cons {ms ns : Members} (h : Alike (object ms) (object ns)) (m : String × Json) :
    Alike (object (m :: ms)) (object (m :: ns)) := by
  refine h.lift' (fun j => object (m :: j.members)) ?_
  intro i j hs
  cases hs with
  | swap hne v w before after => exact (Reordered.swap hne v w (m :: before) after).alike
  | member h k before after => exact (h.member k (m :: before) after).alike
  | item => exact Relation.ReflTransGen.refl

/-- A member can go behind those of other keys. -/
theorem alike_append_singleton {key : String} {ms : Members} (h : ms.get? key = none) (v : Json) :
    Alike (object ((key, v) :: ms)) (object (ms ++ [(key, v)])) := by
  induction ms with
  | nil => exact .refl _
  | cons m ms ih =>
    obtain ⟨k, w⟩ := m
    by_cases hk : k = key
    · simp [Keyed.get?, hk] at h
    · simp only [Keyed.get?, hk, if_false] at h
      exact (Reordered.swap (Ne.symm hk) v w [] ms).alike.trans ((ih h).cons (k, w))

theorem get?_swap {k l key : String} (h : k ≠ l) (v w : Json) (before after : Members) :
    Keyed.get? key (before ++ (k, v) :: (l, w) :: after) =
      Keyed.get? key (before ++ (l, w) :: (k, v) :: after) := by
  by_cases hk : k = key
  · subst hk
    simp [Keyed.get?_append, Keyed.get?, h.symm]
  · simp [Keyed.get?_append, Keyed.get?, hk]

theorem rel_alike_refl (x : Option Json) : Option.Rel Alike x x := by
  cases x with
  | none => exact .none
  | some i => exact .some (.refl i)

theorem rel_alike_trans {x y z : Option Json} (h : Option.Rel Alike x y)
    (hz : Option.Rel Alike y z) : Option.Rel Alike x z := by
  cases h with
  | none => exact hz
  | some hij =>
    cases hz with
    | some hjk => exact .some (hij.trans hjk)

/-- A read does not depend on the order of members. -/
theorem Reordered.get? {i j : Json} (h : Reordered i j) (ks : List String) :
    Option.Rel Alike (i.get? ks) (j.get? ks) := by
  induction h generalizing ks with
  | swap hne v w before after =>
    cases ks with
    | nil => exact .some (Reordered.swap hne v w before after).alike
    | cons key keys =>
      simp only [Json.get?, members_object, get?_swap hne]
      exact rel_alike_refl _
  | member h k before after ih =>
    cases ks with
    | nil => exact .some (h.member k before after).alike
    | cons key keys =>
      simp only [Json.get?, members_object, Keyed.get?_append, Keyed.get?]
      cases Keyed.get? key before with
      | some y => exact rel_alike_refl _
      | none =>
        by_cases hk : k = key
        · simpa [hk] using ih keys
        · simpa [hk] using rel_alike_refl _
  | item h before after _ =>
    cases ks with
    | nil => exact .some (h.item before after).alike
    | cons key keys => exact .none

theorem Alike.get? {i j : Json} (h : Alike i j) (ks : List String) :
    Option.Rel Alike (i.get? ks) (j.get? ks) := by
  induction h with
  | refl => exact rel_alike_refl _
  | tail _ hs ih => exact rel_alike_trans ih (hs.get? ks)

/-- A write does not depend on the order of members. -/
theorem Reordered.set {i j : Json} (h : Reordered i j) (ks : List String) (x : Json) :
    Alike (set ks x i) (set ks x j) := by
  induction h generalizing ks with
  | swap hne v w before after =>
    rename_i k l
    cases ks with
    | nil => exact .refl _
    | cons key keys =>
      apply Reordered.alike
      simp only [Json.set, members_object, get?_swap hne]
      by_cases hb : Keyed.get? key before = none
      · rw [Keyed.put_append_right hb, Keyed.put_append_right hb]
        by_cases hk : k = key
        · subst hk
          simpa [Keyed.put, hne.symm] using Reordered.swap hne _ _ _ _
        · by_cases hl : l = key
          · subst hl
            simpa [Keyed.put, hk] using Reordered.swap hne _ _ _ _
          · simpa [Keyed.put, hk, hl] using Reordered.swap hne _ _ _ _
      · rw [Keyed.put_append_left hb, Keyed.put_append_left hb]
        exact Reordered.swap hne _ _ _ _
  | member h k before after ih =>
    cases ks with
    | nil => exact .refl _
    | cons key keys =>
      simp only [Json.set, members_object, Keyed.get?_append]
      by_cases hb : Keyed.get? key before = none
      · rw [Keyed.put_append_right hb, Keyed.put_append_right hb, hb]
        by_cases hk : k = key
        · subst hk
          simpa [Keyed.put, Keyed.get?] using Alike.member (ih keys) _ _ _
        · simpa [Keyed.put, Keyed.get?, hk] using (h.member _ _ _).alike
      · obtain ⟨y, hy⟩ := Option.ne_none_iff_exists'.mp hb
        rw [Keyed.put_append_left hb, Keyed.put_append_left hb, hy]
        exact (h.member _ _ _).alike
  | item => cases ks <;> exact .refl _

theorem Alike.set {i j : Json} (h : Alike i j) (ks : List String) (x : Json) :
    Alike (set ks x i) (set ks x j) :=
  h.lift' (Json.set ks x) fun _ _ hs => hs.set ks x

/-- Writes along paths that are apart can change places. -/
theorem alike_set_set {ks ls : List String} (h : Apart ks ls) (v w j : Json) :
    Alike (set ks v (set ls w j)) (set ls w (set ks v j)) := by
  induction ks generalizing ls j with
  | nil => exact absurd List.nil_prefix h.1
  | cons key keys ih =>
    cases ls with
    | nil => exact absurd rfl h.ne_nil
    | cons other others =>
      by_cases he : key = other
      · subst he
        simp only [set, members_object, Keyed.get?_put_self, Keyed.put_put, Option.getD_some]
        exact (ih h.tail _).put key _
      · simp only [set, members_object, Keyed.get?_put_other he, Keyed.get?_put_other (Ne.symm he)]
        exact alike_put_put he _ _ _

end Json

namespace Path

theorem alike_set {p : Path} {c d : Config} (h : Json.Alike (.object c) (.object d)) (v : Json) :
    Json.Alike (.object (p.set v c)) (.object (p.set v d)) := by
  rw [object_set, object_set]
  exact h.set _ v

theorem alike_set_set {p q : Path} (h : Apart p.segments q.segments) (v w : Json) (c : Config) :
    Json.Alike (.object (p.set v (q.set w c))) (.object (q.set w (p.set v c))) := by
  simp only [object_set]
  exact Json.alike_set_set h v w _

end Path

end ConfigRules
