import ConfigRules.Document
import ConfigRules.Proofs.Access
import ConfigRules.Scalar

/-!
JSON values whose objects have every key once. Reading gives only such values, and writing along a
path keeps them so.
-/

namespace ConfigRules

namespace Keyed

variable {κ α : Type} [DecidableEq κ] {key : κ} {v : α} {es : Keyed κ α}

theorem get?_eq_none : get? key es = none ↔ key ∉ es.map Prod.fst := by
  induction es with
  | nil => simp [get?]
  | cons e es ih =>
    obtain ⟨k, x⟩ := e
    by_cases hk : k = key
    · simp [get?, hk]
    · simp [get?, hk, ih, Ne.symm hk]

theorem mem_of_get? (h : get? key es = some v) : (key, v) ∈ es := by
  induction es with
  | nil => cases h
  | cons e es ih =>
    obtain ⟨k, x⟩ := e
    by_cases hk : k = key
    · simp only [get?, hk, if_true, Option.some.injEq] at h
      simp [hk, h]
    · simp only [get?, hk, if_false] at h
      exact List.mem_cons_of_mem _ (ih h)

theorem mem_put {e : κ × α} (h : e ∈ put key v es) : e = (key, v) ∨ e ∈ es := by
  induction es with
  | nil => exact .inl (List.mem_singleton.mp h)
  | cons x es ih =>
    obtain ⟨k, y⟩ := x
    unfold put at h
    split at h
    · rename_i hk
      rcases List.mem_cons.mp h with rfl | h
      · exact .inl (by rw [hk])
      · exact .inr (List.mem_cons_of_mem _ h)
    · rcases List.mem_cons.mp h with rfl | h
      · exact .inr List.mem_cons_self
      · exact (ih h).imp_right (List.mem_cons_of_mem _)

theorem nodup_put (h : (es.map Prod.fst).Nodup) : ((put key v es).map Prod.fst).Nodup := by
  induction es with
  | nil => simp [put]
  | cons e es ih =>
    obtain ⟨k, x⟩ := e
    rw [List.map_cons, List.nodup_cons] at h
    unfold put
    split
    · exact List.nodup_cons.mpr h
    · rename_i hk
      refine List.nodup_cons.mpr ⟨?_, ih h.2⟩
      rw [← get?_eq_none, get?_put_other hk]
      exact get?_eq_none.mpr h.1

end Keyed

namespace Json

/-- Objects have a property exactly when their keys differ and their members have it. -/
structure OfMembers (P : Json → Prop) : Prop where
  null : P .null
  object_iff : ∀ {ms : Members}, P (object ms) ↔ (ms.map Prod.fst).Nodup ∧ ∀ m ∈ ms, P m.2

/-- No object has two members of one key. What is in an array does not matter, since no path leads
there. -/
inductive WellFormed : Json → Prop
  | ofMembers {ms : Members} (hk : (ms.map Prod.fst).Nodup) (hv : ∀ m ∈ ms, WellFormed m.2) :
    WellFormed (object ms)
  | ofLeaf {j : Json} (h : j.shape ≠ .object) : WellFormed j

/-- Containers are arrays and objects. -/
def IsContainer (j : Json) : Prop := j.shape = .array ∨ j.shape = .object

/-- No object has two members of one key, wherever it stands. -/
inductive Distinct : Json → Prop
  | object {ms : Members} (hk : (ms.map Prod.fst).Nodup) (hv : ∀ m ∈ ms, Distinct m.2) :
    Distinct (object ms)
  | array {vs : List Json} (hv : ∀ v ∈ vs, Distinct v) : Distinct (array vs)
  | leaf {j : Json} (h : ¬ j.IsContainer) : Distinct j

variable {j v : Json} {key : String} {ms : Members}

theorem members_of_shape (h : j.shape ≠ .object) : j.members = [] := by
  cases j with
  | object ms => exact absurd rfl h
  | _ => rfl

namespace OfMembers

variable {P : Json → Prop}

theorem members (hP : OfMembers P) (h : P j) : P (.object j.members) := by
  cases j with
  | object ms => exact h
  | _ => exact hP.object_iff.mpr ⟨List.nodup_nil, nofun⟩

theorem put (hP : OfMembers P) (h : P (.object ms)) (hv : P v) : P (.object (ms.put key v)) := by
  obtain ⟨hk, hms⟩ := hP.object_iff.mp h
  refine hP.object_iff.mpr ⟨Keyed.nodup_put hk, ?_⟩
  intro m hm
  rcases Keyed.mem_put hm with rfl | hm
  · exact hv
  · exact hms m hm

/-- The value of a key, or null where there is none. -/
theorem getD (hP : OfMembers P) (h : P j) : P ((j.members.get? key).getD .null) := by
  cases hk : j.members.get? key with
  | none => exact hP.null
  | some w => exact (hP.object_iff.mp (hP.members h)).2 _ (Keyed.mem_of_get? hk)

theorem set {ks : List String} (hP : OfMembers P) (hj : P j) (hv : P v) : P (set ks v j) := by
  induction ks generalizing j with
  | nil => exact hv
  | cons key keys ih => exact hP.put (hP.members hj) (ih (hP.getD hj))

end OfMembers

namespace WellFormed

theorem of_members (h : j.members = []) : j.WellFormed := by
  cases j with
  | object ms =>
    rw [members_object] at h
    subst h
    exact .ofMembers List.nodup_nil (by simp)
  | _ => exact .ofLeaf (by simp [shape])

theorem nodup (h : j.WellFormed) : (j.members.map Prod.fst).Nodup := by
  cases h with
  | ofMembers hk hv => exact hk
  | ofLeaf h =>
    rw [members_of_shape h]
    exact List.nodup_nil

theorem member (h : j.WellFormed) {m : String × Json} (hm : m ∈ j.members) : m.2.WellFormed := by
  cases h with
  | ofMembers hk hv => exact hv m hm
  | ofLeaf h =>
    rw [members_of_shape h] at hm
    cases hm

theorem object_iff : (object ms).WellFormed ↔
    (ms.map Prod.fst).Nodup ∧ ∀ m ∈ ms, m.2.WellFormed :=
  ⟨fun h => ⟨h.nodup, fun _ => h.member⟩, fun ⟨hk, hv⟩ => .ofMembers hk hv⟩

theorem ofMembers_wellFormed : OfMembers WellFormed := ⟨.of_members rfl, object_iff⟩

theorem get? (h : j.WellFormed) (hv : j.members.get? key = some v) : v.WellFormed :=
  h.member (Keyed.mem_of_get? hv)

theorem getD (h : j.WellFormed) : ((j.members.get? key).getD .null).WellFormed :=
  ofMembers_wellFormed.getD h

theorem set {ks : List String} (hj : j.WellFormed) (hv : v.WellFormed) :
    (set ks v j).WellFormed := ofMembers_wellFormed.set hj hv

end WellFormed

namespace Distinct

theorem object_iff : (Json.object ms).Distinct ↔
    (ms.map Prod.fst).Nodup ∧ ∀ m ∈ ms, m.2.Distinct := by
  constructor
  · intro h
    cases h with
    | object hk hv => exact ⟨hk, hv⟩
    | leaf h => exact absurd (.inr rfl) h
  · exact fun ⟨hk, hv⟩ => .object hk hv

theorem ofMembers_distinct : OfMembers Distinct := ⟨.leaf (by simp [IsContainer, shape]), object_iff⟩

theorem wellFormed (h : j.Distinct) : j.WellFormed := by
  induction h with
  | object hk _ ih => exact .ofMembers hk ih
  | array => exact .of_members rfl
  | leaf h => exact .ofLeaf fun hs => h (.inr hs)

end Distinct

namespace Token

/-- A token brings no container of its own. -/
def Plain : Token → Prop
  | atom v => ¬ v.IsContainer
  | _ => True

theorem number?_shape {negative : Bool} {whole fraction exponent : List Char} {v : Json}
    (h : number? negative whole fraction exponent = some v) : v.shape = .number := by
  unfold number? numberBy? at h
  extract_lets n at h
  split at h
  · cases h
    rfl
  · obtain ⟨x, -, rfl⟩ := Option.map_eq_some_iff.mp h
    rfl

theorem numberAt?_plain {negative : Bool} {cs : List Char} {v : Json} {n : Nat}
    (h : numberAt? negative cs = some (v, n)) : (atom v).Plain := by
  unfold numberAt? at h
  extract_lets whole afterWhole fraction exponent at h
  split at h
  · cases h
  · obtain ⟨w, hw, he⟩ := Option.map_eq_some_iff.mp h
    cases he
    simp [Plain, IsContainer, number?_shape hw]

theorem first?_plain {c : Char} {cs : List Char} {t : Token} {n : Nat}
    (h : first? c cs = some (t, n)) : t.Plain := by
  have hnumber : ∀ {negative : Bool} {ds : List Char} (k : Nat → Nat),
      (numberAt? negative ds).map (fun p => (atom p.1, k p.2)) = some (t, n) → t.Plain := by
    intro negative ds k hmap
    obtain ⟨⟨v, m⟩, hv, he⟩ := Option.map_eq_some_iff.mp hmap
    cases he
    exact numberAt?_plain hv
  have hword : ∀ {b : Bool} {v : Json} {m : Nat}, ¬ v.IsContainer →
      (if b then some (atom v, m) else none) = some (t, n) → t.Plain := by
    intro b v m hv hif
    cases b <;> cases hif
    exact hv
  unfold first? at h
  split at h
  case h_7 =>
    obtain ⟨_, _, he⟩ := Option.map_eq_some_iff.mp h
    cases he
    trivial
  case h_8 | h_9 | h_10 => exact hword (by simp [IsContainer, shape]) h
  case h_11 => exact hnumber id h
  case h_12 =>
    split at h
    · exact hnumber (· - 1) h
    · cases h
  all_goals
    cases h
    trivial

theorem all?_plain {cs : List Char} {ts : List Token} (h : all? cs = some ts) :
    ∀ t ∈ ts, t.Plain := by
  fun_induction all? cs generalizing ts with
  | case1 =>
    cases h
    exact fun _ ht => nomatch ht
  | case2 c cs hs ih => exact ih h
  | case3 c cs hs ih =>
    obtain ⟨⟨token, n⟩, hfirst, h⟩ := Option.bind_eq_some_iff.mp h
    obtain ⟨rest, hrest, h⟩ := Option.bind_eq_some_iff.mp h
    cases h
    intro t ht
    rcases List.mem_cons.mp ht with rfl | ht
    · exact first?_plain hfirst
    · exact ih n hrest t ht

end Token

namespace Reader

/-- Of the containers part way through, the objects have every key once. -/
def Frame.Distinct : Frame → Prop
  | .items done => ∀ v ∈ done, v.Distinct
  | .members done _ => (object done).Distinct

def Phase.Distinct : Phase → Prop
  | .key done | .colon done _ => (object done).Distinct
  | .after v => v.Distinct
  | _ => True

/-- All objects that have been read so far have every key once. -/
def Distinct (r : Reader) : Prop := (∀ f ∈ r.frames, Frame.Distinct f) ∧ Phase.Distinct r.phase

variable {r q : Reader} {frames : List Frame} {t : Token} {v : Json}

theorem begin?_distinct (hf : ∀ f ∈ frames, Frame.Distinct f) (ht : t.Plain)
    (h : begin? frames t = some r) : r.Distinct := by
  unfold begin? at h
  split at h
  · split at h <;> cases h
    exact ⟨List.forall_mem_cons.mpr ⟨nofun, hf⟩, trivial⟩
  · split at h <;> cases h
    exact ⟨hf, trivial⟩
  · cases h
    exact ⟨hf, .leaf (by simp [IsContainer, shape])⟩
  · cases h
    exact ⟨hf, .leaf ht⟩
  · cases h

theorem continue?_distinct (hf : ∀ f ∈ frames, Frame.Distinct f) (hv : v.Distinct)
    (h : continue? v frames t = some r) : r.Distinct := by
  unfold continue? at h
  split at h <;> cases h
  all_goals
    obtain ⟨hdone, hf⟩ := List.forall_mem_cons.mp hf
  · exact ⟨List.forall_mem_cons.mpr ⟨List.forall_mem_cons.mpr ⟨hv, hdone⟩, hf⟩, trivial⟩
  · refine ⟨hf, .array fun w hw => ?_⟩
    rcases List.mem_cons.mp (List.mem_reverse.mp hw) with rfl | hw
    · exact hv
    · exact hdone w hw
  · exact ⟨hf, Distinct.ofMembers_distinct.put hdone hv⟩
  · exact ⟨hf, Distinct.ofMembers_distinct.put hdone hv⟩

theorem step?_distinct (hr : r.Distinct) (ht : t.Plain) (h : r.step? t = some q) :
    q.Distinct := by
  obtain ⟨frames, phase⟩ := r
  obtain ⟨hf, hphase⟩ := hr
  unfold step? at h
  dsimp only at h
  split at h
  · exact begin?_distinct hf ht h
  · cases h
    exact ⟨fun f hin => hf f (List.mem_of_mem_tail hin), .array nofun⟩
  · exact begin?_distinct hf ht h
  · cases h
    exact ⟨hf, .object List.nodup_nil nofun⟩
  · cases h
    exact ⟨hf, .object List.nodup_nil nofun⟩
  · cases h
    exact ⟨hf, hphase⟩
  · cases h
    exact ⟨List.forall_mem_cons.mpr ⟨hphase, hf⟩, trivial⟩
  · exact continue?_distinct hf hphase h
  · cases h

theorem steps_distinct {ts : List Token} (hr : r.Distinct) (ht : ∀ t ∈ ts, t.Plain)
    (h : ts.foldlM step? r = some q) : q.Distinct := by
  induction ts generalizing r with
  | nil =>
    cases h
    exact hr
  | cons t ts ih =>
    rw [List.foldlM_cons] at h
    obtain ⟨p, hp, h⟩ := Option.bind_eq_some_iff.mp h
    obtain ⟨ht, hts⟩ := List.forall_mem_cons.mp ht
    exact ih (step?_distinct hr ht hp) hts h

end Reader

/-- What is read from a text has every key once in its objects. -/
theorem parse?_distinct {text : String} (h : parse? text = some v) : v.Distinct := by
  obtain ⟨ts, hts, h⟩ := Option.bind_eq_some_iff.mp h
  obtain ⟨r, hr, h⟩ := Option.bind_eq_some_iff.mp h
  have hstart : Reader.Distinct ⟨[], .value⟩ := ⟨nofun, trivial⟩
  have hread := Reader.steps_distinct hstart (Token.all?_plain hts) hr
  unfold Reader.result? at h
  split at h <;> cases h
  exact hread.2

end Json

theorem Scalar.toJson_leaf (v : Scalar) : ¬ v.toJson.IsContainer := by
  cases v with
  | float x => cases x <;> simp [toJson, Json.IsContainer, Json.shape]
  | _ => simp [toJson, Json.IsContainer, Json.shape]

theorem Scalar.toJson_distinct (v : Scalar) : v.toJson.Distinct := .leaf v.toJson_leaf

/-- A document gives a well-formed configuration. -/
theorem readDocument_wellFormed {path text : String} {c : Config}
    (h : readDocument path text = .ok c) : (Json.object c).WellFormed := by
  unfold readDocument objectOf at h
  split at h <;> cases h
  exact (Json.parse?_distinct ‹_›).wellFormed

end ConfigRules
