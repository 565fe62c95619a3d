import ConfigRules.Condition.Evaluation
import ConfigRules.Proofs.Except

/-!
Memberships beside comparisons. A subject that is looked up in a list is compared with one element
after another, so a membership comes to what the disjunction of the equalities comes to. It comes to
more: it converts the elements where a comparison wants them of the subject's kind.
-/

namespace ConfigRules

open Condition

/-- A value of a kind that can be told equal needs no conversion. -/
theorem Scalar.convertTo?_self {v : Scalar} (h : Relation.eq.Accepts v.kind) :
    v.convertTo? v.kind = some v := by
  cases v with
  | int | float | str => rfl
  | bool | type => exact h.elim

theorem isEq_compare {α : Type} [Ord α] [Std.LawfulEqOrd α] [BEq α] [LawfulBEq α] (a b : α) :
    (compare b a).isEq = (a == b) := by
  rw [Bool.eq_iff_iff, Ordering.isEq_iff_eq_eq, Std.compare_eq_iff_eq, beq_iff_eq]
  exact eq_comm

theorem Binary64.compare?_swap (x y : Binary64) : x.compare? y = (y.compare? x).map .swap := by
  unfold compare?
  cases x.rank? with
  | none => cases y.rank? <;> rfl
  | some a =>
    cases y.rank? with
    | none => rfl
    | some b => exact congrArg some Std.OrientedOrd.eq_swap

/-- Values of one kind are equal when they compare as equal. -/
theorem Scalar.equal_eq_compare {v w : Scalar} (h : Relation.eq.Accepts w.kind)
    (hk : w.kind = v.kind) : v.equal w = Relation.eq.holds (w.compare? v) := by
  cases w with
  | int b =>
    cases v with
    | int a =>
      have hcompare : (compare b.toInt a.toInt).isEq = (a == b) := by
        rw [isEq_compare, Bool.eq_iff_iff, beq_iff_eq, beq_iff_eq, Int64.toInt_inj]
      exact hcompare.symm
    | _ => cases hk
  | float y =>
    cases v with
    | float x =>
      have hswap : (x.compare? y == some .eq) = Relation.eq.holds (y.compare? x) := by
        rw [Binary64.compare?_swap]
        cases y.compare? x with
        | none => rfl
        | some order => cases order <;> rfl
      exact hswap
    | _ => cases hk
  | str t =>
    cases v with
    | str s => exact (isEq_compare s t).symm
    | _ => cases hk
  | bool | type => exact h.elim

/-- No JSON value is the name of a kind. -/
theorem Scalar.kind_ne_type_of_ofJson? {j : Json} {v : Scalar} (h : ofJson? j = some v) :
    v.kind ≠ .type := by
  cases j with
  | number n =>
    cases n with
    | real x => cases h; simp [kind]
    | integer n fits =>
      simp only [ofJson?, Option.some.injEq] at h
      split at h <;> subst h <;> simp [kind]
  | bool b => cases h; simp [kind]
  | string s => cases h; simp [kind]
  | _ => cases h

namespace Condition.Formula

variable {config : Config} {f g : Formula} {gs : List Formula} {v w : Scalar} {b : Bool}

/-- Items and literals never hold the name of a kind. -/
theorem kind_ne_type_of_value (h : f.value config = .ok v) : v.kind ≠ .type := by
  cases f with
  | number n _ =>
    cases h
    cases n <;> simp [Number.toScalar, Scalar.kind]
  | text s _ =>
    cases h
    simp [Scalar.kind]
  | item path position =>
    simp only [value, resolve] at h
    split at h
    · cases h
    · cases h
    · split at h
      · rename_i hv
        cases h
        exact Scalar.kind_ne_type_of_ofJson? hv
      · cases h
  | _ => cases h

theorem accepts_of_value (h : f.value config = .ok v) (hb : ∀ b, v ≠ .bool b) :
    Relation.eq.Accepts v.kind := by
  have htype := kind_ne_type_of_value h
  cases v with
  | int | float => trivial
  | str => rfl
  | bool b => exact absurd rfl (hb b)
  | type k => exact absurd rfl htype

theorem relates_error {e : Fault} (r : Relation) (h : f.value config = .error e) :
    relates config r f g = .error e := by
  unfold relates
  rw [h]
  rfl

/-- How a comparison goes on from the value on its left. -/
theorem relates_ok (r : Relation) (h : f.value config = .ok v) :
    relates config r f g = g.value config >>= fun w =>
      if v.kind ≠ w.kind then .error (.mismatch (.mixedKinds v r w g.place))
      else if r.Accepts v.kind then .ok (r.holds (v.compare? w))
      else .error (.mismatch (.unrelated r v.kind f.place)) := by
  unfold relates
  rw [h]
  rfl

/-- How a membership goes on from the value of its subject. -/
theorem isMember_ok (h : f.value config = .ok v) (hv : Relation.eq.Accepts v.kind) :
    isMember config f gs = anyEqual config v gs := by
  unfold isMember
  rw [h]
  cases v with
  | int | float | str => rfl
  | bool | type => exact hv.elim

theorem isMember_error {e : Fault} (h : f.value config = .error e) :
    isMember config f gs = .error e := by
  unfold isMember
  rw [h]
  rfl

theorem holds_member (negated : Bool) :
    (member f negated gs).holds config = (· != negated) <$> isMember config f gs := by
  cases h : isMember config f gs <;> simp [holds, h, bind, Except.bind, pure, Except.pure]

/-- The subject equals the first element or else another one, as a disjunction from the left. -/
def equalsAny (f g : Formula) (gs : List Formula) : Formula :=
  gs.foldl (fun sum h => or sum (compare .eq f h)) (compare .eq f g)

/-- The comparisons of such a disjunction, up to the first one that holds. -/
def relatesAny (config : Config) (f : Formula) : List Formula → Except Fault Bool
  | [] => .ok false
  | g :: gs => do if ← relates config .eq f g then return true else relatesAny config f gs

/-- A disjunction from the left looks at its parts from the left. -/
theorem holds_foldl_or (sum : Formula) :
    (gs.foldl (fun sum h => or sum (compare .eq f h)) sum).holds config =
      (do if ← sum.holds config then return true else relatesAny config f gs) := by
  induction gs generalizing sum with
  | nil =>
    cases h : sum.holds config with
    | error e => simp [h, bind, Except.bind]
    | ok b => cases b <;> simp [h, relatesAny, bind, Except.bind, pure, Except.pure]
  | cons g gs ih =>
    rw [List.foldl_cons, ih]
    cases h : sum.holds config with
    | error e => simp [holds, h, bind, Except.bind]
    | ok b => cases b <;> simp [holds, h, relatesAny, bind, Except.bind, pure, Except.pure]

theorem holds_equalsAny : (equalsAny f g gs).holds config = relatesAny config f (g :: gs) :=
  holds_foldl_or (compare .eq f g)

/-- What is found by comparing is found by looking up, and so is what cannot be resolved. Only where
comparing comes to a mismatch can looking up come to something else. -/
theorem anyEqual_eq_relatesAny (hf : f.value config = .ok v) (hv : Relation.eq.Accepts v.kind)
    (h : ∀ m, relatesAny config f gs ≠ .error (.mismatch m)) :
    anyEqual config v gs = relatesAny config f gs := by
  induction gs with
  | nil => rfl
  | cons g gs ih =>
    rw [relatesAny, relates_ok .eq hf] at h ⊢
    rw [anyEqual]
    cases hg : g.value config with
    | error e => rfl
    | ok w =>
      simp only [hg, bind, Except.bind] at h ih ⊢
      by_cases hk : v.kind = w.kind
      · have hconvert : w.convertTo? v.kind = some w := by
          rw [hk]
          exact Scalar.convertTo?_self (hk ▸ hv)
        have hequal := Scalar.equal_eq_compare hv hk
        simp only [hk, ne_eq, not_true_eq_false, if_false, if_pos (hk ▸ hv)] at h hconvert ⊢
        rw [hconvert]
        simp only [hequal]
        cases hcompare : Relation.eq.holds (v.compare? w) with
        | true => rfl
        | false =>
          simp only [hcompare] at h
          exact ih h
      · simp only [ne_eq, hk, not_false_eq_true, if_true] at h
        exact absurd rfl (h _)

/-- Truth values are not compared. -/
theorem relatesAny_bool {c : Bool} (hf : f.value config = .ok (.bool c)) :
    relatesAny config f (g :: gs) ≠ .ok b := by
  rw [relatesAny, relates_ok .eq hf]
  cases g.value config with
  | error e => exact nofun
  | ok w => cases w <;> exact nofun

theorem isMember_eq_relatesAny (hf : ∀ c, f.value config ≠ .ok (.bool c))
    (h : ∀ m, relatesAny config f (g :: gs) ≠ .error (.mismatch m)) :
    isMember config f (g :: gs) = relatesAny config f (g :: gs) := by
  cases hv : f.value config with
  | error e =>
    rw [isMember_error hv, relatesAny, relates_error .eq hv]
    rfl
  | ok v =>
    have haccepts : Relation.eq.Accepts v.kind :=
      accepts_of_value hv fun c hc => hf c (hc ▸ hv)
    rw [isMember_ok hv haccepts]
    exact anyEqual_eq_relatesAny hv haccepts h

/-- A membership agrees with the equalities. Whatever their disjunction comes to, the membership
comes to as well, and its negation to the opposite. An item without a value that stops the
disjunction stops both memberships, unless the subject is a truth value: a membership refuses one
before it looks at the elements. -/
theorem holds_member_of_equalsAny (config : Config) (f g : Formula) (gs : List Formula) :
    (∀ b, (equalsAny f g gs).holds config = .ok b →
      (member f false (g :: gs)).holds config = .ok b ∧
        (member f true (g :: gs)).holds config = .ok (!b)) ∧
      ∀ path position, (equalsAny f g gs).holds config = .error (.unresolved path position) →
        (∀ c, f.value config ≠ .ok (.bool c)) → ∀ negated,
          (member f negated (g :: gs)).holds config = .error (.unresolved path position) := by
  rw [holds_equalsAny]
  simp only [holds_member]
  constructor
  · intro b h
    have hbool : ∀ c, f.value config ≠ .ok (.bool c) := fun c hc => relatesAny_bool hc h
    have hmember := isMember_eq_relatesAny hbool fun m hm => nomatch h.symm.trans hm
    rw [hmember, h]
    exact ⟨congrArg Except.ok (Bool.bne_false b), congrArg Except.ok (Bool.bne_true b)⟩
  · intro path position h hbool negated
    have hmember := isMember_eq_relatesAny hbool fun m hm => nomatch h.symm.trans hm
    rw [hmember, h]
    rfl

/-- A level and a limit that it has reached. -/
def reached : Config := [("level", (Scalar.int 3).toJson), ("limit", (Scalar.int 3).toJson)]

/-- The level is found behind another number, and in front of an item that is missing it is not. -/
theorem holds_member_of_equalsAny_reached :
    let level := item ⟨"level"⟩ 0
    ((equalsAny level (number (.int 1) 11) [item ⟨"limit"⟩ 14]).holds reached = .ok true ∧
      (member level true [number (.int 1) 11, item ⟨"limit"⟩ 14]).holds reached = .ok false) ∧
      (equalsAny level (number (.int 1) 11) [item ⟨"mode"⟩ 14]).holds reached =
          .error (.unresolved ⟨"mode"⟩ 14) ∧
        (member level false [number (.int 1) 11, item ⟨"mode"⟩ 14]).holds reached =
          .error (.unresolved ⟨"mode"⟩ 14) := by
  intro level
  have hvalue : level.value reached = .ok (.int 3) := rfl
  have hfound : (equalsAny level (number (.int 1) 11) [item ⟨"limit"⟩ 14]).holds reached =
      .ok true := rfl
  have hmissing : (equalsAny level (number (.int 1) 11) [item ⟨"mode"⟩ 14]).holds reached =
      .error (.unresolved ⟨"mode"⟩ 14) := rfl
  have hno : ∀ c, level.value reached ≠ .ok (.bool c) := fun c hc => nomatch hvalue.symm.trans hc
  exact ⟨⟨hfound, ((holds_member_of_equalsAny reached level _ _).1 true hfound).2⟩, hmissing,
    (holds_member_of_equalsAny reached level _ _).2 _ _ hmissing hno false⟩

end Condition.Formula

end ConfigRules
