import ConfigRules.Condition.Evaluation
import ConfigRules.Proofs.Except

/-!
Formulas without the places in their sources. Places come up in messages only: what a formula shows
and whether it holds are the same without them.
-/

namespace ConfigRules.Condition.Formula

mutual

/-- A formula with all its places forgotten. -/
def unplaced : Formula → Formula
  | truth b => truth b
  | number n _ => number n 0
  | text s _ => text s 0
  | item path _ => item path 0
  | not f => not f.unplaced
  | and f g => and f.unplaced g.unplaced
  | or f g => or f.unplaced g.unplaced
  | compare r f g => compare r f.unplaced g.unplaced
  | member f negated elements => member f.unplaced negated (unplacedAll elements)

def unplacedAll : List Formula → List Formula
  | [] => []
  | f :: fs => f.unplaced :: unplacedAll fs

end

mutual

theorem unplaced_displayOnto (rest : List Char) :
    (f : Formula) → f.unplaced.displayOnto rest = f.displayOnto rest
  | truth _ | number _ _ | text _ _ | item _ _ => rfl
  | not f => by simp only [unplaced, displayOnto, unplaced_displayOnto _ f]
  | and f g | or f g | compare _ f g => by
    simp only [unplaced, displayOnto, unplaced_displayOnto _ f, unplaced_displayOnto _ g]
  | member f _ elements => by
    simp only [unplaced, displayOnto, unplaced_displayOnto _ f, unplaced_listOnto _ elements]

theorem unplaced_listOnto (rest : List Char) :
    (fs : List Formula) → listOnto rest (unplacedAll fs) = listOnto rest fs
  | [] => rfl
  | [f] => unplaced_displayOnto rest f
  | f :: g :: fs => by
    have htail := unplaced_listOnto rest (g :: fs)
    simp only [unplacedAll] at htail
    simp only [unplacedAll, listOnto, unplaced_displayOnto _ f, htail]

end

variable {c : Config} {b : Bool}

theorem resolve_place {path : Path} {v : Scalar} (p q : Nat) :
    resolve c path p = .ok v ↔ resolve c path q = .ok v := by
  unfold resolve
  split
  · simp
  · simp
  · split <;> simp

theorem unplaced_value (f : Formula) (v : Scalar) :
    f.unplaced.value c = .ok v ↔ f.value c = .ok v := by
  cases f with
  | item path position => exact resolve_place 0 position
  | _ => simp [unplaced, value]

theorem unplaced_relates (r : Relation) (f g : Formula) :
    relates c r f.unplaced g.unplaced = .ok b ↔ relates c r f g = .ok b := by
  refine bind_ok_congr (unplaced_value f) fun left => ?_
  refine bind_ok_congr (unplaced_value g) fun right => ?_
  split
  · simp
  · split <;> simp

theorem unplaced_anyEqual (subject : Scalar) (fs : List Formula) :
    anyEqual c subject (unplacedAll fs) = .ok b ↔ anyEqual c subject fs = .ok b := by
  induction fs with
  | nil => rfl
  | cons f fs ih =>
    refine bind_ok_congr (unplaced_value f) fun element => ?_
    cases element.convertTo? subject.kind with
    | none => simp
    | some converted =>
      dsimp only
      split
      · rfl
      · exact ih

theorem unplaced_isMember (f : Formula) (fs : List Formula) :
    isMember c f.unplaced (unplacedAll fs) = .ok b ↔ isMember c f fs = .ok b := by
  refine bind_ok_congr (unplaced_value f) fun subject => ?_
  cases subject.kind with
  | int | float | str => exact unplaced_anyEqual subject fs
  | bool | type => simp

theorem unplaced_holds {b : Bool} :
    (f : Formula) → (f.unplaced.holds c = .ok b ↔ f.holds c = .ok b)
  | truth _ => Iff.rfl
  | number _ _ | text _ _ => by simp [unplaced, holds]
  | item path position => bind_ok_congr (fun _ => resolve_place 0 position) fun v => by
    cases v <;> simp
  | not f => bind_ok_congr (fun _ => unplaced_holds f) fun _ => Iff.rfl
  | and f g => bind_ok_congr (fun _ => unplaced_holds f) fun first => by
    cases first with
    | true => exact unplaced_holds g
    | false => rfl
  | or f g => bind_ok_congr (fun _ => unplaced_holds f) fun first => by
    cases first with
    | true => rfl
    | false => exact unplaced_holds g
  | compare r f g => unplaced_relates r f g
  | member f _ fs => bind_ok_congr (fun _ => unplaced_isMember f fs) fun _ => Iff.rfl

end ConfigRules.Condition.Formula
