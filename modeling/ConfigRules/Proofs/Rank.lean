import ConfigRules.Proofs.Binary64
import ConfigRules.Proofs.Scalar
import ConfigRules.Requirement.Basic

/-!
Ranks: the places of numbers in the order of their kind. They tell when values are equal and when a
number lies between the ends of an interval.
-/

namespace ConfigRules

namespace Binary64

theorem compare?_eq (x y : Binary64) :
    x.compare? y = x.rank?.bind fun a => y.rank?.map (compare a) := by
  unfold compare?
  cases x.rank? <;> cases y.rank? <;> rfl

variable {x y : Finite}

/-- Finite numbers of one value are the same, unless they are zeros. -/
theorem Finite.eq_or_zero (h : x.signedUnits = y.signedUnits) : x = y ∨ x.signedUnits = 0 := by
  have hunits : x.units = y.units := by rw [← x.natAbs_signedUnits, h, y.natAbs_signedUnits]
  obtain ⟨nx, u, fx⟩ := x
  obtain ⟨ny, _, fy⟩ := y
  obtain rfl := hunits
  by_cases hn : nx = ny
  · exact .inl (by rw [hn])
  · right
    have hsigns : ny = !nx := Bool.eq_not_of_ne fun he => hn he.symm
    subst hsigns
    unfold signedUnits at *
    dsimp only at *
    cases nx <;> simp only [Bool.not_true, Bool.not_false, if_true, Bool.false_eq_true, if_false]
      at h ⊢ <;> omega

theorem rank?_infinite (negative : Bool) : (infinite negative).rank? ≠ some y.signedUnits := by
  have hlt := y.fits.2
  have habs := y.natAbs_signedUnits
  intro h
  have hrank := Option.some.inj h
  split at hrank <;> omega

end Binary64

namespace Scalar

/-- Both are floats, and both are zero. -/
def BothZero : Scalar → Scalar → Prop
  | float x, float y => x.rank? = some 0 ∧ y.rank? = some 0
  | _, _ => False

variable {v w : Scalar}

theorem equal_float {x : Binary64} {y : Binary64.Finite} :
    (float x).equal (float (.finite y)) = true ↔
      x = .finite y ∨ BothZero (float x) (float (.finite y)) := by
  have hranks : (float x).equal (float (.finite y)) = true ↔ x.rank? = some y.signedUnits := by
    have hy : (Binary64.finite y).rank? = some y.signedUnits := rfl
    rw [equal, beq_iff_eq, Binary64.compare?_eq, hy]
    cases x.rank? <;> simp
  rw [hranks]
  constructor
  · intro h
    cases x with
    | finite x =>
      have hunits := Option.some.inj h
      obtain rfl | hzero := Binary64.Finite.eq_or_zero hunits
      · exact .inl rfl
      · exact .inr ⟨congrArg some hzero, congrArg some (hunits.symm.trans hzero)⟩
    | infinite negative => exact absurd h (Binary64.rank?_infinite negative)
    | nan => cases h
  · rintro (rfl | ⟨hx, hy⟩)
    · rfl
    · exact hx.trans hy.symm

/-- A finite value equals itself alone, but for the sign of a zero. -/
theorem equal_iff (hw : w.IsFinite) : v.equal w = true ↔ v = w ∨ BothZero v w := by
  cases v with
  | float x =>
    cases w with
    | float y =>
      cases y with
      | finite y => rw [equal_float, float.injEq]
      | _ => cases hw
    | _ => simp [equal, BothZero]
  | _ => cases w <;> simp [equal, BothZero]

end Scalar

namespace Number

/-- The place of a number in the order of its kind; a NaN has none. -/
def rank? : Number → Option Int
  | int n => some n.toInt
  | float x => x.rank?

theorem compare?_eq {a b : Number} (hk : a.kind = b.kind) :
    a.compare? b = a.rank?.bind fun l => b.rank?.map (compare l) := by
  cases a with
  | int a =>
    cases b with
    | int b => rfl
    | float b => cases hk
  | float a =>
    cases b with
    | int b => cases hk
    | float b => exact Binary64.compare?_eq a b

end Number

namespace Endpoint

variable {e : Endpoint} {n : Number} {m : Int} {side : Ordering}

/-- An endpoint admits the numbers on its side, and its own if it is closed. -/
theorem admits_iff (hside : side ≠ .eq) (hk : ∀ b ∈ e.number, n.kind = b.kind)
    (hn : n.rank? = some m) : e.admits side n = true ↔ ∀ b ∈ e.number, ∃ l, b.rank? = some l ∧
      (compare m l = side ∨ (e.isOpen = false ∧ m = l)) := by
  obtain ⟨number, isOpen⟩ := e
  cases number with
  | none => simp [admits]
  | some b =>
    simp only [admits, Option.mem_some_iff, forall_eq', Number.compare?_eq (hk b rfl), hn]
    cases b.rank? with
    | none => simp
    | some l =>
      cases h : compare m l with
      | eq => simp [Int.compare_eq_eq.mp h, hside.symm]
      | lt | gt =>
        have hne : m ≠ l := by
          rintro rfl
          simp at h
        simp [h, hne]

theorem admitsAbove_iff (hk : ∀ b ∈ e.number, n.kind = b.kind) (hn : n.rank? = some m) :
    e.admitsAbove n = true ↔
      ∀ b ∈ e.number, ∃ l, b.rank? = some l ∧ if e.isOpen then l < m else l ≤ m := by
  refine (admits_iff (by decide) hk hn).trans
    (forall₂_congr fun b _ => exists_congr fun l => and_congr_right fun _ => ?_)
  rw [Int.compare_eq_gt]
  cases e.isOpen with
  | false =>
    simp only [true_and, Bool.false_eq_true, if_false]
    omega
  | true => simp

theorem admitsBelow_iff (hk : ∀ b ∈ e.number, n.kind = b.kind) (hn : n.rank? = some m) :
    e.admitsBelow n = true ↔
      ∀ b ∈ e.number, ∃ u, b.rank? = some u ∧ if e.isOpen then m < u else m ≤ u := by
  refine (admits_iff (by decide) hk hn).trans
    (forall₂_congr fun b _ => exists_congr fun u => and_congr_right fun _ => ?_)
  rw [Int.compare_eq_lt]
  cases e.isOpen with
  | false =>
    simp only [true_and, Bool.false_eq_true, if_false]
    omega
  | true => simp

end Endpoint

namespace Interval

variable {i : Interval} {n : Number} {m : Int}

/-- A rank lies between the ends of an interval. -/
structure Surrounds (i : Interval) (m : Int) : Prop where
  lower : ∀ a ∈ i.lower.number, ∃ l, a.rank? = some l ∧ if i.lower.isOpen then l < m else l ≤ m
  upper : ∀ b ∈ i.upper.number, ∃ u, b.rank? = some u ∧ if i.upper.isOpen then m < u else m ≤ u

/-- Two bounds are of one kind and in order. -/
theorem bounds_ordered {a b : Number} (ha : i.lower.number = some a)
    (hb : i.upper.number = some b) :
    ¬ b.IsNaN ∧ a.kind = b.kind ∧ ∀ order ∈ a.compare? b, order = .lt := by
  have hvalid := i.valid
  unfold defect? at hvalid
  rw [ha, hb] at hvalid
  split at hvalid
  · cases hvalid
  · rename_i hnan
    dsimp only at hvalid
    split at hvalid
    · cases hvalid
    · rename_i hkind
      refine ⟨fun h => hnan (.inr ⟨b, rfl, h⟩), Decidable.not_not.mp hkind, fun order horder => ?_⟩
      rw [horder] at hvalid
      cases order with
      | lt => rfl
      | eq => cases hvalid
      | gt => cases hvalid

theorem kind_of_lower {a : Number} (ha : i.lower.number = some a) : a.kind = i.kind := by
  unfold kind
  rw [ha]
  rfl

theorem kind_of_upper {b : Number} (hb : i.upper.number = some b) : b.kind = i.kind := by
  cases ha : i.lower.number with
  | none =>
    unfold kind
    rw [ha, hb]
    rfl
  | some a => rw [← kind_of_lower ha, (bounds_ordered ha hb).2.1]

/-- A number lies in an interval of its kind if it lies between the ends. -/
theorem contains_iff (hk : n.kind = i.kind) (hn : n.rank? = some m) :
    i.contains n.toScalar = true ↔ i.Surrounds m := by
  have hself : Number.ofScalar? n.toScalar = some n := by cases n <;> rfl
  unfold contains admits
  rw [hself, Option.any_some, Bool.and_eq_true,
    Endpoint.admitsAbove_iff (fun a ha => hk.trans (kind_of_lower ha).symm) hn,
    Endpoint.admitsBelow_iff (fun b hb => hk.trans (kind_of_upper hb).symm) hn]
  exact ⟨fun ⟨hl, hu⟩ => ⟨hl, hu⟩, fun ⟨hl, hu⟩ => ⟨hl, hu⟩⟩

/-- What lies in an interval and is finite has a rank. -/
theorem exists_rank {v : Scalar} (hf : v.IsFinite) (h : i.contains v = true) :
    ∃ n m, v = Number.toScalar n ∧ n.rank? = some m := by
  cases v with
  | int n => exact ⟨.int n, _, rfl, rfl⟩
  | float x =>
    cases x with
    | finite x => exact ⟨.float (.finite x), _, rfl, rfl⟩
    | _ => cases hf
  | _ => cases h

end Interval

end ConfigRules
