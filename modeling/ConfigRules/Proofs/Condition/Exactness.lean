import Mathlib.Data.List.Forall2
import ConfigRules.Proofs.Binary64
import ConfigRules.Condition.Basic
import ConfigRules.Proofs.Condition.Membership

/-!
Memberships of integers among floats. A float counts as an integer if it is one of 64 bits, and it
then equals that one alone. The exception is `2 ^ 63`, which is just past the greatest integer and
counts as that.
-/

namespace ConfigRules

open Binary64 (Finite)

namespace Scalar

variable {x : Finite} {n : Int64}

/-- A float that is an integer of 64 bits converts to it. -/
theorem convertTo?_of_equals (h : x.Equals n.toInt) :
    (float (.finite x)).convertTo? .int = some (int n) := by
  have hl := n.le_toInt
  have hu := n.toInt_lt
  have hmin : min n.toInt (2 ^ 63 - 1) = n.toInt := by omega
  simp only [convertTo?, h.truncate_eq, hmin, Int64.ofInt_toInt]
  exact if_pos ⟨h.isWhole, hl, Int.le_of_lt hu⟩

/-- The float just past the greatest integer converts to that. -/
theorem convertTo?_of_equals_limit (h : x.Equals (2 ^ 63)) :
    (float (.finite x)).convertTo? .int = some (int .maxValue) := by
  simp only [convertTo?, h.truncate_eq]
  exact if_pos ⟨h.isWhole, by decide, by decide⟩

/-- No other float converts to an integer. -/
theorem convertTo?_eq_none (hn : ∀ n : Int64, ¬ x.Equals n.toInt) (hl : ¬ x.Equals (2 ^ 63)) :
    (float (.finite x)).convertTo? .int = none := by
  unfold convertTo?
  refine if_neg ?_
  rintro ⟨hwhole, hlow, hhigh⟩
  have hequals := hwhole.equals
  rcases Int.lt_or_eq_of_le hhigh with hlt | heq
  · exact hn (.ofInt x.truncate) (by rwa [Int64.toInt_ofInt_of_le hlow hlt])
  · exact hl (heq ▸ hequals)

end Scalar

namespace Condition.Formula

/-- What a membership of an integer among floats comes to is exact. It holds only for an integer
that is one of them and fails only where all of them are other integers; and the first one that is
no integer of 64 bits, with other integers in front of it, is refused. -/
structure Exact (i : Int64) (xs : List Finite) (result : Except Fault Bool) : Prop where
  found : result = .ok true → ∃ x ∈ xs, x.Equals i.toInt
  missed : result = .ok false → ∀ x ∈ xs, ∃ n : Int64, n ≠ i ∧ x.Equals n.toInt
  refused : ∀ front x rest, xs = front ++ x :: rest →
    (∀ y ∈ front, ∃ n : Int64, n ≠ i ∧ y.Equals n.toInt) → (∀ n : Int64, ¬ x.Equals n.toInt) →
      ∃ position, result = .error (.mismatch (.inconvertible (.float (.finite x)) .int position))

/-- Behind other integers there is the float just past the greatest one. -/
def MeetsLimit (i : Int64) (xs : List Finite) : Prop :=
  ∃ front x rest, xs = front ++ x :: rest ∧
    (∀ y ∈ front, ∃ n : Int64, n ≠ i ∧ y.Equals n.toInt) ∧ x.Equals (2 ^ 63)

variable {config : Config} {f g : Formula} {gs : List Formula} {i n : Int64} {x : Finite}
  {xs : List Finite}

/-- The elements of a list are floats. -/
abbrev Floats (config : Config) : List Formula → List Finite → Prop :=
  List.Forall₂ fun g x => g.value config = .ok (.float (.finite x))

/-- One float of a list is looked at. -/
theorem anyEqual_float (h : g.value config = .ok (.float (.finite x))) :
    anyEqual config (.int i) (g :: gs) =
      match (Scalar.float (.finite x)).convertTo? .int with
      | none => .error (.mismatch (.inconvertible (.float (.finite x)) .int g.place))
      | some v => if v.equal (.int i) then .ok true else anyEqual config (.int i) gs := by
  rw [anyEqual, h]
  rfl

theorem anyEqual_integer (hg : g.value config = .ok (.float (.finite x))) (hx : x.Equals n.toInt) :
    anyEqual config (.int i) (g :: gs) =
      if n = i then .ok true else anyEqual config (.int i) gs := by
  rw [anyEqual_float hg, Scalar.convertTo?_of_equals hx]
  simp [Scalar.equal]

theorem anyEqual_limit (hg : g.value config = .ok (.float (.finite x))) (hx : x.Equals (2 ^ 63)) :
    anyEqual config (.int i) (g :: gs) =
      if .maxValue = i then .ok true else anyEqual config (.int i) gs := by
  rw [anyEqual_float hg, Scalar.convertTo?_of_equals_limit hx]
  simp [Scalar.equal]

theorem anyEqual_refused (hg : g.value config = .ok (.float (.finite x)))
    (hn : ∀ n : Int64, ¬ x.Equals n.toInt) (hl : ¬ x.Equals (2 ^ 63)) :
    anyEqual config (.int i) (g :: gs) =
      .error (.mismatch (.inconvertible (.float (.finite x)) .int g.place)) := by
  rw [anyEqual_float hg, Scalar.convertTo?_eq_none hn hl]

theorem Exact.nil : Exact i [] (.ok false) := by
  refine ⟨nofun, fun _ _ hx => absurd hx List.not_mem_nil, ?_⟩
  intro front x rest h
  cases front <;> cases h

theorem Exact.here (hx : x.Equals i.toInt) : Exact i (x :: xs) (.ok true) := by
  refine ⟨fun _ => ⟨x, List.mem_cons_self, hx⟩, nofun, ?_⟩
  intro front y rest h hfront hy
  cases front with
  | nil =>
    cases h
    exact absurd hx (hy i)
  | cons z front =>
    cases h
    obtain ⟨n, hn, hxn⟩ := hfront x List.mem_cons_self
    exact absurd (Int64.toInt_inj.mp (hxn.unique hx)) hn

theorem Exact.later {result : Except Fault Bool} (hn : n ≠ i) (hx : x.Equals n.toInt)
    (h : Exact i xs result) : Exact i (x :: xs) result := by
  refine ⟨?_, ?_, ?_⟩
  · intro hr
    obtain ⟨y, hy, hyi⟩ := h.found hr
    exact ⟨y, List.mem_cons_of_mem _ hy, hyi⟩
  · intro hr y hy
    rcases List.mem_cons.mp hy with rfl | hy
    · exact ⟨n, hn, hx⟩
    · exact h.missed hr y hy
  · intro front y rest hsplit hfront hy
    cases front with
    | nil =>
      cases hsplit
      exact absurd hx (hy n)
    | cons z front =>
      cases hsplit
      exact h.refused front y rest rfl (fun w hw => hfront w (List.mem_cons_of_mem _ hw)) hy

theorem Exact.refuse (hx : ∀ n : Int64, ¬ x.Equals n.toInt) (position : Nat) :
    Exact i (x :: xs) (.error (.mismatch (.inconvertible (.float (.finite x)) .int position))) := by
  refine ⟨nofun, nofun, ?_⟩
  intro front y rest hsplit hfront hy
  cases front with
  | nil =>
    cases hsplit
    exact ⟨position, rfl⟩
  | cons z front =>
    cases hsplit
    obtain ⟨n, _, hxn⟩ := hfront x List.mem_cons_self
    exact absurd hxn (hx n)

theorem MeetsLimit.here (hx : x.Equals (2 ^ 63)) : MeetsLimit i (x :: xs) :=
  ⟨[], x, xs, rfl, fun _ hy => absurd hy List.not_mem_nil, hx⟩

theorem MeetsLimit.later (hn : n ≠ i) (hx : x.Equals n.toInt) (h : MeetsLimit i xs) :
    MeetsLimit i (x :: xs) := by
  obtain ⟨front, y, rest, rfl, hfront, hy⟩ := h
  refine ⟨x :: front, y, rest, rfl, ?_, hy⟩
  intro z hz
  rcases List.mem_cons.mp hz with rfl | hz
  · exact ⟨n, hn, hx⟩
  · exact hfront z hz

/-- Every float up to the deciding one is as it should be unless the limit is met. -/
theorem exact_of_not_meetsLimit (hgs : Floats config gs xs) (h : ¬ MeetsLimit i xs) :
    Exact i xs (anyEqual config (.int i) gs) := by
  induction hgs with
  | nil => exact .nil
  | @cons g x gs xs hg _ ih =>
    have hlimit : ¬ x.Equals (2 ^ 63) := fun hx => h (.here hx)
    by_cases hinteger : ∃ n : Int64, x.Equals n.toInt
    · obtain ⟨n, hx⟩ := hinteger
      rw [anyEqual_integer hg hx]
      by_cases hn : n = i
      · rw [if_pos hn]
        exact .here (hn ▸ hx)
      · rw [if_neg hn]
        exact .later hn hx (ih fun hmeets => h (.later hn hx hmeets))
    · have hnone : ∀ n : Int64, ¬ x.Equals n.toInt := not_exists.mp hinteger
      rw [anyEqual_refused hg hnone hlimit]
      exact .refuse hnone _

/-- The limit is never refused. -/
theorem not_limit_of_refused {position : Nat} (hgs : Floats config gs xs)
    (h : anyEqual config (.int i) gs =
      .error (.mismatch (.inconvertible (.float (.finite x)) .int position))) :
    ¬ x.Equals (2 ^ 63) := by
  induction hgs with
  | nil => cases h
  | @cons g y gs ys hg _ ih =>
    by_cases hlimit : y.Equals (2 ^ 63)
    · rw [anyEqual_limit hg hlimit] at h
      split at h
      · cases h
      · exact ih h
    · by_cases hinteger : ∃ n : Int64, y.Equals n.toInt
      · obtain ⟨n, hy⟩ := hinteger
        rw [anyEqual_integer hg hy] at h
        split at h
        · cases h
        · exact ih h
      · rw [anyEqual_refused hg (not_exists.mp hinteger) hlimit] at h
        cases h
        exact hlimit

theorem holds_member_false : (member f false gs).holds config = isMember config f gs := by
  rw [holds_member]
  cases isMember config f gs with
  | error e => rfl
  | ok b => exact congrArg Except.ok (Bool.bne_false b)

/-- A membership of an integer among floats is exact unless it gets to the float just past the
greatest integer: that one counts as the greatest integer, while it is none. -/
theorem member_exact_iff (hf : f.value config = .ok (.int i)) (hgs : Floats config gs xs) :
    Exact i xs ((member f false gs).holds config) ↔ ¬ MeetsLimit i xs := by
  rw [holds_member_false, isMember_ok hf trivial]
  refine ⟨?_, exact_of_not_meetsLimit hgs⟩
  rintro hexact ⟨front, x, rest, rfl, hfront, hx⟩
  have hnone : ∀ n : Int64, ¬ x.Equals n.toInt := by
    intro n hn
    have hlt := n.toInt_lt
    have hsame := hn.unique hx
    omega
  obtain ⟨position, hrefused⟩ := hexact.refused front x rest rfl hfront hnone
  exact not_limit_of_refused hgs hrefused hx

theorem fits_two : Binary64.Fits (2 * Binary64.unitsPerOne) := by decide +kernel

theorem fits_limit : Binary64.Fits (2 ^ 63 * Binary64.unitsPerOne) := by decide +kernel

def two : Finite := ⟨false, 2 * Binary64.unitsPerOne, fits_two⟩

/-- The float just past the greatest integer. -/
def limit : Finite := ⟨false, 2 ^ 63 * Binary64.unitsPerOne, fits_limit⟩

theorem two_equals : two.Equals 2 := by decide +kernel

theorem limit_equals : limit.Equals (2 ^ 63) := by decide +kernel

/-- Two is found in front of the float past the greatest integer, which it does not get to. -/
theorem member_exact_two :
    let elements := [number (.float (.finite two)) 6, number (.float (.finite limit)) 10]
    ((number (.int 2) 0).value [] = .ok (.int 2) ∧ Floats [] elements [two, limit]) ∧
      Exact 2 [two, limit] ((member (number (.int 2) 0) false elements).holds []) := by
  intro elements
  have hf : (number (.int 2) 0).value [] = .ok (.int 2) := rfl
  have helements : Floats [] elements [two, limit] := .cons rfl (.cons rfl .nil)
  refine ⟨⟨hf, helements⟩, (member_exact_iff hf helements).mpr ?_⟩
  rintro ⟨front, x, rest, hsplit, hfront, hx⟩
  cases front with
  | nil =>
    cases hsplit
    exact absurd (hx.unique two_equals) (by decide)
  | cons y front =>
    obtain ⟨rfl, -⟩ := List.cons.inj hsplit
    obtain ⟨n, hn, htwo⟩ := hfront two List.mem_cons_self
    exact hn (Int64.toInt_inj.mp (htwo.unique two_equals))

/-- The greatest integer is found where only the float just past it is. -/
theorem member_inexact_limit :
    (∃ x, Condition.parse "9223372036854775807 in (9223372036854775808.)" = .ok x ∧
        (x.holds []).toOption = some true) ∧
      Number.atFront? "9223372036854775808.".toList = some (.float (.finite limit), 20) ∧
      ¬ Exact .maxValue [limit] ((member (number (.int .maxValue) 0) false
        [number (.float (.finite limit)) 24]).holds []) := by
  refine ⟨exists_ok (by decide +kernel), by decide +kernel, ?_⟩
  rw [holds_member_false, isMember_ok (v := .int .maxValue) rfl trivial,
    anyEqual_limit rfl limit_equals]
  intro hexact
  obtain ⟨x, hx, hmax⟩ := hexact.found (if_pos rfl)
  rw [List.mem_singleton.mp hx] at hmax
  exact absurd (hmax.unique limit_equals) (by decide)

end Condition.Formula

end ConfigRules
