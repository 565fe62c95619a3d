import ConfigRules.Proofs.Nulls
import ConfigRules.Proofs.Pass

/-!
Passes over equivalent configurations. What a rule looks at it sees through reads that take null for
missing, so it comes to the same on both; and its write keeps them equivalent.
-/

namespace ConfigRules

open Requirement (given?)

/-- Configurations whose objects have every key once, as in all that are read, and that are equal up
to null and the order of keys. -/
structure Config.Equivalent (c d : Config) : Prop where
  left : (Json.object c).WellFormed
  right : (Json.object d).WellFormed
  values : Json.Equivalent (.object c) (.object d)

theorem Config.Equivalent.get? {c d : Config} (h : c.Equivalent d) (p : Path) :
    Option.Rel Json.Equivalent (given? (p.get? c)) (given? (p.get? d)) :=
  h.values.get? h.left h.right (by simp) (by simp) p.segments

theorem Config.Equivalent.set {c d : Config} {v : Json} (h : c.Equivalent d) (hn : v ≠ .null)
    (hv : v.members = []) (p : Path) : Config.Equivalent (p.set v c) (p.set v d) := by
  have hw : v.WellFormed := .of_members hv
  refine ⟨?_, ?_, ?_⟩
  · rw [Path.object_set]
    exact h.left.set hw
  · rw [Path.object_set]
    exact h.right.set hw
  · rw [Path.object_set, Path.object_set]
    exact h.values.set h.left h.right hn hv p.segments

namespace Condition.Formula

variable {c d : Config} {p : Path}

theorem resolve_eq (c : Config) (p : Path) (position : Nat) : resolve c p position =
    match given? (p.get? c) with
    | none => .error (.unresolved p position)
    | some v =>
      match Scalar.ofJson? v with
      | some value => .ok value
      | none => .error (.mismatch (.notScalar p position)) := by
  unfold resolve
  cases p.get? c with
  | none => rfl
  | some v => cases v <;> rfl

theorem resolve_congr (h : Option.Rel Json.Equivalent (given? (p.get? c)) (given? (p.get? d))) :
    resolve c p = resolve d p := by
  funext position
  rw [resolve_eq, resolve_eq]
  generalize given? (p.get? c) = x, given? (p.get? d) = y at h ⊢
  cases h with
  | none => rfl
  | some hvw => simp only [hvw.ofJson?]

end Condition.Formula

namespace Requirement

theorem coerce_congr {k : Kind} {i j : Json} (h : i.Equivalent j) : coerce k i = coerce k j := by
  unfold coerce
  rw [h.ofJson?, h.shape]

theorem check_congr {r : Requirement} {item : String} {x y : Option Json}
    (h : Option.Rel Json.Equivalent (given? x) (given? y)) : r.check item x = r.check item y := by
  unfold check
  generalize given? x = x, given? y = y at h ⊢
  cases h with
  | none => rfl
  | some hvw => cases r.present <;> simp only [coerce_congr hvw]

end Requirement

namespace Rule

variable {r : Rule} {c d : Config}

theorem resolve_equivalent (h : c.Equivalent d) (r : Rule) : r.resolve c = r.resolve d := by
  have hselect : r.select c = r.select d :=
    select_of_resolveAlike fun p _ => Condition.Formula.resolve_congr (h.get? p)
  have hcheck : ∀ q : Requirement,
      q.check r.name (r.path.get? c) = q.check r.name (r.path.get? d) :=
    fun _ => Requirement.check_congr (h.get? r.path)
  unfold resolve checkSelected
  simp only [hselect, hcheck]

theorem written_ne_null (hr : r.Defined) {v : Json} (h : (r.resolve c).outcome = .written v) :
    v ≠ .null := by
  obtain ⟨selected, w, hselect, hw, rfl⟩ := resolve_written h
  have hadmits := Requirement.check_admits (hr.requirement (select_mem hselect)) hw
  exact Scalar.toJson_ne_null hadmits.finite

theorem apply_equivalent (hr : r.Defined) (h : c.Equivalent d) :
    Config.Equivalent (r.apply c) (r.apply d) := by
  have hsame : r.resolve c = r.resolve d := resolve_equivalent h r
  cases ho : (r.resolve c).outcome with
  | written v =>
    rw [apply_written ho, apply_written (hsame ▸ ho)]
    exact h.set (written_ne_null hr ho) (written_members ho) r.path
  | _ =>
    unfold apply
    rw [← hsame, ho]
    exact h

end Rule

theorem pass_equivalent {mode : Mode} {rules : List Rule} {c d : Config}
    (hr : ∀ r ∈ rules, r.Defined) (h : c.Equivalent d) :
    (pass mode rules c).1 = (pass mode rules d).1 ∧
      Config.Equivalent (pass mode rules c).2 (pass mode rules d).2 := by
  induction rules generalizing c d with
  | nil => exact ⟨rfl, h⟩
  | cons r rest ih =>
    obtain ⟨hdefined, hr⟩ := List.forall_mem_cons.mp hr
    have hsame : r.resolve c = r.resolve d := Rule.resolve_equivalent h r
    by_cases hstop : mode.StopsAt (r.resolve c)
    · rw [pass_stop hstop, pass_stop (hsame ▸ hstop), hsame]
      exact ⟨rfl, h⟩
    · obtain ⟨hreport, hconfig⟩ := ih hr (Rule.apply_equivalent hdefined h)
      rw [pass_go hstop, pass_go (hsame ▸ hstop), hsame, hreport]
      exact ⟨rfl, hconfig⟩

namespace Ruleset

variable {definitions : List (String × Json)} {s : Ruleset}

/-- A pass takes null for missing and does not see the order of keys: on equivalent configurations
it comes to the same report, and it leaves equivalent configurations. -/
theorem run_equivalent (hs : ofDefinitions definitions = .ok s) (mode : Mode) {c d : Config}
    (h : c.Equivalent d) : (s.run mode c).1 = (s.run mode d).1 ∧
      Config.Equivalent (s.run mode c).2 (s.run mode d).2 :=
  pass_equivalent (accepted hs).2.defined h

/-- A limit that is null, and a level among other members. -/
def nullLimit : Config :=
  [("limit", .null),
    ("app", .object [("unit", .string "m"), ("level", (Scalar.int 7).toJson)])]

/-- The same level in another place; the limit is missing. -/
def noLimit : Config :=
  [("app", .object [("level", (Scalar.int 7).toJson), ("unit", .string "m")])]

theorem run_equivalent_limitByLevel : ∃ s, ofDefinitions limitByLevel = .ok s ∧
    nullLimit.Equivalent noLimit ∧ (s.run .collectAll nullLimit).1.isSuccess = true ∧
      (s.run .collectAll nullLimit).1 = (s.run .collectAll noLimit).1 ∧
      Config.Equivalent (s.run .collectAll nullLimit).2 (s.run .collectAll noLimit).2 := by
  obtain ⟨s, hs, hsuccess⟩ : ∃ s, ofDefinitions limitByLevel = .ok s ∧
      (s.run .collectAll nullLimit).1.isSuccess = true := exists_ok (by decide +kernel)
  have hleaves : Json.null.WellFormed ∧ (Json.string "m").WellFormed ∧
      (Scalar.int 7).toJson.WellFormed := ⟨.of_members rfl, .of_members rfl, .of_members rfl⟩
  have hswap := Json.Reordered.swap (show "unit" ≠ "level" by decide) (.string "m")
    (Scalar.int 7).toJson [] []
  have hequivalent : nullLimit.Equivalent noLimit := by
    refine ⟨?_, ?_, ?_⟩
    · simpa [nullLimit, Json.WellFormed.object_iff] using hleaves
    · simpa [noLimit, Json.WellFormed.object_iff] using hleaves.2.symm
    · simpa [Json.Equivalent, nullLimit, noLimit, Json.withoutNulls, Json.membersWithoutNulls,
        Json.shape, Scalar.toJson] using (hswap.member "app" [] []).alike
  obtain ⟨hreport, hconfig⟩ := run_equivalent hs .collectAll hequivalent
  exact ⟨s, hs, hequivalent, hsuccess, hreport, hconfig⟩

end Ruleset

end ConfigRules
