import ConfigRules.Proofs.Interval.Reading
import ConfigRules.Proofs.Rank

/-!
Intervals of integers, from their texts to their members. A text with any white space around its
tokens describes the interval of the integers between its ends, or no interval where there are none
to bound it or they are not in order.
-/

namespace ConfigRules

variable {low high : Option Int64} {isOpen lowOpen highOpen : Bool} {lower upper : Endpoint}

/-- The endpoint at an integer, if there is one. -/
def Endpoint.ofInt (n : Option Int64) (isOpen : Bool) : Endpoint := ⟨n.map .int, isOpen⟩

namespace Endpoint

theorem ofInt_pointed (n : Option Int64) (isOpen : Bool) : (ofInt n isOpen).Pointed := by
  intro number hn
  obtain ⟨a, _, rfl⟩ := Option.map_eq_some_iff.mp hn
  exact nofun

theorem kind_ofInt {n : Option Int64} (v : Int64) :
    ∀ b ∈ (ofInt n isOpen).number, (Number.int v).kind = b.kind := by
  intro b hb
  obtain ⟨a, _, rfl⟩ := Option.map_eq_some_iff.mp hb
  rfl

theorem ofInt_admitsAbove (n : Option Int64) (isOpen : Bool) (v : Int64) :
    (ofInt n isOpen).admitsAbove (.int v) = true ↔
      ∀ a ∈ n, if isOpen then a < v else a ≤ v := by
  rw [admitsAbove_iff (kind_ofInt v) rfl]
  cases n with
  | none => simp [ofInt]
  | some a =>
    cases isOpen <;> simp [ofInt, Number.rank?, Int64.lt_iff_toInt_lt, Int64.le_iff_toInt_le]

theorem ofInt_admitsBelow (n : Option Int64) (isOpen : Bool) (v : Int64) :
    (ofInt n isOpen).admitsBelow (.int v) = true ↔
      ∀ b ∈ n, if isOpen then v < b else v ≤ b := by
  rw [admitsBelow_iff (kind_ofInt v) rfl]
  cases n with
  | none => simp [ofInt]
  | some a =>
    cases isOpen <;> simp [ofInt, Number.rank?, Int64.lt_iff_toInt_lt, Int64.le_iff_toInt_le]

end Endpoint

namespace Interval

theorem exists_between_iff : (∃ i, between lower upper = .ok i) ↔ defect? lower upper = none := by
  unfold between
  split
  · rename_i h
    exact ⟨fun _ => h, fun _ => ⟨_, rfl⟩⟩
  · rename_i h
    simp [h]

theorem between_error {e : IntervalError} (h : between lower upper = .error e) :
    ∃ defect, e = .invalid lower upper defect := by
  unfold between at h
  split at h
  · cases h
  · cases h
    exact ⟨_, rfl⟩

/-- Integers bound an interval if there is one at all, and two are in order. -/
theorem defect?_ofInt : defect? (.ofInt low lowOpen) (.ofInt high highOpen) = none ↔
    (low.isSome ∨ high.isSome) ∧ ∀ a ∈ low, ∀ b ∈ high, a < b := by
  have hnan : ∀ (n : Option Int64) (isOpen : Bool),
      ¬ ∃ number ∈ (Endpoint.ofInt n isOpen).number, number.IsNaN := by
    rintro n isOpen ⟨number, hn, hnan⟩
    obtain ⟨a, _, rfl⟩ := Option.map_eq_some_iff.mp hn
    cases hnan
  unfold defect?
  rw [if_neg (not_or.mpr ⟨hnan low lowOpen, hnan high highOpen⟩)]
  cases low with
  | none => cases high <;> simp [Endpoint.ofInt]
  | some a =>
    cases high with
    | none => simp [Endpoint.ofInt]
    | some b =>
      have hkinds : (Number.int a).kind = (Number.int b).kind := rfl
      have hcompare : (Number.int a).compare? (.int b) = some (compare a.toInt b.toInt) := rfl
      simp only [Endpoint.ofInt, Option.map_some, hkinds, ne_eq, not_true_eq_false, if_false,
        hcompare, Option.mem_some_iff, forall_eq', Int64.lt_iff_toInt_lt]
      cases h : compare a.toInt b.toInt with
      | lt => simp [Int.compare_eq_lt.mp h]
      | eq => simp [Int.compare_eq_eq.mp h]
      | gt =>
        have hba := Int.compare_eq_gt.mp h
        simp
        omega

/-- The text of an interval of integers, with white space around its tokens. -/
def paddedText (p : Padding) (low high : Option Int64) (lowOpen highOpen : Bool) : String :=
  String.ofList (p.around (if lowOpen then ']' else '[')
    ((low.map fun n => Numeral.ofInt n.toInt).getD "-inf".toList)
    ((high.map fun n => Numeral.ofInt n.toInt).getD "+inf".toList)
    (if highOpen then '[' else ']'))

theorem paddedText_eq (p : Padding) : paddedText p low high lowOpen highOpen =
    String.ofList (p.around (Endpoint.ofInt low lowOpen).leftBracket
      ((Endpoint.ofInt low lowOpen).boundChars "-inf".toList)
      ((Endpoint.ofInt high highOpen).boundChars "+inf".toList)
      (Endpoint.ofInt high highOpen).rightBracket) := by
  cases low <;> cases high <;> rfl

theorem parse_paddedText_eq (p : Padding) :
    parse (paddedText p low high lowOpen highOpen) =
      between (.ofInt low lowOpen) (.ofInt high highOpen) := by
  unfold parse
  rw [paddedText_eq, String.toList_ofList, readEndpoints_around p (Endpoint.ofInt_pointed _ _)
    (Endpoint.ofInt_pointed _ _)]

/-- Integers with any white space around them are read as the interval between them. There is one if
a side is bounded and two bounds are in order, and its definition is refused otherwise. It has these
ends, its text is the one without white space, and an integer lies in it if it lies between. -/
theorem parse_paddedText (p : Padding) (low high : Option Int64) (lowOpen highOpen : Bool) :
    ((∃ i, parse (paddedText p low high lowOpen highOpen) = .ok i) ↔
        (low.isSome ∨ high.isSome) ∧ ∀ a ∈ low, ∀ b ∈ high, a < b) ∧
      (∀ e, parse (paddedText p low high lowOpen highOpen) = .error e →
        ∃ defect, e = .invalid (.ofInt low lowOpen) (.ofInt high highOpen) defect) ∧
      ∀ i, parse (paddedText p low high lowOpen highOpen) = .ok i →
        i.lower = .ofInt low lowOpen ∧ i.upper = .ofInt high highOpen ∧
          i.text = paddedText .none low high lowOpen highOpen ∧
          ∀ v, i.contains (.int v) = true ↔
            (∀ a ∈ low, if lowOpen then a < v else a ≤ v) ∧
              ∀ b ∈ high, if highOpen then v < b else v ≤ b := by
  rw [parse_paddedText_eq]
  refine ⟨exists_between_iff.trans defect?_ofInt, fun e => between_error, ?_⟩
  intro i h
  obtain ⟨hl, hu⟩ := between_ok h
  refine ⟨hl, hu, ?_, fun v => ?_⟩
  · unfold text
    rw [hl, hu, charsOf_eq_around, paddedText_eq]
  · have hadmits : i.contains (.int v) =
        (i.lower.admitsAbove (.int v) && i.upper.admitsBelow (.int v)) := rfl
    rw [hadmits, hl, hu, Bool.and_eq_true, Endpoint.ofInt_admitsAbove, Endpoint.ofInt_admitsBelow]

/-- One character of white space. -/
def Blanks.one (c : Char) (h : Text.isBlank c = true) : Blanks :=
  ⟨[c], fun _ hd => List.mem_singleton.mp hd ▸ h⟩

/-- A tab in front of every token and a no-break space behind the last one. -/
def spread : Padding :=
  let tab : Blanks := .one '\t' rfl
  ⟨tab, tab, tab, tab, tab, .one '\u00a0' rfl⟩

/-- From above the least integer up to five. -/
theorem parse_paddedText_least :
    paddedText spread (some .minValue) (some 5) true false =
        "\t]\t-9223372036854775808\t,\t5\t]\u00a0" ∧
      ∃ i, parse "\t]\t-9223372036854775808\t,\t5\t]\u00a0" = .ok i ∧
        i.text = "]-9223372036854775808,5]" ∧ i.contains (.int .minValue) = false ∧
        i.contains (.int 5) = true := by
  have htext : paddedText spread (some .minValue) (some 5) true false =
      "\t]\t-9223372036854775808\t,\t5\t]\u00a0" := by decide
  obtain ⟨haccepted, -, hdescribed⟩ := parse_paddedText spread (some .minValue) (some 5) true false
  rw [htext] at haccepted hdescribed
  have hordered : ∀ a ∈ some Int64.minValue, ∀ b ∈ some (5 : Int64), a < b := by
    rintro a ⟨rfl⟩ b ⟨rfl⟩
    decide
  obtain ⟨i, hi⟩ := haccepted.mpr ⟨.inl rfl, hordered⟩
  obtain ⟨-, -, hcanonical, hcontains⟩ := hdescribed i hi
  refine ⟨htext, i, hi, hcanonical.trans (by decide), ?_, ?_⟩
  · rw [← Bool.not_eq_true, hcontains]
    exact fun h => absurd (h.1 _ rfl) (by decide)
  · rw [hcontains]
    constructor
    · rintro a ⟨rfl⟩
      decide
    · rintro b ⟨rfl⟩
      decide

end Interval

end ConfigRules
