import ConfigRules.Proofs.NumeralPattern

/-!
How far a number goes at the front of a text. No numeral there is longer than the one that is found,
and what is read of it is the integer that it stands for, or a float if it has a point.
-/

namespace ConfigRules

namespace Numeral

/-- A numeral at the front of a text, where no other one is longer. -/
structure IsLongest (cs numeral : List Char) : Prop where
  begins : numeral <+: cs
  pattern : IsNumeral numeral
  length_le : ∀ other, other <+: cs → IsNumeral other → other.length ≤ numeral.length

/-- The number that digits stand for: each counts with a power of ten, by how many follow it. -/
def decimal : List Char → Nat
  | [] => 0
  | c :: cs => (c.toNat - '0'.toNat) * 10 ^ cs.length + decimal cs

/-- The integer that an optional sign and digits stand for. -/
def integer : List Char → Int
  | '+' :: digits => decimal digits
  | '-' :: digits => -decimal digits
  | digits => decimal digits

variable {cs digits tail exponent fraction numeral sign : List Char}

theorem value_eq_decimal (digits : List Char) : value digits = decimal digits := by
  have hfold : ∀ n, digits.foldl (fun n c => 10 * n + (c.toNat - '0'.toNat)) n =
      n * 10 ^ digits.length + decimal digits := by
    induction digits with
    | nil => simp [decimal]
    | cons c cs ih =>
      intro n
      rw [List.foldl_cons, ih, decimal, List.length_cons, Nat.pow_succ, Nat.add_mul, Nat.add_assoc,
        Nat.mul_comm 10 n, Nat.mul_assoc, Nat.mul_comm 10]
  unfold value
  rw [hfold, Nat.zero_mul, Nat.zero_add]

theorem applySign_eq_integer (hsign : sign ∈ [[], ['+'], ['-']])
    (hdigits : ∀ c ∈ digits, c.isDigit = true) :
    applySign sign (value digits) = integer (sign ++ digits) := by
  rw [value_eq_decimal]
  simp only [List.mem_cons, List.not_mem_nil, or_false] at hsign
  rcases hsign with rfl | rfl | rfl
  · -- a digit is no sign
    cases digits with
    | nil => rfl
    | cons c cs =>
      have hc := hdigits c List.mem_cons_self
      rw [List.nil_append, integer]
      · rfl
      · rintro ds ⟨⟩
        cases hc
      · rintro ds ⟨⟩
        cases hc
  · rfl
  · rfl

/-- Digits are split off together with those that follow them. -/
theorem splitDigits_append_fst (hdigits : ∀ c ∈ digits, c.isDigit = true) (rest : List Char) :
    (splitDigits (digits ++ rest)).1 = digits ++ rest.takeWhile Char.isDigit := by
  unfold splitDigits
  rw [List.span_eq_takeWhile_dropWhile, List.takeWhile_append_of_pos hdigits]

/-- Digits and what follows them are no longer than what is found there: either nothing follows, or
it begins with no digit and what is found in its place is as long. -/
theorem length_le_splitDigits {part : List Char → List Char}
    (hdigits : ∀ c ∈ digits, c.isDigit = true)
    (htail : tail = [] ∨ (∀ c ∈ tail.head?, c.isDigit = false) ∧
      ∀ rest, tail.length ≤ (part (tail ++ rest)).length) (rest : List Char) :
    digits.length + tail.length ≤ (splitDigits (digits ++ (tail ++ rest))).1.length +
      (part (splitDigits (digits ++ (tail ++ rest))).2).length := by
  by_cases hnil : tail = []
  · rw [splitDigits_append_fst hdigits, hnil, List.length_append, List.length_nil]
    omega
  · obtain ⟨hends, hpart⟩ := htail.resolve_left hnil
    have hhead : ∀ c ∈ (tail ++ rest).head?, c.isDigit = false := by
      obtain ⟨c, cs, rfl⟩ := List.exists_cons_of_ne_nil hnil
      exact hends
    rw [splitDigits_of_digits hdigits hhead]
    exact Nat.add_le_add_left (hpart rest) _

theorem IsExponent.length_le (h : IsExponent exponent) (rest : List Char) :
    exponent.length ≤ (Numeral.exponentPart (exponent ++ rest)).length := by
  cases h with
  | @parts mark sign digits hmark hsign hne hdigits =>
    rw [List.cons_append, List.append_assoc, Numeral.exponentPart,
      splitSign_append_digits hsign hne hdigits]
    dsimp only
    rw [splitDigits_append_fst hdigits, if_pos (by simp [hmark, hne])]
    simp only [List.cons_append, List.length_cons, List.length_append]
    omega

theorem IsFraction.length_le (h : IsFraction fraction) (rest : List Char) :
    fraction.length ≤ (Numeral.fractionPart (fraction ++ rest)).length := by
  cases h with
  | @parts digits exponent hdigits hexponent =>
    have htail := hexponent.imp_right fun h => And.intro h.head? h.length_le
    have hlonger := length_le_splitDigits hdigits htail rest
    rw [List.cons_append, List.append_assoc, Numeral.fractionPart]
    simp only [List.cons_append, List.length_cons, List.length_append]
    omega

/-- A numeral is no longer than the one that is found where it begins. -/
theorem IsNumeral.length_le (h : IsNumeral numeral) (rest : List Char) :
    ∃ found, Numeral.longest? (numeral ++ rest) = some found ∧ numeral.length ≤ found.length := by
  cases h with
  | @parts sign digits fraction hsign hne hdigits hfraction =>
    have htail := hfraction.imp_right fun h => And.intro h.head? h.length_le
    have hlonger := length_le_splitDigits hdigits htail rest
    have hsplit : (splitDigits (digits ++ (fraction ++ rest))).1.isEmpty = false := by
      simp [splitDigits_append_fst hdigits, hne]
    rw [List.append_assoc, List.append_assoc, Numeral.longest?,
      splitSign_append_digits hsign hne hdigits]
    simp only [hsplit, Bool.false_eq_true, if_false]
    refine ⟨_, rfl, ?_⟩
    simp only [List.length_append]
    omega

theorem longest?_eq_some_iff : longest? cs = some numeral ↔ IsLongest cs numeral := by
  constructor
  · intro h
    have hbegins := longest?_prefix h
    refine ⟨hbegins, longest?_pattern h, ?_⟩
    rintro other ⟨rest, rfl⟩ hother
    obtain ⟨found, hfound, hle⟩ := hother.length_le rest
    cases h.symm.trans hfound
    exact hle
  · intro h
    obtain ⟨rest, rfl⟩ := h.begins
    obtain ⟨found, hfound, hle⟩ := h.pattern.length_le rest
    have hbegins := longest?_prefix hfound
    have hge := h.length_le found hbegins (longest?_pattern hfound)
    have hsame : found = numeral :=
      (List.prefix_of_prefix_length_le hbegins h.begins hge).eq_of_length (by omega)
    rw [hfound, hsame]

theorem longest?_eq_none_iff :
    longest? cs = none ↔ ∀ numeral, numeral <+: cs → ¬ IsNumeral numeral := by
  constructor
  · rintro h _ ⟨rest, rfl⟩ hnumeral
    obtain ⟨found, hfound, -⟩ := hnumeral.length_le rest
    cases h.symm.trans hfound
  · intro h
    refine Option.eq_none_iff_forall_ne_some.mpr fun numeral hfound => ?_
    have hbegins := longest?_prefix hfound
    exact h numeral hbegins (longest?_pattern hfound)

theorem IsExponent.readExponent? (h : IsExponent exponent) :
    ∃ power, Numeral.readExponent? exponent = some power := by
  cases h with
  | @parts mark sign digits hmark hsign hne hdigits =>
    have hsplit := splitSign_append_digits hsign hne hdigits []
    have hall : digits.all Char.isDigit = true := List.all_eq_true.mpr hdigits
    rw [List.append_nil] at hsplit
    unfold Numeral.readExponent?
    simp [hsplit, hmark, hne, hall]

theorem IsFraction.readExponent? (h : IsFraction fraction) :
    ∃ power, Numeral.readExponent? (splitFraction fraction).2 = some power := by
  cases h with
  | @parts digits exponent hdigits hexponent =>
    have hends := head?_part hexponent IsExponent.head?
    have hsplit : splitFraction ('.' :: (digits ++ exponent)) = (digits, exponent) :=
      splitDigits_of_digits hdigits hends
    rw [hsplit]
    rcases hexponent with rfl | hexponent
    · exact ⟨0, rfl⟩
    · exact hexponent.readExponent?

theorem readMagnitude?_append (hne : digits ≠ []) (hdigits : ∀ c ∈ digits, c.isDigit = true)
    (hfraction : fraction = [] ∨ IsFraction fraction) (negative : Bool) :
    ∃ x, readMagnitude? negative (digits ++ fraction) = some x := by
  have hends := head?_part hfraction IsFraction.head?
  obtain ⟨power, hpower⟩ :
      ∃ power, Numeral.readExponent? (splitFraction fraction).2 = some power := by
    rcases hfraction with rfl | hfraction
    · exact ⟨0, rfl⟩
    · exact hfraction.readExponent?
  unfold readMagnitude?
  simp [splitDigits_of_digits hdigits hends, hne, hpower]

/-- A numeral is always read as some float. -/
theorem IsNumeral.readFloat? (h : IsNumeral numeral) :
    ∃ x, Numeral.readFloat? numeral = some x := by
  cases h with
  | @parts sign digits fraction hsign hne hdigits hfraction =>
    unfold Numeral.readFloat?
    simp only [splitSign_append_digits hsign hne hdigits]
    split
    · exact ⟨_, rfl⟩
    · split
      · exact ⟨_, rfl⟩
      · exact readMagnitude?_append hne hdigits hfraction _

/-- A numeral without a point is read as the integer that it stands for, if that has 64 bits. -/
theorem IsNumeral.readInt? (h : IsNumeral numeral) (hpoint : '.' ∉ numeral) :
    Numeral.readInt? numeral = int64? (integer numeral) := by
  cases h with
  | @parts sign digits fraction hsign hne hdigits hfraction =>
    have hwhole : fraction = [] := by
      refine hfraction.resolve_right fun hfraction => hpoint ?_
      cases hfraction
      simp
    have hsplit := splitSign_append_digits hsign hne hdigits []
    have hall : digits.all Char.isDigit = true := List.all_eq_true.mpr hdigits
    subst hwhole
    unfold Numeral.readInt?
    rw [hsplit, List.append_nil, ← applySign_eq_integer hsign hdigits]
    simp [hne, hall]

end Numeral

namespace Number
open Numeral

/-- What stands at the front of a text counts as a number as far as a numeral can go there. Without
a point it is the integer that it stands for, if that has 64 bits, and else no number; with a point
it is a float. -/
theorem atFront?_longest (cs : List Char) :
    ((∀ numeral, numeral <+: cs → ¬ IsNumeral numeral) ∧ atFront? cs = none) ∨
      ∃ numeral, IsLongest cs numeral ∧
        ('.' ∉ numeral →
          (-2 ^ 63 ≤ integer numeral ∧ integer numeral < 2 ^ 63 → ∃ n : Int64,
            n.toInt = integer numeral ∧ atFront? cs = some (.int n, numeral.length)) ∧
          (¬ (-2 ^ 63 ≤ integer numeral ∧ integer numeral < 2 ^ 63) → atFront? cs = none)) ∧
        ('.' ∈ numeral → ∃ x, readFloat? numeral = some x ∧
          atFront? cs = some (.float x, numeral.length)) := by
  cases hlongest : longest? cs with
  | none =>
    refine .inl ⟨longest?_eq_none_iff.mp hlongest, ?_⟩
    simp [atFront?, hlongest]
  | some numeral =>
    have hfound := longest?_eq_some_iff.mp hlongest
    refine .inr ⟨numeral, hfound, ?_, ?_⟩
    · intro hpoint
      have hread := hfound.pattern.readInt? hpoint
      constructor
      · intro hfits
        rw [int64?, if_pos hfits] at hread
        refine ⟨_, Int64.toInt_ofInt_of_le hfits.1 hfits.2, ?_⟩
        exact atFront?_eq_some.mpr ⟨numeral, hlongest, by simp [ofNumeral?, hpoint, hread], rfl⟩
      · intro hfits
        rw [int64?, if_neg hfits] at hread
        simp [atFront?, hlongest, ofNumeral?, hpoint, hread]
    · intro hpoint
      obtain ⟨x, hx⟩ := hfound.pattern.readFloat?
      exact ⟨x, hx, atFront?_eq_some.mpr ⟨numeral, hlongest, by simp [ofNumeral?, hpoint, hx], rfl⟩⟩

/-- A sign and an exponent that lead nowhere, and the least integer behind zeros. -/
theorem atFront?_longest_least :
    (∃ x, atFront? "+1.50e-,".toList = some (.float x, 5)) ∧
      (∃ n : Int64, n.toInt = -2 ^ 63 ∧
        atFront? "-009223372036854775808]".toList = some (.int n, 22)) ∧
      atFront? "9223372036854775808 ".toList = none ∧ atFront? "-inf".toList = none := by
  refine ⟨?_, ?_, ?_, ?_⟩
  · obtain ⟨hnone, -⟩ | ⟨numeral, hlongest, -, hfloat⟩ := atFront?_longest "+1.50e-,".toList
    · exact absurd (longest?_eq_none_iff.mpr hnone) (by decide)
    · obtain rfl : "+1.50".toList = numeral :=
        Option.some.inj (longest?_eq_some_iff.mpr hlongest)
      obtain ⟨x, -, hx⟩ := hfloat (by decide)
      exact ⟨x, hx⟩
  · obtain ⟨hnone, -⟩ | ⟨numeral, hlongest, hint, -⟩ :=
      atFront?_longest "-009223372036854775808]".toList
    · exact absurd (longest?_eq_none_iff.mpr hnone) (by decide)
    · obtain rfl : "-009223372036854775808".toList = numeral :=
        Option.some.inj (longest?_eq_some_iff.mpr hlongest)
      exact (hint (by decide)).1 (by decide)
  · obtain ⟨-, hnone⟩ | ⟨numeral, hlongest, hint, -⟩ :=
      atFront?_longest "9223372036854775808 ".toList
    · exact hnone
    · obtain rfl : "9223372036854775808".toList = numeral :=
        Option.some.inj (longest?_eq_some_iff.mpr hlongest)
      exact (hint (by decide)).2 (by decide)
  · obtain ⟨-, hnone⟩ | ⟨numeral, hlongest, -⟩ := atFront?_longest "-inf".toList
    · exact hnone
    · exact nomatch longest?_eq_some_iff.mpr hlongest

end Number

end ConfigRules
