import Mathlib.Data.List.TakeDrop
import Mathlib.Data.List.TakeWhile
import ConfigRules.Numeral
import ConfigRules.Text.Blank

/-!
The longest numeral at the front of a text is made of digits, signs, points and exponent marks, and
the text begins with it.
-/

namespace ConfigRules

theorem Text.isBlank_of_isDigit {c : Char} (h : c.isDigit = true) : isBlank c = false := by
  have hcode : 48 ≤ c.toNat ∧ c.toNat ≤ 57 := by
    simpa [Char.isDigit, UInt32.le_iff_toNat_le] using h
  simp only [isBlank, inRanges, blankRanges, List.any_eq_false]
  simp
  omega

namespace Numeral

/-- A character that numerals are made of. -/
def IsPart (c : Char) : Prop := c.isDigit = true ∨ c ∈ ['+', '-', '.', 'e', 'E']

instance : DecidablePred IsPart := fun _ => inferInstanceAs (Decidable (_ ∨ _))

variable {cs : List Char} {c : Char}

theorem IsPart.not_blank (h : IsPart c) : Text.isBlank c = false := by
  rcases h with hd | hm
  · exact Text.isBlank_of_isDigit hd
  · simp only [List.mem_cons, List.not_mem_nil, or_false] at hm
    rcases hm with rfl | rfl | rfl | rfl | rfl <;> decide

theorem splitSign_append (cs : List Char) : (splitSign cs).1 ++ (splitSign cs).2 = cs := by
  unfold splitSign
  split <;> rfl

theorem isPart_of_mem_sign (h : c ∈ (splitSign cs).1) : IsPart c := by
  unfold splitSign at h
  split at h
  · exact .inr (by simp [List.mem_singleton.mp h])
  · exact .inr (by simp [List.mem_singleton.mp h])
  · cases h

theorem splitDigits_append (cs : List Char) : (splitDigits cs).1 ++ (splitDigits cs).2 = cs := by
  simp [splitDigits, List.span_eq_takeWhile_dropWhile]

/-- Digits are split off up to the first character that is none. -/
theorem splitDigits_of_digits {ds rest : List Char} (hd : ∀ c ∈ ds, c.isDigit = true)
    (hr : ∀ c ∈ rest.head?, c.isDigit = false) : splitDigits (ds ++ rest) = (ds, rest) := by
  unfold splitDigits
  rw [List.span_eq_takeWhile_dropWhile, List.takeWhile_append_of_pos hd,
    List.dropWhile_append_of_pos hd]
  cases rest with
  | nil => simp
  | cons c cs =>
    have hc := hr c rfl
    rw [List.takeWhile_cons_of_neg (by simp [hc]), List.dropWhile_cons_of_neg (by simp [hc]),
      List.append_nil]

theorem isPart_of_mem_digits (h : c ∈ (splitDigits cs).1) : IsPart c := by
  simp only [splitDigits, List.span_eq_takeWhile_dropWhile] at h
  exact .inl (List.mem_takeWhile_imp h)

theorem exponentPart_prefix (cs : List Char) : exponentPart cs <+: cs := by
  cases cs with
  | nil => exact List.nil_prefix
  | cons d ds =>
    simp only [exponentPart]
    split
    · rw [List.cons_append, List.cons_prefix_cons]
      refine ⟨rfl, (splitDigits (splitSign ds).2).2, ?_⟩
      rw [List.append_assoc, splitDigits_append, splitSign_append]
    · exact List.nil_prefix

theorem isPart_of_mem_exponent (h : c ∈ exponentPart cs) : IsPart c := by
  cases cs with
  | nil => cases h
  | cons d ds =>
    simp only [exponentPart] at h
    split at h
    · rename_i hd
      simp only [List.cons_append, List.mem_cons, List.mem_append] at h
      rcases h with rfl | hs | hds
      · have hmark : c = 'e' ∨ c = 'E' := by simp at hd; exact hd.1
        exact .inr (by rcases hmark with rfl | rfl <;> simp)
      · exact isPart_of_mem_sign hs
      · exact isPart_of_mem_digits hds
    · cases h

theorem fractionPart_prefix (cs : List Char) : fractionPart cs <+: cs := by
  unfold fractionPart
  split
  · rename_i ds
    obtain ⟨rest, hrest⟩ := exponentPart_prefix (splitDigits ds).2
    simp only [List.cons_append, List.cons_prefix_cons, true_and]
    refine ⟨rest, ?_⟩
    rw [List.append_assoc, hrest, splitDigits_append]
  · exact List.nil_prefix

theorem isPart_of_mem_fraction (h : c ∈ fractionPart cs) : IsPart c := by
  unfold fractionPart at h
  split at h
  · simp only [List.cons_append, List.mem_cons, List.mem_append] at h
    rcases h with rfl | hds | he
    · exact .inr (by simp)
    · exact isPart_of_mem_digits hds
    · exact isPart_of_mem_exponent he
  · cases h

/-- A text begins with its longest numeral. -/
theorem longest?_prefix {numeral : List Char} (h : longest? cs = some numeral) :
    numeral <+: cs := by
  simp only [longest?] at h
  split at h
  · cases h
  · cases h
    obtain ⟨rest, hrest⟩ := fractionPart_prefix (splitDigits (splitSign cs).2).2
    refine ⟨rest, ?_⟩
    rw [List.append_assoc, hrest, List.append_assoc, splitDigits_append, splitSign_append]

theorem longest?_ne_nil {numeral : List Char} (h : longest? cs = some numeral) : numeral ≠ [] := by
  simp only [longest?] at h
  split at h
  · cases h
  · rename_i hdigits
    cases h
    simp_all

theorem isPart_of_mem_longest? {numeral : List Char} (h : longest? cs = some numeral)
    (hc : c ∈ numeral) : IsPart c := by
  simp only [longest?] at h
  split at h
  · cases h
  · cases h
    simp only [List.mem_append] at hc
    rcases hc with (hs | hd) | hf
    · exact isPart_of_mem_sign hs
    · exact isPart_of_mem_digits hd
    · exact isPart_of_mem_fraction hf

end Numeral

end ConfigRules
