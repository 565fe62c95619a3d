import ConfigRules.Proofs.Magnitude

/-!
The pattern of numerals. The longest numeral at the front of a text has it, and whatever has it is
the longest numeral at its own front.
-/

namespace ConfigRules.Numeral

/-- A mark, an optional sign, and digits. -/
inductive IsExponent : List Char → Prop
  | parts {mark : Char} {sign digits : List Char} (hmark : mark = 'e' ∨ mark = 'E')
    (hsign : sign ∈ [[], ['+'], ['-']]) (hne : digits ≠ [])
    (hdigits : ∀ c ∈ digits, c.isDigit = true) : IsExponent (mark :: (sign ++ digits))

/-- A point, any number of digits, and perhaps an exponent. -/
inductive IsFraction : List Char → Prop
  | parts {digits exponent : List Char} (hdigits : ∀ c ∈ digits, c.isDigit = true)
    (hexponent : exponent = [] ∨ IsExponent exponent) : IsFraction ('.' :: (digits ++ exponent))

/-- An optional sign, digits, and perhaps a fraction. -/
inductive IsNumeral : List Char → Prop
  | parts {sign digits fraction : List Char} (hsign : sign ∈ [[], ['+'], ['-']])
    (hne : digits ≠ []) (hdigits : ∀ c ∈ digits, c.isDigit = true)
    (hfraction : fraction = [] ∨ IsFraction fraction) : IsNumeral (sign ++ (digits ++ fraction))

variable {cs numeral exponent fraction : List Char}

theorem splitSign_mem (cs : List Char) : (splitSign cs).1 ∈ [[], ['+'], ['-']] := by
  unfold splitSign
  split <;> simp

theorem isDigit_of_mem_splitDigits (cs : List Char) :
    ∀ c ∈ (splitDigits cs).1, c.isDigit = true := by
  unfold splitDigits
  rw [List.span_eq_takeWhile_dropWhile]
  exact fun _ => List.mem_takeWhile_imp

/-- What is read as an exponent has its pattern. -/
theorem exponentPart_pattern (cs : List Char) :
    exponentPart cs = [] ∨ IsExponent (exponentPart cs) := by
  cases cs with
  | nil => exact .inl rfl
  | cons c cs =>
    unfold exponentPart
    dsimp only
    split
    · rename_i h
      simp only [Bool.and_eq_true, Bool.or_eq_true, beq_iff_eq, Bool.not_eq_true',
        List.isEmpty_eq_false_iff] at h
      exact .inr (.parts h.1 (splitSign_mem cs) h.2 (isDigit_of_mem_splitDigits _))
    · exact .inl rfl

theorem fractionPart_pattern (cs : List Char) :
    fractionPart cs = [] ∨ IsFraction (fractionPart cs) := by
  unfold fractionPart
  split
  · exact .inr (.parts (isDigit_of_mem_splitDigits _) (exponentPart_pattern _))
  · exact .inl rfl

theorem longest?_pattern (h : longest? cs = some numeral) : IsNumeral numeral := by
  unfold longest? at h
  dsimp only at h
  split at h
  · cases h
  · rename_i hne
    cases h
    rw [List.append_assoc]
    exact .parts (splitSign_mem cs) (by simpa using hne) (isDigit_of_mem_splitDigits _)
      (fractionPart_pattern _)

/-- Neither an exponent nor a fraction begins with a digit. -/
theorem IsExponent.head? (h : IsExponent exponent) :
    ∀ c ∈ exponent.head?, c.isDigit = false := by
  cases h with
  | parts hmark =>
    rintro c ⟨⟩
    rcases hmark with rfl | rfl <;> rfl

theorem IsFraction.head? (h : IsFraction fraction) :
    ∀ c ∈ fraction.head?, c.isDigit = false := by
  cases h
  rintro c ⟨⟩
  rfl

/-- A part that may be missing begins with no digit either way. -/
theorem head?_part {tail : List Char} {p : Prop} (hpart : tail = [] ∨ p)
    (hends : p → ∀ c ∈ tail.head?, c.isDigit = false) : ∀ c ∈ tail.head?, c.isDigit = false := by
  rcases hpart with rfl | h
  · exact nofun
  · exact hends h

theorem IsExponent.exponentPart (h : IsExponent exponent) : exponentPart exponent = exponent := by
  cases h with
  | @parts mark sign digits hmark hsign hne hdigits =>
    have hsplit := splitSign_append_digits hsign hne hdigits []
    have hall : splitDigits (digits ++ []) = (digits, []) :=
      splitDigits_of_digits hdigits nofun
    rw [List.append_nil] at hsplit hall
    unfold Numeral.exponentPart
    simp only [hsplit, hall]
    rw [if_pos (by simp [hmark, hne]), List.cons_append]

theorem IsFraction.fractionPart (h : IsFraction fraction) : fractionPart fraction = fraction := by
  cases h with
  | @parts digits exponent hdigits hexponent =>
    have hends := head?_part hexponent IsExponent.head?
    have hpart : Numeral.exponentPart exponent = exponent := by
      rcases hexponent with rfl | hexponent
      · rfl
      · exact hexponent.exponentPart
    unfold Numeral.fractionPart
    simp only [splitDigits_of_digits hdigits hends, hpart]
    rw [List.cons_append]

theorem IsNumeral.longest? (h : IsNumeral numeral) : longest? numeral = some numeral := by
  cases h with
  | @parts sign digits fraction hsign hne hdigits hfraction =>
    have hends := head?_part hfraction IsFraction.head?
    have hpart : Numeral.fractionPart fraction = fraction := by
      rcases hfraction with rfl | hfraction
      · rfl
      · exact hfraction.fractionPart
    unfold Numeral.longest?
    simp only [splitSign_append_digits hsign hne hdigits, splitDigits_of_digits hdigits hends,
      hpart]
    rw [if_neg (by simpa using hne), List.append_assoc]

/-- A numeral that was found at the front of a text is found again without what stood behind it. -/
theorem longest?_self (h : longest? cs = some numeral) :
    longest? numeral = some numeral :=
  (longest?_pattern h).longest?

end ConfigRules.Numeral
