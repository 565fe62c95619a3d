import ConfigRules.Proofs.Integer

/-!
Decimal numerals by their parts. A numeral with an optional fraction and exponent is read as the
decimal that its parts give, and one with a fraction is the longest numeral at the front of a text.
-/

namespace ConfigRules.Numeral

/-- An exponent by its sign and its digits. -/
structure Exponent where
  sign : List Char
  digits : List Char
  sign_mem : sign ∈ [[], ['+'], ['-']]
  ne_nil : digits ≠ []
  isDigit : ∀ c ∈ digits, c.isDigit = true

namespace Exponent

def chars (e : Exponent) : List Char := 'e' :: e.sign ++ e.digits

def power (e : Exponent) : Int := applySign e.sign (value e.digits)

end Exponent

/-- A numeral without its sign, by its parts. -/
structure Magnitude where
  whole : List Char
  fraction? : Option (List Char)
  exponent? : Option Exponent
  whole_ne_nil : whole ≠ []
  whole_isDigit : ∀ c ∈ whole, c.isDigit = true
  fraction_isDigit : ∀ ds ∈ fraction?, ∀ c ∈ ds, c.isDigit = true

namespace Magnitude

def exponentChars (m : Magnitude) : List Char := m.exponent?.elim [] Exponent.chars

def fractionChars (m : Magnitude) : List Char := m.fraction?.elim [] ('.' :: ·)

def chars (m : Magnitude) : List Char := m.whole ++ m.fractionChars ++ m.exponentChars

/-- All its digits as one number. -/
def coefficient (m : Magnitude) : Nat := value (m.whole ++ m.fraction?.getD [])

/-- The power of ten at its last digit. -/
def power (m : Magnitude) : Int := m.exponent?.elim 0 Exponent.power - (m.fraction?.getD []).length

/-- A numeral with a fraction. -/
def pointed (whole fraction : List Char) (exponent? : Option Exponent) (hne : whole ≠ [])
    (hwhole : ∀ c ∈ whole, c.isDigit = true) (hfraction : ∀ c ∈ fraction, c.isDigit = true) :
    Magnitude :=
  ⟨whole, some fraction, exponent?, hne, hwhole, fun _ hds => Option.some.inj hds ▸ hfraction⟩

section

variable {whole fraction : List Char} {exponent? : Option Exponent} {hne : whole ≠ []}
  {hwhole : ∀ c ∈ whole, c.isDigit = true} {hfraction : ∀ c ∈ fraction, c.isDigit = true}

@[simp]
theorem chars_pointed : (pointed whole fraction exponent? hne hwhole hfraction).chars =
    whole ++ '.' :: fraction ++ exponent?.elim [] Exponent.chars := rfl

@[simp]
theorem coefficient_pointed :
    (pointed whole fraction exponent? hne hwhole hfraction).coefficient =
      value (whole ++ fraction) := rfl

@[simp]
theorem power_pointed : (pointed whole fraction exponent? hne hwhole hfraction).power =
    exponent?.elim 0 Exponent.power - fraction.length := rfl

end

end Magnitude

/-- A text that does not go on with a number before it. -/
def EndsNumber (rest : List Char) : Prop := ∀ c ∈ rest.head?, ¬ IsPart c

variable {c : Char} {cs sign digits rest : List Char}

theorem EndsNumber.not_isDigit (h : EndsNumber rest) :
    ∀ c ∈ rest.head?, c.isDigit = false :=
  fun c hc => Bool.eq_false_iff.mpr fun hd => h c hc (.inl hd)

theorem EndsNumber.integer (h : EndsNumber rest) : EndsInteger rest := by
  intro c hc
  refine ⟨h.not_isDigit c hc, ?_⟩
  rintro rfl
  exact h '.' hc (.inr (by simp))

theorem endsNumber_nil : EndsNumber [] := nofun

theorem head?_append_of_digits (hne : digits ≠ []) (hd : ∀ c ∈ digits, c.isDigit = true)
    (rest : List Char) : ∃ c cs, digits ++ rest = c :: cs ∧ c.isDigit = true := by
  obtain ⟨c, cs, rfl⟩ := List.exists_cons_of_ne_nil hne
  exact ⟨c, cs ++ rest, rfl, hd c List.mem_cons_self⟩

/-- A sign is split off in front of digits. -/
theorem splitSign_append_digits (hs : sign ∈ [[], ['+'], ['-']]) (hne : digits ≠ [])
    (hd : ∀ c ∈ digits, c.isDigit = true) (rest : List Char) :
    splitSign (sign ++ (digits ++ rest)) = (sign, digits ++ rest) := by
  obtain ⟨c, cs, hcs, hc⟩ := head?_append_of_digits hne hd rest
  simp only [List.mem_cons, List.not_mem_nil, or_false] at hs
  rcases hs with rfl | rfl | rfl
  · rw [hcs]
    exact splitSign_digits hc
  · rfl
  · rfl

namespace Exponent

theorem readExponent? (e : Exponent) : readExponent? e.chars = some e.power := by
  have hsplit := splitSign_append_digits e.sign_mem e.ne_nil e.isDigit []
  rw [List.append_nil] at hsplit
  have hall : e.digits.all Char.isDigit = true := List.all_eq_true.mpr e.isDigit
  unfold chars power
  rw [List.cons_append, Numeral.readExponent?, hsplit]
  simp [hall, e.ne_nil]

theorem exponentPart (e : Exponent) (h : EndsNumber rest) :
    exponentPart (e.chars ++ rest) = e.chars := by
  have hsplit := splitSign_append_digits e.sign_mem e.ne_nil e.isDigit rest
  have hdigits := splitDigits_of_digits e.isDigit h.not_isDigit
  unfold chars
  rw [List.cons_append, List.cons_append, List.append_assoc, Numeral.exponentPart, hsplit]
  simp only [hdigits]
  simp [e.ne_nil]

theorem mem_chars (e : Exponent) (h : c ∈ e.chars) : c.isDigit = true ∨ c ∈ ['e', '+', '-'] := by
  rw [chars, List.mem_append, List.mem_cons] at h
  rcases h with (rfl | hsign) | hdigits
  · exact .inr (by simp)
  · have hs := e.sign_mem
    simp only [List.mem_cons, List.not_mem_nil, or_false] at hs
    rcases hs with hs | hs | hs <;> simp [hs] at hsign
    · exact .inr (by simp [hsign])
    · exact .inr (by simp [hsign])
  · exact .inl (e.isDigit c hdigits)

theorem isPart_of_mem_chars (e : Exponent) (h : c ∈ e.chars) : IsPart c := by
  have hmarks : ∀ c ∈ ['e', '+', '-'], c ∈ ['+', '-', '.', 'e', 'E'] := by simp
  exact (e.mem_chars h).imp_right (hmarks c)

theorem point_notMem (e : Exponent) : '.' ∉ e.chars :=
  fun h => absurd (e.mem_chars h) (by decide)

end Exponent

theorem toLower_of_isDigit (h : c.isDigit = true) : c.toLower = c := by
  have hcode : c.toNat ≤ 57 := (Char.isDigit_iff_toNat.mp h).2
  unfold Char.toLower
  rw [dif_neg]
  intro hupper
  have hletter : 65 ≤ c.toNat := hupper.1
  omega

theorem exponentPart_of_ends (h : EndsNumber rest) : exponentPart rest = [] := by
  cases rest with
  | nil => rfl
  | cons c cs =>
    have hmark : c ≠ 'e' ∧ c ≠ 'E' := by
      constructor <;> rintro rfl <;> exact h _ rfl (.inr (by simp))
    simp [exponentPart, hmark]

namespace Magnitude

variable (m : Magnitude)

/-- Neither an exponent nor the end of a number begins with a digit. -/
theorem head?_exponentChars (h : EndsNumber rest) :
    ∀ c ∈ (m.exponentChars ++ rest).head?, c.isDigit = false := by
  unfold exponentChars
  cases m.exponent? with
  | none => exact h.not_isDigit
  | some e =>
    intro c hc
    cases hc
    rfl

theorem head?_fractionChars (h : EndsNumber rest) :
    ∀ c ∈ (m.fractionChars ++ (m.exponentChars ++ rest)).head?, c.isDigit = false := by
  have hexponent := m.head?_exponentChars h
  unfold fractionChars
  cases m.fraction? with
  | none => exact hexponent
  | some ds =>
    intro c hc
    cases hc
    rfl

theorem splitFraction_chars :
    splitFraction (m.fractionChars ++ m.exponentChars) =
      (m.fraction?.getD [], m.exponentChars) := by
  have hdigit := m.fraction_isDigit
  have hexponent := m.head?_exponentChars endsNumber_nil
  rw [List.append_nil] at hexponent
  unfold fractionChars
  cases hf : m.fraction? with
  | some ds => exact splitDigits_of_digits (hdigit ds hf) hexponent
  | none =>
    unfold exponentChars
    cases m.exponent? <;> rfl

theorem readExponent?_chars :
    readExponent? m.exponentChars = some (m.exponent?.elim 0 Exponent.power) := by
  unfold exponentChars
  cases m.exponent? with
  | none => rfl
  | some e => exact e.readExponent?

/-- A numeral is read as the decimal of its parts. -/
theorem readMagnitude?_chars (negative : Bool) :
    readMagnitude? negative m.chars = some (.ofDecimal negative m.coefficient m.power) := by
  have hends := m.head?_fractionChars endsNumber_nil
  rw [List.append_nil] at hends
  have hwhole := splitDigits_of_digits m.whole_isDigit hends
  unfold readMagnitude? chars
  rw [List.append_assoc, hwhole]
  simp only [m.splitFraction_chars, m.readExponent?_chars]
  simp [m.whole_ne_nil, coefficient, power]

/-- A numeral is no name of an infinity or of NaN, as it begins with a digit. -/
theorem lowercase_ne_name {d : Char} {ds : List Char} (hd : d.isDigit = false) :
    String.ofList (m.chars.map Char.toLower) ≠ String.ofList (d :: ds) := by
  obtain ⟨c, cs, hcs, hc⟩ := head?_append_of_digits m.whole_ne_nil m.whole_isDigit
    (m.fractionChars ++ m.exponentChars)
  unfold chars
  rw [List.append_assoc, hcs, List.map_cons, toLower_of_isDigit hc, Ne, String.ofList_inj]
  rintro h
  rw [(List.cons.inj h).1] at hc
  cases hc.symm.trans hd

/-- A numeral with a sign is read as the decimal of its parts. -/
theorem readFloat?_chars (hs : sign ∈ [[], ['+'], ['-']]) :
    readFloat? (sign ++ m.chars) =
      some (.ofDecimal (decide (sign = ['-'])) m.coefficient m.power) := by
  have hsplit : splitSign (sign ++ m.chars) = (sign, m.chars) := by
    unfold chars
    rw [List.append_assoc m.whole]
    exact splitSign_append_digits hs m.whole_ne_nil m.whole_isDigit _
  unfold readFloat?
  simp only [hsplit]
  rw [if_neg, if_neg, m.readMagnitude?_chars]
  · exact m.lowercase_ne_name (by decide)
  · rw [Bool.or_eq_true, decide_eq_true_eq, decide_eq_true_eq, not_or]
    exact ⟨m.lowercase_ne_name (by decide), m.lowercase_ne_name (by decide)⟩

/-- A numeral with a fraction, and a sign before it, is the longest one at the front of a text. -/
theorem longest?_chars (hs : sign ∈ [[], ['+'], ['-']]) (hf : m.fraction?.isSome)
    (h : EndsNumber rest) : longest? (sign ++ m.chars ++ rest) = some (sign ++ m.chars) := by
  have hsign := splitSign_append_digits hs m.whole_ne_nil m.whole_isDigit
    (m.fractionChars ++ (m.exponentChars ++ rest))
  have hwhole := splitDigits_of_digits m.whole_isDigit (m.head?_fractionChars h)
  have hfraction : fractionPart (m.fractionChars ++ (m.exponentChars ++ rest)) =
      m.fractionChars ++ m.exponentChars := by
    obtain ⟨ds, hds⟩ := Option.isSome_iff_exists.mp hf
    have hdigits := splitDigits_of_digits (m.fraction_isDigit ds hds) (m.head?_exponentChars h)
    have hexponent : exponentPart (m.exponentChars ++ rest) = m.exponentChars := by
      unfold exponentChars
      cases m.exponent? with
      | none => exact exponentPart_of_ends h
      | some e => exact e.exponentPart h
    simp only [fractionChars, hds, Option.elim_some, List.cons_append, fractionPart, hdigits,
      hexponent]
  unfold longest? chars
  simp only [List.append_assoc, hsign, hwhole, hfraction]
  simp [m.whole_ne_nil]

/-- Only a fraction has a point. -/
theorem isSome_fraction_of_point (h : '.' ∈ m.chars) : m.fraction?.isSome := by
  by_contra hnone
  rw [Option.not_isSome_iff_eq_none] at hnone
  unfold chars fractionChars exponentChars at h
  rw [hnone, Option.elim_none, List.append_nil, List.mem_append] at h
  rcases h with hwhole | hexponent
  · exact absurd (m.whole_isDigit _ hwhole) (by decide)
  · cases he : m.exponent? with
    | none =>
      rw [he] at hexponent
      cases hexponent
    | some e =>
      rw [he] at hexponent
      exact e.point_notMem hexponent

/-- It is made of characters of numerals. -/
theorem isPart_of_mem_chars (h : c ∈ m.chars) : IsPart c := by
  rw [chars, List.mem_append, List.mem_append] at h
  rcases h with (hwhole | hfraction) | hexponent
  · exact .inl (m.whole_isDigit c hwhole)
  · unfold fractionChars at hfraction
    cases hf : m.fraction? with
    | none =>
      rw [hf] at hfraction
      cases hfraction
    | some ds =>
      rw [hf, Option.elim_some, List.mem_cons] at hfraction
      rcases hfraction with rfl | hd
      · exact .inr (by simp)
      · exact .inl (m.fraction_isDigit ds hf c hd)
  · unfold exponentChars at hexponent
    cases he : m.exponent? with
    | none =>
      rw [he] at hexponent
      cases hexponent
    | some e =>
      rw [he] at hexponent
      exact e.isPart_of_mem_chars hexponent

end Magnitude

end ConfigRules.Numeral
