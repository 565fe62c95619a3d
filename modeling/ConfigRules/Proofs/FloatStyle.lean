import ConfigRules.Proofs.Decimal
import ConfigRules.Proofs.Magnitude

/-!
What is written for a 64-bit number is read as that number, in every style. If it is written with a
point, it is also the longest numeral at the front of a text.
-/

namespace ConfigRules

namespace Numeral

variable {digits : List Char} {m : Magnitude}

theorem value_append (xs ys : List Char) :
    value (xs ++ ys) = value xs * 10 ^ ys.length + value ys := by
  unfold value
  simp only [← Nat.ofDigitChars_eq_foldl]
  rw [Nat.ofDigitChars_append, Nat.ofDigitChars_eq_ofDigitChars_zero, Nat.mul_comm]

theorem value_replicate_zero (n : Nat) : value (List.replicate n '0') = 0 := by
  unfold value
  rw [← Nat.ofDigitChars_eq_foldl, Nat.ofDigitChars_replicate_zero, Nat.mul_zero]

/-- The numeral has the value of a digit string whose first digit stands at a power of ten. -/
def Magnitude.Has (m : Magnitude) (digits : List Char) (lead : Int) : Prop :=
  ∀ negative, Binary64.ofDecimal negative m.coefficient m.power =
    Binary64.ofDecimal negative (value digits) (lead + 1 - digits.length)

/-- A numeral has the value of its digits, less any zeros at their end. -/
theorem Magnitude.Has.of_coefficient {lead : Int} {k : Nat}
    (hc : m.coefficient = value digits * 10 ^ k) (hp : m.power + k = lead + 1 - digits.length) :
    m.Has digits lead := by
  intro negative
  rw [hc, Binary64.ofDecimal_mul_pow, hp]

/-- A digit string without the zeros at its end. -/
def significant (digits : List Char) : List Char :=
  (digits.reverse.dropWhile (· == '0')).reverse

theorem significant_append_zeros (digits : List Char) :
    ∃ k, significant digits ++ List.replicate k '0' = digits := by
  have hzeros : ∀ c ∈ (digits.reverse.takeWhile (· == '0')).reverse, c = '0' := by
    intro c hc
    have hzero := List.mem_takeWhile_imp (List.mem_reverse.mp hc)
    exact eq_of_beq hzero
  refine ⟨(digits.reverse.takeWhile (· == '0')).reverse.length, ?_⟩
  unfold significant
  rw [← List.eq_replicate_iff.mpr ⟨rfl, hzeros⟩, ← List.reverse_append,
    List.takeWhile_append_dropWhile, List.reverse_reverse]

theorem significant_subset (digits : List Char) : significant digits ⊆ digits := by
  obtain ⟨k, hk⟩ := significant_append_zeros digits
  intro c hc
  rw [← hk]
  exact List.mem_append_left _ hc

/-- The zeros at the end make up a power of ten. -/
theorem value_significant (digits : List Char) : ∃ k,
    value digits = value (significant digits) * 10 ^ k ∧
      digits.length = (significant digits).length + k := by
  obtain ⟨k, hk⟩ := significant_append_zeros digits
  refine ⟨k, ?_, ?_⟩
  · calc value digits = value (significant digits ++ List.replicate k '0') := by rw [hk]
      _ = value (significant digits) * 10 ^ k := by
        rw [value_append, value_replicate_zero, List.length_replicate, Nat.add_zero]
  · calc digits.length = (significant digits ++ List.replicate k '0').length := by rw [hk]
      _ = (significant digits).length + k := by rw [List.length_append, List.length_replicate]

theorem significant_ne_nil (h : value digits ≠ 0) : significant digits ≠ [] := by
  intro hnil
  obtain ⟨k, hvalue, _⟩ := value_significant digits
  rw [hnil] at hvalue
  exact h (hvalue.trans (Nat.zero_mul _))

/-- The sign of an exponent as it is written. -/
def exponentSign (plusSign : Bool) (power : Int) : List Char :=
  if power < 0 then ['-'] else if plusSign then ['+'] else []

theorem exponentSign_mem (plusSign : Bool) (power : Int) :
    exponentSign plusSign power ∈ [[], ['+'], ['-']] := by
  unfold exponentSign
  split
  · simp
  · split <;> simp

theorem exponentSign_eq_minus {plusSign : Bool} {power : Int} :
    exponentSign plusSign power = ['-'] ↔ power < 0 := by
  unfold exponentSign
  split
  · simp [*]
  · split <;> simp [*]

/-- An exponent as it is written. -/
def Exponent.ofPower (plusSign : Bool) (power : Int) : Exponent :=
  ⟨exponentSign plusSign power, Nat.toDigits 10 power.natAbs, exponentSign_mem plusSign power,
    Nat.toDigits_ne_nil, isDigit_of_mem_toDigits⟩

@[simp]
theorem Exponent.chars_ofPower (plusSign : Bool) (power : Int) :
    (ofPower plusSign power).chars =
      'e' :: exponentSign plusSign power ++ Nat.toDigits 10 power.natAbs := rfl

@[simp]
theorem Exponent.power_ofPower (plusSign : Bool) (power : Int) :
    (ofPower plusSign power).power = power := by
  have happly : (ofPower plusSign power).power =
      applySign (exponentSign plusSign power) (value (Nat.toDigits 10 power.natAbs)) := rfl
  rw [happly, value_toDigits]
  unfold applySign
  simp only [exponentSign_eq_minus]
  split <;> omega

end Numeral

namespace FloatStyle

open Numeral

variable {digits : List Char} {lead : Int}

theorem isDigit_replicate_zero (n : Nat) : ∀ c ∈ List.replicate n '0', c.isDigit = true := by
  intro c hc
  rw [List.eq_of_mem_replicate hc]
  decide

/-- Digits behind a point and some zeros. -/
theorem small_magnitude (hd : ∀ c ∈ digits, c.isDigit = true) (hlead : lead < 0) :
    ∃ m : Magnitude, positional digits lead = m.chars ∧ m.Has digits lead := by
  let zeros := List.replicate (-lead - 1).toNat '0'
  have hfraction : ∀ c ∈ zeros ++ digits, c.isDigit = true :=
    List.forall_mem_append.mpr ⟨isDigit_replicate_zero _, hd⟩
  refine ⟨.pointed ['0'] (zeros ++ digits) none (by simp) (by simp) hfraction, ?_,
    .of_coefficient (k := 0) ?_ ?_⟩
  · unfold positional
    rw [if_pos hlead]
    simp [zeros]
  · have hvalue : value ('0' :: zeros ++ digits) = value digits := by
      rw [value_append, ← List.replicate_succ, value_replicate_zero, Nat.zero_mul, Nat.zero_add]
    rw [Nat.pow_zero, Nat.mul_one]
    exact hvalue
  · simp only [Magnitude.power_pointed, Option.elim_none, List.length_append,
      List.length_replicate, zeros]
    omega

/-- Digits with zeros as far as the point, and one behind it. -/
theorem short_magnitude (hd : ∀ c ∈ digits, c.isDigit = true) (hlead : ¬ lead < 0)
    (hshort : digits.length ≤ lead.toNat + 1) :
    ∃ m : Magnitude, positional digits lead = m.chars ∧ m.Has digits lead := by
  let zeros := List.replicate (lead.toNat + 1 - digits.length) '0'
  have hlength : (digits ++ zeros).length = lead.toNat + 1 := by
    rw [List.length_append, List.length_replicate]
    omega
  have hpadded : ∀ c ∈ digits ++ zeros, c.isDigit = true :=
    List.forall_mem_append.mpr ⟨hd, isDigit_replicate_zero _⟩
  have hne : digits ++ zeros ≠ [] := fun h => by simp [h] at hlength
  refine ⟨.pointed (digits ++ zeros) ['0'] none hne hpadded (by simp), ?_,
    .of_coefficient (k := lead.toNat + 1 - digits.length + 1) ?_ ?_⟩
  · have htake : (digits ++ zeros).take (lead.toNat + 1) = digits ++ zeros :=
      List.take_of_length_le (Nat.le_of_eq hlength)
    have hdrop : (digits ++ zeros).drop (lead.toNat + 1) = [] :=
      List.drop_eq_nil_of_le (Nat.le_of_eq hlength)
    unfold positional
    rw [if_neg hlead]
    dsimp only
    rw [htake, hdrop]
    simp
  · rw [Magnitude.coefficient_pointed, List.append_assoc, ← List.replicate_succ', value_append,
      value_replicate_zero, List.length_replicate, Nat.add_zero]
  · simp only [Magnitude.power_pointed, Option.elim_none, List.length_singleton]
    omega

/-- Digits on both sides of the point. -/
theorem long_magnitude (hd : ∀ c ∈ digits, c.isDigit = true) (hlead : ¬ lead < 0)
    (hlong : lead.toNat + 1 < digits.length) :
    ∃ m : Magnitude, positional digits lead = m.chars ∧ m.Has digits lead := by
  have htake : digits.take (lead.toNat + 1) ≠ [] := by
    rw [Ne, List.take_eq_nil_iff]
    rintro (hzero | rfl)
    · cases hzero
    · cases hlong
  have hdrop : digits.drop (lead.toNat + 1) ≠ [] := by
    rw [Ne, List.drop_eq_nil_iff]
    omega
  refine ⟨.pointed (digits.take (lead.toNat + 1)) (digits.drop (lead.toNat + 1)) none htake
    (fun c hc => hd c (List.mem_of_mem_take hc)) (fun c hc => hd c (List.mem_of_mem_drop hc)), ?_,
    .of_coefficient (k := 0) ?_ ?_⟩
  · have hnone : lead.toNat + 1 - digits.length = 0 := by omega
    unfold positional
    rw [if_neg hlead]
    simp [hnone, hdrop]
  · simp
  · simp only [Magnitude.power_pointed, Option.elim_none, List.length_drop]
    omega

/-- Digits written around a point make up a numeral of their value. -/
theorem positional_magnitude (hd : ∀ c ∈ digits, c.isDigit = true) (lead : Int) :
    ∃ m : Magnitude, positional digits lead = m.chars ∧ m.Has digits lead := by
  by_cases hlead : lead < 0
  · exact small_magnitude hd hlead
  · by_cases hshort : digits.length ≤ lead.toNat + 1
    · exact short_magnitude hd hlead hshort
    · exact long_magnitude hd hlead (Nat.lt_of_not_le hshort)

/-- So do digits written with an exponent. -/
theorem scientific_magnitude (plusSign : Bool) (hd : ∀ c ∈ digits, c.isDigit = true)
    (hne : digits ≠ []) (lead : Int) :
    ∃ m : Magnitude, scientific plusSign digits lead = m.chars ∧ m.Has digits lead := by
  let exponent : Exponent := .ofPower plusSign lead
  obtain ⟨first, rest, rfl⟩ := List.exists_cons_of_ne_nil hne
  cases rest with
  | nil =>
    refine ⟨⟨[first], none, some exponent, hne, hd, nofun⟩, rfl, .of_coefficient (k := 0) ?_ ?_⟩
    · simp [Magnitude.coefficient]
    · simp [Magnitude.power, exponent]
  | cons second rest =>
    have hboth := List.forall_mem_cons.mp hd
    refine ⟨.pointed [first] (second :: rest) (some exponent) (by simp)
      (List.forall_mem_singleton.mpr hboth.1) hboth.2, ?_, .of_coefficient (k := 0) ?_ ?_⟩
    · simp [scientific, exponent, exponentSign]
    · simp
    · simp [exponent]

/-- The text of a decimal is a numeral of its value. -/
theorem decimalChars_magnitude (style : FloatStyle) {d : Decimal} (hd : d.coefficient ≠ 0) :
    ∃ m : Magnitude, style.decimalChars d = m.chars ∧ ∀ negative,
      Binary64.ofDecimal negative m.coefficient m.power =
        Binary64.ofDecimal negative d.coefficient d.exponent := by
  let digits := Nat.toDigits 10 d.coefficient
  let lead := d.exponent + digits.length - 1
  have hdigits : ∀ c ∈ significant digits, c.isDigit = true :=
    fun c hc => isDigit_of_mem_toDigits c (significant_subset _ hc)
  have hne : significant digits ≠ [] := by
    apply significant_ne_nil
    rwa [value_toDigits]
  have hmagnitude : ∃ m : Magnitude, style.decimalChars d = m.chars ∧
      m.Has (significant digits) lead := by
    unfold decimalChars
    dsimp only
    split
    · exact positional_magnitude hdigits lead
    · exact scientific_magnitude style.plusSign hdigits hne lead
  obtain ⟨m, hm, hhas⟩ := hmagnitude
  obtain ⟨k, hvalue, hlength⟩ := value_significant digits
  have hexponent : lead + 1 - (significant digits).length = d.exponent + k := by omega
  refine ⟨m, hm, fun negative => ?_⟩
  rw [hhas negative, hexponent, ← Binary64.ofDecimal_mul_pow, ← hvalue, value_toDigits]

/-- The sign of a number as it is written. -/
def signChars (x : Binary64.Finite) : List Char := if x.negative then ['-'] else []

theorem signChars_mem (x : Binary64.Finite) : signChars x ∈ [[], ['+'], ['-']] := by
  unfold signChars
  split <;> simp

/-- The text of a finite number is a numeral of its value with its sign. -/
theorem finiteChars_magnitude (style : FloatStyle) (x : Binary64.Finite) :
    ∃ m : Magnitude, style.finiteChars x = signChars x ++ m.chars ∧
      Binary64.ofDecimal x.negative m.coefficient m.power = .finite x := by
  have hsign : ∀ cs, (if x.negative then '-' :: cs else cs) = signChars x ++ cs := by
    intro cs
    unfold signChars
    split <;> rfl
  unfold finiteChars
  rw [hsign]
  by_cases hx : x.units = 0
  · rw [if_pos hx]
    refine ⟨.pointed ['0'] ['0'] none (by simp) (by simp) (by simp), rfl, ?_⟩
    have hzero : Binary64.ofDecimal x.negative 0 (-1) = .finite x := by
      obtain ⟨negative, units, fits⟩ := x
      subst hx
      rfl
    exact hzero
  · have hback : Binary64.ofDecimal x.negative (Decimal.shortest style.tie x).coefficient
        (Decimal.shortest style.tie x).exponent = .finite x :=
      Decimal.shortest_readsBack style.tie hx
    have hne : (Decimal.shortest style.tie x).coefficient ≠ 0 := by
      intro hzero
      rw [hzero, Binary64.ofDecimal_zero] at hback
      exact hx (Binary64.finite.inj hback ▸ rfl)
    obtain ⟨m, hm, hvalue⟩ := style.decimalChars_magnitude hne
    rw [if_neg hx, hm]
    exact ⟨m, rfl, (hvalue x.negative).trans hback⟩

/-- What is written for a number is read as the number. -/
theorem readFloat?_finiteChars (style : FloatStyle) (x : Binary64.Finite) :
    readFloat? (style.finiteChars x) = some (.finite x) := by
  obtain ⟨m, hm, hvalue⟩ := style.finiteChars_magnitude x
  have hsign : decide (signChars x = ['-']) = x.negative := by
    unfold signChars
    cases x.negative <;> rfl
  rw [hm, m.readFloat?_chars (signChars_mem x), hsign, hvalue]

/-- A number that is written with a point is the longest numeral at the front of a text. -/
theorem longest?_finiteChars (style : FloatStyle) {x : Binary64.Finite}
    (hp : '.' ∈ style.finiteChars x) {rest : List Char} (h : EndsNumber rest) :
    longest? (style.finiteChars x ++ rest) = some (style.finiteChars x) := by
  obtain ⟨m, hm, _⟩ := style.finiteChars_magnitude x
  rw [hm] at hp ⊢
  have hpoint : '.' ∈ m.chars := by
    rcases List.mem_append.mp hp with hs | hpoint
    · unfold signChars at hs
      split at hs <;> simp at hs
    · exact hpoint
  exact m.longest?_chars (signChars_mem x) (m.isSome_fraction_of_point hpoint) h

/-- The text of a finite number is made of characters of numerals. -/
theorem isPart_of_mem_finiteChars (style : FloatStyle) {x : Binary64.Finite} {c : Char}
    (h : c ∈ style.finiteChars x) : IsPart c := by
  obtain ⟨m, hm, _⟩ := style.finiteChars_magnitude x
  rw [hm] at h
  rcases List.mem_append.mp h with hsign | hpart
  · unfold signChars at hsign
    split at hsign
    · exact .inr (by simp [List.mem_singleton.mp hsign])
    · cases hsign
  · exact m.isPart_of_mem_chars hpart

theorem point_mem_positional (digits : List Char) (lead : Int) : '.' ∈ positional digits lead := by
  unfold positional
  split <;> simp

theorem mark_mem_scientific (plusSign : Bool) (digits : List Char) (lead : Int) :
    'e' ∈ scientific plusSign digits lead := by
  unfold scientific
  simp

theorem exists_mark_decimal (style : FloatStyle) (d : Decimal) :
    '.' ∈ style.decimalChars d ∨ 'e' ∈ style.decimalChars d := by
  unfold decimalChars
  dsimp only
  split
  · exact .inl (point_mem_positional _ _)
  · exact .inr (mark_mem_scientific _ _ _)

/-- A finite number is written with a point or with an exponent. -/
theorem exists_mark (style : FloatStyle) (x : Binary64.Finite) :
    '.' ∈ style.finiteChars x ∨ 'e' ∈ style.finiteChars x := by
  unfold finiteChars
  by_cases hx : x.units = 0
  · rw [if_pos hx]
    left
    split <;> simp
  · rw [if_neg hx]
    have hmark := style.exists_mark_decimal (Decimal.shortest style.tie x)
    split
    · exact hmark.imp (List.mem_cons_of_mem _) (List.mem_cons_of_mem _)
    · exact hmark

end FloatStyle

end ConfigRules
