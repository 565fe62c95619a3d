import ConfigRules.Number
import ConfigRules.Proofs.Numeral
import ConfigRules.Proofs.Scalar

/-!
Integers in decimal. What is written for an integer is the longest numeral at the front of a text
and is read as that integer, unless it is followed by a digit or a point.
-/

namespace ConfigRules

namespace Numeral

/-- A text that does not go on with an integer before it. -/
def EndsInteger (rest : List Char) : Prop := ∀ c ∈ rest.head?, c.isDigit = false ∧ c ≠ '.'

/-- The sign of an integer as it is written. -/
def signOf (n : Int) : List Char := if n < 0 then ['-'] else []

variable {rest : List Char}

theorem value_toDigits (n : Nat) : value (Nat.toDigits 10 n) = n := by
  unfold value
  rw [← Nat.ofDigitChars_eq_foldl, Nat.ofDigitChars_ten_toDigits]

theorem isDigit_of_mem_toDigits {n : Nat} : ∀ c ∈ Nat.toDigits 10 n, c.isDigit = true :=
  fun _ h => Nat.isDigit_of_mem_toDigits (by decide) (by decide) h

theorem toDigits_cons (n : Nat) : ∃ c cs, Nat.toDigits 10 n = c :: cs ∧ c.isDigit = true := by
  obtain ⟨c, cs, h⟩ := List.exists_cons_of_ne_nil (Nat.toDigits_ne_nil (n := n) (b := 10))
  exact ⟨c, cs, h, isDigit_of_mem_toDigits c (h ▸ List.mem_cons_self)⟩

theorem applySign_natAbs (n : Int) : applySign (signOf n) n.natAbs = n := by
  unfold applySign signOf
  split
  · rw [if_pos rfl]
    omega
  · rw [if_neg (by simp)]
    omega

theorem splitSign_digits {c : Char} {cs : List Char} (h : c.isDigit = true) :
    splitSign (c :: cs) = ([], c :: cs) := by
  unfold splitSign
  split
  · simp_all
  · simp_all
  · rfl

theorem splitSign_ofInt (n : Int) (rest : List Char) :
    splitSign (ofInt n ++ rest) = (signOf n, Nat.toDigits 10 n.natAbs ++ rest) := by
  unfold ofInt signOf
  split
  · rfl
  · obtain ⟨c, cs, hcs, hc⟩ := toDigits_cons n.natAbs
    rw [hcs]
    exact splitSign_digits hc

theorem splitDigits_toDigits (n : Nat) (h : EndsInteger rest) :
    splitDigits (Nat.toDigits 10 n ++ rest) = (Nat.toDigits 10 n, rest) :=
  splitDigits_of_digits isDigit_of_mem_toDigits fun c hc => (h c hc).1

theorem readInt?_ofInt (n : Int) : readInt? (ofInt n) = int64? n := by
  have hsplit := splitSign_ofInt n []
  rw [List.append_nil, List.append_nil] at hsplit
  have hdigits : (Nat.toDigits 10 n.natAbs).all Char.isDigit = true :=
    List.all_eq_true.mpr isDigit_of_mem_toDigits
  unfold readInt?
  simp only [hsplit, hdigits, value_toDigits, applySign_natAbs]
  simp

theorem toInt_of_int64? {n : Int} {i : Int64} (h : int64? n = some i) : i.toInt = n := by
  unfold int64? at h
  split at h
  · rename_i hfits
    cases h
    exact Int64.toInt_ofInt_of_le hfits.1 hfits.2
  · cases h

theorem longest?_ofInt (n : Int) (h : EndsInteger rest) :
    longest? (ofInt n ++ rest) = some (ofInt n) := by
  have hfraction : fractionPart rest = [] := by
    unfold fractionPart
    split
    · exact absurd rfl (h '.' rfl).2
    · rfl
  unfold longest?
  simp only [splitSign_ofInt, splitDigits_toDigits n.natAbs h, hfraction]
  simp [ofInt, signOf]

theorem ofInt_ne_nil (n : Int) : ofInt n ≠ [] := by
  simp [ofInt, Nat.toDigits_ne_nil]

/-- An integer is written with digits and perhaps a minus sign. -/
theorem mem_ofInt {n : Int} {c : Char} (h : c ∈ ofInt n) : c.isDigit = true ∨ c = '-' := by
  unfold ofInt at h
  rcases List.mem_append.mp h with hsign | hdigits
  · split at hsign
    · exact .inr (List.mem_singleton.mp hsign)
    · cases hsign
  · exact .inl (isDigit_of_mem_toDigits c hdigits)

theorem point_notMem_ofInt (n : Int) : '.' ∉ ofInt n :=
  fun h => absurd (mem_ofInt h) (by decide)

end Numeral

/-- The number at the front of a text is that of its longest numeral. -/
theorem Number.atFront?_eq_some {cs : List Char} {n : Number} {length : Nat} :
    atFront? cs = some (n, length) ↔ ∃ numeral, Numeral.longest? cs = some numeral ∧
      ofNumeral? numeral = some n ∧ numeral.length = length := by
  unfold atFront?
  simp [Option.bind_eq_some_iff]

/-- The integer that a text begins with is the one that was written there. -/
theorem Number.atFront?_int (n : Int64) {rest : List Char} (h : Numeral.EndsInteger rest) :
    atFront? ((int n).chars ++ rest) = some (int n, (int n).chars.length) := by
  have hread : ofNumeral? (Numeral.ofInt n.toInt) = some (int n) := by
    unfold ofNumeral?
    rw [if_neg (Numeral.point_notMem_ofInt _), Numeral.readInt?_ofInt, Scalar.int64?_toInt]
    rfl
  exact atFront?_eq_some.mpr ⟨_, Numeral.longest?_ofInt _ h, hread, rfl⟩

end ConfigRules
