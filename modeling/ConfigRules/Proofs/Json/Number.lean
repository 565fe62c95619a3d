import ConfigRules.Json.Printer
import ConfigRules.Json.Token
import ConfigRules.Proofs.FloatStyle

/-!
Numbers in JSON text. A number is read in the same way wherever it stands, as long as what follows
it does not go on with it; and integers are read as what was printed for them.
-/

namespace ConfigRules

namespace Numeral

variable {cs rest : List Char}

theorem endsNumber_cons {c : Char} (h : ¬ IsPart c) : EndsNumber (c :: rest) := by
  rintro d ⟨⟩
  exact h

theorem EndsNumber.ne (h : EndsNumber rest) {d : Char} (hd : IsPart d) : ∀ c ∈ rest.head?, c ≠ d := by
  rintro c hc rfl
  exact h c hc hd

theorem splitDigits_append_of_ends (h : EndsNumber rest) (cs : List Char) :
    splitDigits (cs ++ rest) = ((splitDigits cs).1, (splitDigits cs).2 ++ rest) := by
  induction cs with
  | nil => exact splitDigits_of_digits (by simp) h.not_isDigit
  | cons c cs ih =>
    unfold splitDigits at ih ⊢
    rw [List.span_eq_takeWhile_dropWhile, List.span_eq_takeWhile_dropWhile] at ih ⊢
    obtain ⟨htake, hdrop⟩ := Prod.mk.inj ih
    by_cases hc : c.isDigit = true
    · simp [hc, htake, hdrop]
    · simp [hc]

theorem splitSign_append_of_ends (h : EndsNumber rest) (cs : List Char) :
    splitSign (cs ++ rest) = ((splitSign cs).1, (splitSign cs).2 ++ rest) := by
  cases cs with
  | nil =>
    cases rest with
    | nil => rfl
    | cons c rest =>
      have hplus : c ≠ '+' := h.ne (.inr (by simp)) c rfl
      have hminus : c ≠ '-' := h.ne (.inr (by simp)) c rfl
      simp [splitSign, hplus, hminus]
  | cons c cs =>
    by_cases hplus : c = '+'
    · subst hplus
      rfl
    by_cases hminus : c = '-'
    · subst hminus
      rfl
    simp [splitSign, hplus, hminus]

theorem exponentPart_append (h : EndsNumber rest) (cs : List Char) :
    exponentPart (cs ++ rest) = exponentPart cs := by
  cases cs with
  | nil =>
    cases rest with
    | nil => rfl
    | cons c rest =>
      have hlower : c ≠ 'e' := h.ne (.inr (by simp)) c rfl
      have hupper : c ≠ 'E' := h.ne (.inr (by simp)) c rfl
      simp [exponentPart, hlower, hupper]
  | cons c cs =>
    unfold exponentPart
    simp only [List.cons_append, splitSign_append_of_ends h, splitDigits_append_of_ends h]

end Numeral

namespace Json.Token

open Numeral

variable {c : Char} {cs rest : List Char} {negative : Bool} {t : Token} {v : Json} {n : Nat}

theorem splitDigits_length_le (cs : List Char) : (splitDigits cs).1.length ≤ cs.length := by
  have happend := congrArg List.length (splitDigits_append cs)
  rw [List.length_append] at happend
  omega

theorem wholePart_length_le (cs : List Char) : (wholePart cs).length ≤ cs.length := by
  have hdigits := splitDigits_length_le cs
  unfold wholePart
  split
  · rename_i ds hds
    rw [hds, List.length_cons] at hdigits
    exact Nat.le_trans (Nat.le_add_left 1 _) hdigits
  · exact hdigits

theorem fractionPart_length_le (cs : List Char) : (fractionPart cs).length ≤ cs.length := by
  unfold fractionPart
  split
  · rename_i ds
    dsimp only
    split
    · exact Nat.zero_le _
    · exact Nat.succ_le_succ (splitDigits_length_le ds)
  · exact Nat.zero_le _

theorem wholePart_append (h : EndsNumber rest) (cs : List Char) :
    wholePart (cs ++ rest) = wholePart cs := by
  unfold wholePart
  rw [splitDigits_append_of_ends h]

theorem fractionPart_append (h : EndsNumber rest) (cs : List Char) :
    fractionPart (cs ++ rest) = fractionPart cs := by
  have hnone : ∀ ds : List Char, (∀ d ∈ ds.head?, d ≠ '.') → fractionPart ds = [] := by
    intro ds hds
    unfold fractionPart
    split
    · exact absurd rfl (hds '.' rfl)
    · rfl
  cases cs with
  | nil => exact hnone rest (h.ne (.inr (by simp)))
  | cons c cs =>
    by_cases hc : c = '.'
    · subst hc
      simp only [fractionPart, List.cons_append, splitDigits_append_of_ends h]
    · have hhead : ∀ ds : List Char, ∀ d ∈ (c :: ds).head?, d ≠ '.' := by
        rintro ds d ⟨⟩
        exact hc
      rw [List.cons_append, hnone _ (hhead _), hnone _ (hhead _)]

/-- What follows a number does not matter. -/
theorem numberAt?_append (h : EndsNumber rest) (negative : Bool) (cs : List Char) :
    numberAt? negative (cs ++ rest) = numberAt? negative cs := by
  have hwhole := wholePart_length_le cs
  have hfraction := fractionPart_length_le (cs.drop (wholePart cs).length)
  unfold numberAt?
  simp only [wholePart_append h, List.drop_append_of_le_length hwhole, fractionPart_append h,
    List.drop_append_of_le_length hfraction, exponentPart_append h]

theorem numberAt?_length (h : numberAt? negative cs = some (v, n)) : 0 < n ∧ n ≤ cs.length := by
  have hwhole := wholePart_length_le cs
  have hfraction := fractionPart_length_le (cs.drop (wholePart cs).length)
  have hexponent := List.IsPrefix.length_le <| exponentPart_prefix
    ((cs.drop (wholePart cs).length).drop (fractionPart (cs.drop (wholePart cs).length)).length)
  unfold numberAt? at h
  dsimp only at h
  split at h
  · cases h
  · rename_i hne
    obtain ⟨w, -, he⟩ := Option.map_eq_some_iff.mp h
    cases he
    have hpos : 0 < (wholePart cs).length := by simpa [List.length_pos_iff] using hne
    simp only [List.length_drop] at hfraction hexponent
    omega

theorem first?_digit (h : c.isDigit = true) :
    first? c cs = (numberAt? false (c :: cs)).map fun (v, n) => (atom v, n - 1) := by
  unfold first?
  split
  case h_12 => rw [if_pos h]
  all_goals cases h

theorem first?_minus (cs : List Char) :
    first? '-' cs = (numberAt? true cs).map fun (v, n) => (atom v, n) := rfl

/-- What follows a character of a numeral is read in the same way with and without more behind it. -/
theorem first?_append (h : EndsNumber rest) (hc : IsPart c) (cs : List Char) :
    first? c (cs ++ rest) = first? c cs := by
  rcases hc with hdigit | hmark
  · rw [first?_digit hdigit, first?_digit hdigit, ← List.cons_append, numberAt?_append h]
  · simp only [List.mem_cons, List.not_mem_nil, or_false] at hmark
    rcases hmark with rfl | rfl | rfl | rfl | rfl
    · rfl
    · rw [first?_minus, first?_minus, numberAt?_append h]
    · rfl
    · rfl
    · rfl

/-- Such a character begins a number, if anything, and that has no characters of what is behind. -/
theorem first?_part (hc : IsPart c) (h : first? c cs = some (t, n)) :
    (∃ v, t = atom v) ∧ n ≤ cs.length := by
  rcases hc with hdigit | hmark
  · rw [first?_digit hdigit] at h
    obtain ⟨⟨v, m⟩, hv, he⟩ := Option.map_eq_some_iff.mp h
    cases he
    have hlength := numberAt?_length hv
    simp only [List.length_cons] at hlength
    exact ⟨⟨v, rfl⟩, by omega⟩
  · simp only [List.mem_cons, List.not_mem_nil, or_false] at hmark
    rcases hmark with rfl | rfl | rfl | rfl | rfl
    · cases h
    · obtain ⟨⟨v, m⟩, hv, he⟩ := Option.map_eq_some_iff.mp h
      cases he
      exact ⟨⟨v, rfl⟩, (numberAt?_length hv).2⟩
    · cases h
    · cases h
    · cases h

end Json.Token

end ConfigRules
