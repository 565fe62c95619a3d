import ConfigRules.Proofs.Interval.Reading

/-!
Reading back the text of an interval. It gives the interval again exactly when every float in it is
written with a point, which infinities are not, and neither are single digits with an exponent.
-/

namespace ConfigRules.Interval

variable {mark front rest : List Char} {c : Char} {i : Interval}

/-- A prefix without a certain character lies in front of that character. -/
theorem prefix_of_notMem {numeral : List Char} (h : numeral <+: front ++ c :: rest)
    (hc : c ∉ numeral) : numeral <+: front := by
  by_cases hlength : numeral.length ≤ front.length
  · exact List.prefix_of_prefix_length_le h (List.prefix_append _ _) hlength
  · have hpast : front ++ [c] <+: front ++ c :: rest := by simp
    have hcovers : front ++ [c] <+: numeral := by
      apply List.prefix_of_prefix_length_le hpast h
      rw [List.length_append, List.length_singleton]
      omega
    exact absurd (hcovers.subset (by simp)) hc

theorem skipBlanks_append_cons (hb : Text.isBlank c = false) (front rest : List Char) :
    skipBlanks (front ++ c :: rest) = skipBlanks front ++ c :: rest := by
  have hskip : skipBlanks (c :: rest) = c :: rest := skipBlanks_cons hb rest
  unfold skipBlanks at hskip ⊢
  rw [List.dropWhile_append, hskip]
  split
  · rename_i hempty
    rw [List.isEmpty_iff.mp hempty, List.nil_append]
  · rfl

/-- A float that is read in front of a character that is no part of numbers has a point there. -/
theorem point_of_readBound {x : Binary64} {left : List Char} (hc : ¬ Numeral.IsPart c)
    (hb : Text.isBlank c = false)
    (h : readBound mark (front ++ c :: rest) = .ok (some (.float x), left)) : '.' ∈ front := by
  unfold readBound at h
  rw [skipBlanks_append_cons hb] at h
  dsimp only at h
  split at h
  · cases h
  · split at h
    · rename_i n length hfront
      cases h
      obtain ⟨numeral, hnumeral, hpoint⟩ := Number.point_of_atFront? hfront
      have hnone : c ∉ numeral := fun hin => hc (Numeral.isPart_of_mem_longest? hnumeral hin)
      have hwithin := prefix_of_notMem (Numeral.longest?_prefix hnumeral) hnone
      exact (List.dropWhile_suffix _).subset (hwithin.subset hpoint)
    · cases h

/-- A bound that is read back from its own text is written with a point if it is a float. -/
theorem pointed_of_readBound {e : Endpoint} {left : List Char} (hc : ¬ Numeral.IsPart c)
    (hb : Text.isBlank c = false)
    (h : readBound mark (e.boundChars mark ++ c :: rest) = .ok (e.number, left)) : e.Pointed := by
  obtain ⟨number, isOpen⟩ := e
  intro n hn hkind
  obtain rfl := hn
  cases n with
  | int n => cases hkind
  | float x => exact point_of_readBound hc hb h

/-- What reading two endpoints reads, step by step. -/
theorem readEndpoints_ok {cs : List Char} {lower upper : Endpoint}
    (h : readEndpoints cs = .ok (lower, upper)) : ∃ left cs₁ cs₂ comma cs₃ cs₄,
      readOne ['[', ']'] cs = .ok (left, cs₁) ∧
        readBound "-inf".toList cs₁ = .ok (lower.number, cs₂) ∧
        readOne [','] cs₂ = .ok (comma, cs₃) ∧
        readBound "+inf".toList cs₃ = .ok (upper.number, cs₄) := by
  obtain ⟨⟨left, cs₁⟩, hleft, h⟩ := bind_ok.mp h
  obtain ⟨⟨low, cs₂⟩, hlow, h⟩ := bind_ok.mp h
  obtain ⟨⟨comma, cs₃⟩, hcomma, h⟩ := bind_ok.mp h
  obtain ⟨⟨high, cs₄⟩, hhigh, h⟩ := bind_ok.mp h
  obtain ⟨⟨right, cs₅⟩, hright, h⟩ := bind_ok.mp h
  dsimp only at h
  split at h
  · cases h
    exact ⟨left, cs₁, cs₂, comma, cs₃, cs₄, hleft, hlow, hcomma, hhigh⟩
  · cases h

/-- Endpoints that are read back from their own text are written with points. -/
theorem pointed_of_readEndpoints {lower upper : Endpoint}
    (h : readEndpoints (charsOf lower upper) = .ok (lower, upper)) :
    lower.Pointed ∧ upper.Pointed := by
  have hblank : ∀ c ∈ ([] : List Char), Text.isBlank c = true := List.forall_mem_nil _
  obtain ⟨left, cs₁, cs₂, comma, cs₃, cs₄, hleft, hlow, hcomma, hhigh⟩ := readEndpoints_ok h
  rw [charsOf_eq_around] at hleft
  cases hleft.symm.trans (readOne_bracket hblank lower.leftBracket_mem _)
  have hl : lower.Pointed := pointed_of_readBound (by decide) (by decide) hlow
  -- The upper bound is where it is only if the lower one has been read to its end.
  have hends := endsNumber_blanks Padding.none.afterLow (c := ',') (by decide)
  cases hlow.symm.trans (readBound_endpoint hblank (by decide) hl (hends _))
  cases hcomma.symm.trans (readOne_token hblank (by decide) (by decide) _)
  obtain ⟨hb, hc⟩ := bracket_plain upper.rightBracket_mem
  exact ⟨hl, pointed_of_readBound hc hb hhigh⟩

/-- The text of an interval is read as that interval exactly when all its floats are written with a
point. -/
theorem parse_text_iff (i : Interval) :
    parse i.text = .ok i ↔ i.lower.Pointed ∧ i.upper.Pointed := by
  unfold parse text
  rw [String.toList_ofList]
  constructor
  · intro h
    cases hread : readEndpoints (charsOf i.lower i.upper) with
    | error left =>
      rw [hread] at h
      cases h
    | ok ends =>
      obtain ⟨lower, upper⟩ := ends
      rw [hread] at h
      obtain ⟨hl, hu⟩ := between_ok h
      rw [← hl, ← hu] at hread
      exact pointed_of_readEndpoints hread
  · intro h
    rw [charsOf_eq_around, readEndpoints_around .none h.1 h.2]
    exact between_endpoints i

/-- A great float is written as a digit with an exponent, and an infinity by its name, which is no
number and on the lower side marks that there is no bound. -/
theorem text_misread :
    (∃ i, parse "[0.,10000000000000000.]" = .ok i ∧ i.text = "[0.0,1e16]" ∧
      (parse i.text).toOption = none) ∧
    ∃ i, parse "[-1.e400,0.]" = .ok i ∧ i.text = "[-inf,0.0]" ∧ i.lower.number ≠ none ∧
      (parse i.text).toOption.map (·.lower.number) = some none :=
  ⟨exists_ok (by decide +kernel), exists_ok (by decide +kernel)⟩

end ConfigRules.Interval
