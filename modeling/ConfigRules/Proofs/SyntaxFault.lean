import ConfigRules.Condition.Basic
import ConfigRules.Interval.Reader
import ConfigRules.Proofs.Condition.Refusal

/-!
Faults of syntax. A condition or an interval that cannot be read breaks off at a place in its text,
and the line that is shown under the text marks that place.
-/

namespace ConfigRules

namespace Text

variable (text : String) (position : Nat)

theorem length_caretLine :
    (caretLine text position).length = max text.length (position + 1) := by
  unfold caretLine
  simp only [String.length_ofList, List.length_append, List.length_replicate, List.length_cons]
  omega

/-- A caret at the position and dashes everywhere else. -/
theorem caretLine_getElem? {i : Nat} (h : i < max text.length (position + 1)) :
    (caretLine text position).toList[i]? = some (if i = position then '^' else '-') := by
  unfold caretLine
  rw [String.toList_ofList]
  rcases Nat.lt_trichotomy i position with hlt | rfl | hgt
  · rw [List.getElem?_append_left (by simpa using hlt), if_neg (Nat.ne_of_lt hlt)]
    simp [hlt]
  · simp
  · obtain ⟨k, rfl⟩ := Nat.exists_eq_add_of_lt hgt
    have hk : k < text.length - (position + 1) := by omega
    rw [List.getElem?_append_right (by simp; omega), if_neg (Nat.ne_of_gt hgt)]
    simp [Nat.add_assoc, hk]

end Text

/-- The fault is at the end of a text, or at a place where the text has its token. -/
structure SyntaxFault.FoundIn (text : String) (f : SyntaxFault) : Prop where
  text_eq : f.text = text
  found : (f.token = none ∧ f.position = text.length) ∨
    ∃ token, f.token = some token ∧ token ≠ "" ∧ token.toList <+: text.toList.drop f.position

namespace Condition

variable {source : String} {fault : SyntaxFault}

theorem Token.all_error (h : Token.all source = .error fault) : fault.FoundIn source := by
  unfold Token.all at h
  split at h
  · cases h
  · rename_i position length hmisfit
    cases h
    have hlength : 0 < length := (allFrom_misfit rfl hmisfit).1
    have hposition : position < source.toList.length := (allFrom_misfit rfl hmisfit).2
    refine ⟨rfl, .inr ⟨_, rfl, ?_, ?_⟩⟩
    · rw [Ne, ← String.toList_eq_nil_iff, String.toList_ofList, List.take_eq_nil_iff,
        List.drop_eq_nil_iff, not_or]
      exact ⟨Nat.ne_of_gt hlength, Nat.not_le_of_lt hposition⟩
    · rw [String.toList_ofList]
      exact List.take_prefix length _

theorem refusal_found {tokens : List Token} {refused : Option Token}
    (h : Token.all source = .ok tokens) (hr : Parser.parse tokens = .error refused) :
    (refusal source refused).FoundIn source := by
  cases refused with
  | none => exact ⟨rfl, .inl ⟨rfl, rfl⟩⟩
  | some t =>
    obtain ⟨before, after, _, rfl, hhead, _⟩ := Parser.parse_refused hr
    have ht : t ∈ before ++ after := List.mem_append_right _ (List.mem_of_mem_head? hhead)
    have hanchored := Token.all_anchored h t ht
    exact ⟨rfl, .inr ⟨t.text, rfl, fun he => hanchored.ne_nil (he ▸ rfl), hanchored.stands⟩⟩

theorem parse_error_found (h : Condition.parse source = .error fault) : fault.FoundIn source := by
  rcases bind_error.mp h with hformula | ⟨f, _, hf⟩
  · rcases Formula.parse_error.mp hformula with hnone | ⟨tokens, refused, hall, hparse, rfl⟩
    · exact Token.all_error hnone
    · exact refusal_found hall hparse
  · cases hf

end Condition

/-- What is left of a text begins where the rest of it does. -/
theorem SyntaxFault.atRest_found {text : String} {rest : List Char} (h : rest <:+ text.toList) :
    (atRest text rest).FoundIn text := by
  refine ⟨rfl, ?_⟩
  cases rest with
  | nil => exact .inl ⟨rfl, Nat.sub_zero _⟩
  | cons c rest =>
    refine .inr ⟨String.ofList [c], rfl, by simp, ?_⟩
    have hdrop : text.toList.drop (text.length - (c :: rest).length) = c :: rest := by
      rw [← String.length_toList]
      exact (List.suffix_iff_eq_drop.mp h).symm
    simp only [atRest, hdrop, String.toList_ofList]
    exact List.cons_prefix_cons.mpr ⟨rfl, List.nil_prefix⟩

namespace Interval

variable {α β : Type} {cs cs' : List Char}

/-- What a step leaves of its text is an end of it, whether it succeeds or fails. -/
structure Step.Leaves (s : Step α) : Prop where
  ok : ∀ {cs x rest}, s cs = .ok (x, rest) → rest <:+ cs
  error : ∀ {cs rest}, s cs = .error rest → rest <:+ cs

/-- A reading of a text that fails does so at an end of it. -/
def FailsWithin (cs : List Char) (x : Except (List Char) α) : Prop :=
  ∀ rest, x = .error rest → rest <:+ cs

theorem Step.Leaves.bind {s : Step β} {f : β × List Char → Except (List Char) α} (hs : s.Leaves)
    (hcs : cs' <:+ cs) (hf : ∀ x rest, rest <:+ cs → FailsWithin cs (f (x, rest))) :
    FailsWithin cs (s cs' >>= f) := by
  intro rest h
  rcases bind_error.mp h with hfail | ⟨⟨x, left⟩, hok, h⟩
  · exact (hs.error hfail).trans hcs
  · exact hf x left ((hs.ok hok).trans hcs) rest h

theorem skipBlanks_suffix (cs : List Char) : skipBlanks cs <:+ cs := List.dropWhile_suffix _

theorem readOne_leaves (allowed : List Char) : Step.Leaves (readOne allowed) := by
  constructor
  · intro cs c rest h
    unfold readOne at h
    split at h
    · rename_i hskip
      split at h <;> cases h
      exact (List.suffix_cons c rest).trans (hskip ▸ skipBlanks_suffix cs)
    · cases h
  · intro cs rest h
    unfold readOne at h
    split at h
    · rename_i hskip
      split at h <;> cases h
      exact hskip ▸ skipBlanks_suffix cs
    · cases h
      exact List.nil_suffix

theorem readBound_leaves (unbounded : List Char) : Step.Leaves (readBound unbounded) := by
  constructor
  · intro cs n rest h
    unfold readBound at h
    dsimp only at h
    split at h
    · cases h
      exact (List.drop_suffix _ _).trans (skipBlanks_suffix cs)
    · split at h <;> cases h
      exact (List.drop_suffix _ _).trans (skipBlanks_suffix cs)
  · intro cs rest h
    unfold readBound at h
    dsimp only at h
    split at h
    · cases h
    · split at h <;> cases h
      exact skipBlanks_suffix cs

theorem readEndpoints_failsWithin (cs : List Char) : FailsWithin cs (readEndpoints cs) := by
  refine (readOne_leaves _).bind (List.suffix_refl cs) fun left afterLeft hleft => ?_
  refine (readBound_leaves _).bind hleft fun low afterLow hlow => ?_
  refine (readOne_leaves _).bind hlow fun _ afterComma hcomma => ?_
  refine (readBound_leaves _).bind hcomma fun high afterHigh hhigh => ?_
  refine (readOne_leaves _).bind hhigh fun right afterRight hright => ?_
  intro rest h
  dsimp only at h
  split at h
  · cases h
  · cases h
    exact (skipBlanks_suffix afterRight).trans hright

theorem parse_error_found {text : String} {fault : SyntaxFault}
    (h : Interval.parse text = .error (.malformed fault)) : fault.FoundIn text := by
  unfold Interval.parse at h
  split at h
  · unfold between at h
    split at h <;> cases h
  · rename_i rest hrest
    cases h
    exact SyntaxFault.atRest_found (readEndpoints_failsWithin _ rest hrest)

end Interval

/-- Faults point into the text that they quote. Where a condition or an interval cannot be read, the
fault quotes the whole text, and it is either at the end or at a place where the text goes on with
the fault's token, which is not empty. So the line under the text has one caret, at that place, and
dashes otherwise. -/
theorem SyntaxFault.found_marked {text : String} {f : SyntaxFault}
    (h : Condition.parse text = .error f ∨ Interval.parse text = .error (.malformed f)) :
    f.FoundIn text ∧
      (Text.caretLine f.text f.position).length = max text.length (f.position + 1) ∧
      ∀ i < max text.length (f.position + 1), (Text.caretLine f.text f.position).toList[i]? =
        some (if i = f.position then '^' else '-') := by
  have hfound : f.FoundIn text := h.elim Condition.parse_error_found Interval.parse_error_found
  rw [hfound.text_eq]
  refine ⟨hfound, Text.length_caretLine text f.position, ?_⟩
  intro i hi
  exact Text.caretLine_getElem? text f.position hi

/-- A condition that ends too early, and an interval with a bound that is no number. -/
theorem SyntaxFault.found_marked_early :
    (∃ f, Condition.parse "not ({a} == 1" = .error f ∧ f.token = none ∧
      f.FoundIn "not ({a} == 1" ∧ (Text.caretLine f.text f.position).length = 14 ∧
      Text.caretLine f.text f.position = "-------------^") ∧
    ∃ f, Interval.parse "[0, x]" = .error (.malformed f) ∧ f.token = some "x" ∧
      f.FoundIn "[0, x]" ∧ (Text.caretLine f.text f.position).length = 6 ∧
      Text.caretLine f.text f.position = "----^-" := by
  obtain ⟨f, hcondition, rfl⟩ : ∃ f, Condition.parse "not ({a} == 1" = .error f ∧
      f = .atEnd "not ({a} == 1" := exists_error_of (by decide +kernel)
  have hinterval : Interval.parse "[0, x]" = .error (.malformed ⟨some "x", "[0, x]", 4⟩) := rfl
  obtain ⟨hfound, hlength, _⟩ := found_marked (.inl hcondition)
  obtain ⟨hfound', hlength', _⟩ := found_marked (.inr hinterval)
  exact ⟨⟨_, hcondition, rfl, hfound, hlength, rfl⟩, ⟨_, hinterval, rfl, hfound', hlength', rfl⟩⟩

end ConfigRules
