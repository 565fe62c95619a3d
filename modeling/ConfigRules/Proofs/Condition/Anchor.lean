import ConfigRules.Condition.Formula
import ConfigRules.Proofs.Condition.Token

/-!
Where tokens stand. Each is found in the source at its own position, they come one after another,
and what does not fit is found where the tokens break off.
-/

namespace ConfigRules.Condition.Token

/-- The source has the token's text at the token's position. That of an item is its path in
braces. -/
structure Anchored (source : List Char) (t : Token) : Prop where
  ne_nil : t.text.toList ≠ []
  stands : t.text.toList <+: source.drop t.position
  item : ∀ path, t.lexeme = .item path → t.text.toList = Formula.bracedChars ⟨path⟩

variable {source cs : List Char} {c : Char} {position n : Nat} {lexeme : Lexeme}
  {tokens : List Token} {t : Token}

theorem Anchored.lt_length (h : t.Anchored source) : t.position < source.length := by
  by_contra hle
  have hend : source.drop t.position = [] := List.drop_eq_nil_of_le (Nat.le_of_not_lt hle)
  have hnil := h.stands
  rw [hend] at hnil
  exact h.ne_nil (List.prefix_nil.mp hnil)

/-- What is left behind the first token. -/
theorem drop_first (hat : source.drop position = c :: cs) (n : Nat) :
    source.drop (position + n + 1) = cs.drop n := by
  rw [Nat.add_assoc, ← List.drop_drop, hat, List.drop_succ_cons]

theorem anchored_first (hat : source.drop position = c :: cs)
    (h : first c cs = .ok (lexeme, n)) :
    Anchored source ⟨lexeme, String.ofList (c :: cs.take n), position⟩ := by
  have htext : (String.ofList (c :: cs.take n)).toList = c :: cs.take n := String.toList_ofList
  refine ⟨?_, ?_, ?_⟩
  · simp
  · rw [htext, hat]
    exact List.cons_prefix_cons.mpr ⟨rfl, List.take_prefix n cs⟩
  · rintro path rfl
    rw [htext]
    by_cases hc : c = '\x7b'
    · subst hc
      obtain ⟨chars, rest, rfl, _, _, hitem, rfl⟩ := item_ok h
      obtain rfl := Lexeme.item.inj hitem
      simp [Formula.bracedChars, List.take_append]
    · cases (first_other h hc).1

theorem allFrom_anchored (hat : source.drop position = cs)
    (h : allFrom position cs = .ok tokens) : ∀ t ∈ tokens, t.Anchored source := by
  fun_induction allFrom position cs generalizing tokens with
  | case1 =>
    cases h
    exact List.forall_mem_nil _
  | case2 position c cs _ ih => exact ih (drop_first hat 0) h
  | case3 => cases h
  | case4 position c cs _ lexeme n hfirst ih =>
    obtain ⟨rest, hrest, h⟩ := bind_ok.mp h
    cases pure_ok.mp h
    rw [List.forall_mem_cons]
    exact ⟨anchored_first hat hfirst, ih (drop_first hat n) hrest⟩

/-- Every token comes behind those before it. -/
theorem allFrom_ordered (h : allFrom position cs = .ok tokens) :
    (∀ t ∈ tokens, position ≤ t.position) ∧
      tokens.Pairwise fun t u => t.position < u.position := by
  fun_induction allFrom position cs generalizing tokens with
  | case1 =>
    cases h
    exact ⟨List.forall_mem_nil _, .nil⟩
  | case2 position c cs _ ih =>
    obtain ⟨hle, hlt⟩ := ih h
    exact ⟨fun t ht => Nat.le_of_succ_le (hle t ht), hlt⟩
  | case3 => cases h
  | case4 position c cs _ lexeme n hfirst ih =>
    obtain ⟨rest, hrest, h⟩ := bind_ok.mp h
    cases pure_ok.mp h
    obtain ⟨hle, hlt⟩ := ih hrest
    have hbehind : ∀ t ∈ rest, position < t.position := by
      intro t ht
      have := hle t ht
      omega
    rw [List.forall_mem_cons]
    exact ⟨⟨Nat.le_refl _, fun t ht => Nat.le_of_lt (hbehind t ht)⟩, .cons hbehind hlt⟩

theorem number_error (h : number c cs = .error n) : 0 < n := by
  unfold number at h
  split at h <;> cases h
  exact Nat.succ_pos _

theorem item_error (h : item cs = .error n) : 0 < n := by
  unfold item at h
  dsimp only at h
  split at h
  · cases h
    exact Nat.succ_pos _
  · split at h <;> cases h
    exact Nat.succ_pos _

theorem quotedText_error (h : quotedText c cs = .error n) : 0 < n := by
  unfold quotedText at h
  split at h <;> cases h
  exact Nat.succ_pos _

theorem relation_error (h : relation c cs = .error n) : 0 < n := by
  unfold relation at h
  split at h <;> cases h
  exact Nat.succ_pos _

theorem word_error (h : word c cs = .error n) : 0 < n := by
  unfold word at h
  dsimp only at h
  split at h <;> cases h
  exact Nat.succ_pos _

/-- One character at least does not fit. -/
theorem first_error (h : first c cs = .error n) : 0 < n := by
  revert h
  apply first_cases (motive := fun r => r = .error n → 0 < n)
  case openParen | closeParen | comma => exact fun _ h => nomatch h
  case brace => exact fun _ => item_error
  case quote => exact fun _ => quotedText_error
  case mark => exact fun _ => relation_error
  case digit | sign => exact fun _ => number_error
  case letter => exact fun _ => word_error
  case other =>
    rintro ⟨⟩
    exact Nat.succ_pos _

/-- Tokens break off within the source, at one character or more. -/
theorem allFrom_misfit {m : Misfit} (hat : source.drop position = cs)
    (h : allFrom position cs = .error m) : 0 < m.length ∧ m.position < source.length := by
  fun_induction allFrom position cs with
  | case1 => cases h
  | case2 position c cs _ ih => exact ih (drop_first hat 0) h
  | case3 position c cs _ length hfirst =>
    cases h
    refine ⟨first_error hfirst, ?_⟩
    by_contra hle
    cases (List.drop_eq_nil_of_le (Nat.le_of_not_lt hle)).symm.trans hat
  | case4 position c cs _ lexeme n hfirst ih =>
    rcases bind_error.mp h with hrest | ⟨rest, _, h⟩
    · exact ih (drop_first hat n) hrest
    · cases h

theorem all_anchored {source : String} (h : all source = .ok tokens) :
    ∀ t ∈ tokens, t.Anchored source.toList :=
  allFrom_anchored rfl (all_ok.mp h)

theorem all_ordered {source : String} (h : all source = .ok tokens) :
    tokens.Pairwise fun t u => t.position < u.position :=
  (allFrom_ordered (all_ok.mp h)).2

end ConfigRules.Condition.Token
