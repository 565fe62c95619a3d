import ConfigRules.Proofs.Condition.Scan

/-!
Texts between quotes. Every text can be put between quotes of either kind, with a backslash before
each such quote and each backslash in it. It is then the first token of whatever begins so, and the
rest goes on behind it as it would alone.
-/

namespace ConfigRules.Condition.Token

/-- The token so many characters further on. -/
def shift (k : Nat) (t : Token) : Token := { t with position := t.position + k }

def Misfit.shift (k : Nat) (m : Misfit) : Misfit := { m with position := m.position + k }

/-- A character as it stands between quotes. -/
def literalChar (quote c : Char) : List Char := if c = quote ∨ c = '\\' then ['\\', c] else [c]

def literalBody (quote : Char) (s : String) : List Char := s.toList.flatMap (literalChar quote)

/-- A text between quotes. -/
def literal (quote : Char) (s : String) : String :=
  String.ofList (quote :: (literalBody quote s ++ [quote]))

variable {quote : Char}

/-- Where a text stands changes the positions of its tokens only. -/
theorem allFrom_shift (k position : Nat) (cs : List Char) :
    allFrom (position + k) cs =
      ((allFrom position cs).map (List.map (shift k))).mapError (Misfit.shift k) := by
  fun_induction allFrom position cs with
  | case1 =>
    rw [allFrom]
    rfl
  | case2 position c cs hblank ih => rw [allFrom, if_pos hblank, ← ih, Nat.add_right_comm]
  | case3 position c cs hblank length hfirst =>
    rw [allFrom, if_neg hblank, hfirst]
    rfl
  | case4 position c cs hblank lexeme n hfirst ih =>
    have hbehind : position + k + n + 1 = position + n + 1 + k := by omega
    rw [allFrom, if_neg hblank, hfirst]
    dsimp only
    rw [hbehind, ih]
    cases allFrom (position + n + 1) (cs.drop n) <;> rfl

theorem quotedBody?_literalChar (hquote : quote = '"' ∨ quote = '\'') (c : Char)
    (rest : List Char) : quotedBody? quote (literalChar quote c ++ rest) =
      (quotedBody? quote rest).map fun (body, n) =>
        (c :: body, n + (literalChar quote c).length) := by
  have hescape : '\\' ≠ quote := by rcases hquote with rfl | rfl <;> decide
  unfold literalChar
  split
  · rename_i hc
    have hself : unescape c = c := by
      rcases hc with rfl | rfl
      · rcases hquote with rfl | rfl <;> rfl
      · rfl
    simp [quotedBody?, hescape, hself]
  · rename_i hc
    rw [not_or] at hc
    rw [List.singleton_append, quotedBody?.eq_def]
    simp [hc]

theorem first_literal (hquote : quote = '"' ∨ quote = '\'') (s : String) (rest : List Char) :
    first quote (literalBody quote s ++ [quote] ++ rest) =
      .ok (.text s, (literalBody quote s ++ [quote]).length) := by
  have hbody := quotedBody?_flatMap
    (fun c (_ : c ∈ s.toList) => quotedBody?_literalChar hquote c) rest
  have hfirst : first quote = quotedText quote := by
    funext cs
    rcases hquote with rfl | rfl <;> simp [first]
  rw [hfirst, quotedText, List.append_assoc, List.singleton_append, literalBody, hbody]
  simp

theorem allFrom_literal (hquote : quote = '"' ∨ quote = '\'') (s rest : String) :
    allFrom 0 (literal quote s ++ rest).toList =
      (⟨.text s, literal quote s, 0⟩ :: ·) <$>
        ((allFrom 0 rest.toList).map (List.map (shift (literal quote s).length))).mapError
          (Misfit.shift (literal quote s).length) := by
  have hblank : Text.isBlank quote = false := by rcases hquote with rfl | rfl <;> decide
  have hchars : (literal quote s ++ rest).toList =
      quote :: (literalBody quote s ++ [quote]) ++ rest.toList := by
    simp [literal]
  have hlength : (literal quote s).length = (literalBody quote s ++ [quote]).length + 1 := by
    rw [literal, String.length_ofList, List.length_cons]
  rw [← allFrom_shift, hchars, allFrom_token _ hblank (first_literal hquote s _), hlength,
    Nat.add_assoc]
  rfl

/-- A text between quotes is the first token where it stands in front. The tokens of the rest follow
it, and what does not fit in the rest does not fit there either. -/
theorem all_literal (hquote : quote = '"' ∨ quote = '\'') (s rest : String) :
    (∀ tokens, all rest = .ok tokens → all (literal quote s ++ rest) =
        .ok (⟨.text s, literal quote s, 0⟩ :: tokens.map (shift (literal quote s).length))) ∧
      ∀ fault, all rest = .error fault → all (literal quote s ++ rest) =
        .error ⟨fault.token, literal quote s ++ rest,
          fault.position + (literal quote s).length⟩ := by
  have hdrop : ∀ position, (literal quote s ++ rest).toList.drop
      (position + (literal quote s).length) = rest.toList.drop position := by
    intro position
    rw [String.toList_append, Nat.add_comm, ← String.length_toList, ← List.drop_drop,
      List.drop_left]
  unfold all
  rw [allFrom_literal hquote]
  cases allFrom 0 rest.toList with
  | ok tokens =>
    refine ⟨?_, nofun⟩
    rintro _ ⟨⟩
    rfl
  | error m =>
    refine ⟨nofun, ?_⟩
    rintro _ ⟨⟩
    rw [← hdrop]
    rfl

/-- A quote and a backslash within quotes, before a number and before a brace that stays open. -/
theorem all_literal_nested : literal '\'' "a'\\" = "'a\\'\\\\'" ∧
    all "'a\\'\\\\'<-1" = .ok [⟨.text "a'\\", "'a\\'\\\\'", 0⟩, ⟨.relation .lt, "<", 7⟩,
      ⟨.number (.int (-1)), "-1", 8⟩] ∧
    all "'a\\'\\\\'\x7ba" = .error ⟨some "\x7ba", "'a\\'\\\\'\x7ba", 7⟩ := by
  have hquote : '\'' = '"' ∨ '\'' = '\'' := .inr rfl
  have hnumber : all "<-1" = .ok [⟨.relation .lt, "<", 0⟩, ⟨.number (.int (-1)), "-1", 1⟩] := by
    decide +kernel
  have hbrace : all "\x7ba" = .error ⟨some "\x7ba", "\x7ba", 0⟩ := by decide +kernel
  exact ⟨by decide +kernel, (all_literal hquote "a'\\" "<-1").1 _ hnumber,
    (all_literal hquote "a'\\" "\x7ba").2 _ hbrace⟩

end ConfigRules.Condition.Token
