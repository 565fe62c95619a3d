import ConfigRules.Condition.Formula
import ConfigRules.Proofs.Condition.Token
import ConfigRules.Proofs.Integer

/-!
Texts that are put together from the texts of tokens. Each piece gives its token and leaves what is
behind it, as long as that does not go on with the piece.
-/

namespace ConfigRules

/-- Printable ASCII, a tab or a line feed. -/
def Text.Printable (c : Char) : Prop := c = '\t' ∨ c = '\n' ∨ (0x20 ≤ c.toNat ∧ c.toNat ≤ 0x7e)

instance : DecidablePred Text.Printable := fun _ => inferInstanceAs (Decidable (_ ∨ _ ∨ _))

namespace Condition.Token

/-- The front of a text has these lexemes, wherever it stands, and then the rest goes on. -/
def Yields (cs : List Char) (lexemes : List Lexeme) (rest : List Char) : Prop :=
  ∀ position, ∃ tokens after, tokens.map lexeme = lexemes ∧
    allFrom position cs = (tokens ++ ·) <$> allFrom after rest

/-- No number and no word goes on here. -/
def Ends (rest : List Char) : Prop := ∀ c ∈ rest.head?, c = ' ' ∨ c = ')' ∨ c = ','

variable {c : Char} {cs mid rest : List Char} {l : Lexeme} {ls ms : List Lexeme}

theorem Yields.trans (h : Yields cs ls mid) (hr : Yields mid ms rest) :
    Yields cs (ls ++ ms) rest := by
  intro position
  obtain ⟨ts, middle, rfl, hts⟩ := h position
  obtain ⟨us, after, rfl, hus⟩ := hr middle
  refine ⟨ts ++ us, after, List.map_append, ?_⟩
  rw [hts, hus]
  cases allFrom after rest <;> simp

/-- A space yields nothing. -/
theorem Yields.space (h : Yields cs ls rest) : Yields (' ' :: cs) ls rest := by
  intro position
  obtain ⟨ts, after, hts, hall⟩ := h (position + 1)
  refine ⟨ts, after, hts, ?_⟩
  rw [allFrom, if_pos (by decide), hall]

/-- A token is read from its characters, and then the rest goes on behind them. -/
theorem allFrom_token (cs : List Char) (hb : Text.isBlank c = false)
    (h : first c (cs ++ rest) = .ok (l, cs.length)) (position : Nat) :
    allFrom position (c :: cs ++ rest) =
      (⟨l, String.ofList (c :: cs), position⟩ :: ·) <$>
        allFrom (position + cs.length + 1) rest := by
  rw [List.cons_append, allFrom, if_neg (by simp [hb]), h]
  simp only [List.take_left, List.drop_left]
  cases allFrom (position + cs.length + 1) rest <;> rfl

/-- The characters of one token yield it. -/
theorem Yields.one (cs : List Char) (hb : Text.isBlank c = false)
    (h : first c (cs ++ rest) = .ok (l, cs.length)) : Yields (c :: cs ++ rest) [l] rest :=
  fun position =>
    ⟨[⟨l, String.ofList (c :: cs), position⟩], _, rfl, allFrom_token cs hb h position⟩

theorem Yields.all (h : Yields cs ls []) :
    ∃ tokens, all (String.ofList cs) = .ok tokens ∧ tokens.map lexeme = ls := by
  obtain ⟨tokens, after, hls, hall⟩ := h 0
  refine ⟨tokens, all_ok.mpr ?_, hls⟩
  rw [String.toList_ofList, hall, allFrom]
  simp

theorem yields_openParen : Yields ('(' :: rest) [.openParen] rest := .one [] (by decide) rfl

theorem yields_closeParen : Yields (')' :: rest) [.closeParen] rest := .one [] (by decide) rfl

theorem yields_comma : Yields (',' :: rest) [.comma] rest := .one [] (by decide) rfl

theorem yields_relation (r : Relation) :
    Yields (r.symbol.toList ++ ' ' :: rest) [.relation r] (' ' :: rest) := by
  cases r <;> exact .one _ (by decide) rfl

theorem ends_nil : Ends [] := by simp [Ends]

theorem ends_space (rest : List Char) : Ends (' ' :: rest) := by simp [Ends]

theorem ends_closeParen (rest : List Char) : Ends (')' :: rest) := by simp [Ends]

theorem ends_comma (rest : List Char) : Ends (',' :: rest) := by simp [Ends]

theorem Ends.integer (h : Ends rest) : Numeral.EndsInteger rest := by
  intro c hc
  rcases h c hc with rfl | rfl | rfl <;> decide

theorem Ends.word (h : Ends rest) : ∀ c ∈ rest.head?, isWordChar c = false := by
  intro c hc
  rcases h c hc with rfl | rfl | rfl <;> decide

theorem word_eq (hw : keyword? (String.ofList (c :: cs)) = some l)
    (hcs : cs.all isWordChar = true) (h : Ends rest) :
    word c (cs ++ rest) = .ok (l, cs.length) := by
  have htail : (cs ++ rest).takeWhile isWordChar = cs := by
    rw [List.takeWhile_append_of_pos (List.all_eq_true.mp hcs)]
    cases rest with
    | nil => simp
    | cons d rest => rw [List.takeWhile_cons_of_neg (by simp [h.word d rfl]), List.append_nil]
  unfold word
  simp only [htail, hw]

theorem yields_keyword {w : String} (hw : keyword? w = some l) (h : Ends rest) :
    Yields (w.toList ++ rest) [l] rest := by
  unfold keyword? at hw
  split at hw <;> cases hw <;> exact .one _ (by decide) (word_eq rfl rfl h)

theorem first_digit (h : c.isDigit = true) : first c cs = number c cs := by
  have hne : ∀ d : Char, d.isDigit = false → c ≠ d := by
    rintro d hd rfl
    cases hd.symm.trans h
  unfold first
  rw [if_neg (hne _ rfl), if_neg (hne _ rfl), if_neg (hne _ rfl), if_neg (hne _ rfl),
    if_neg (by simp [hne]), if_neg (by simp [hne]), if_pos h]

theorem first_minus (h : c.isDigit = true) : first '-' (c :: cs) = number '-' (c :: cs) := by
  simp [first, h]

theorem yields_int (n : Int64) (h : Ends rest) :
    Yields ((Number.int n).chars ++ rest) [.number (.int n)] rest := by
  have hfront := Number.atFront?_int n h.integer
  obtain ⟨c, cs, hcs, hb, hfirst⟩ : ∃ c cs, (Number.int n).chars = c :: cs ∧
      Text.isBlank c = false ∧ first c (cs ++ rest) = number c (cs ++ rest) := by
    obtain ⟨d, ds, hds, hd⟩ := Numeral.toDigits_cons n.toInt.natAbs
    have hchars : (Number.int n).chars = Numeral.ofInt n.toInt := rfl
    rw [hchars, Numeral.ofInt, hds]
    split
    · exact ⟨'-', d :: ds, rfl, by decide, first_minus hd⟩
    · exact ⟨d, ds, rfl, Text.isBlank_of_isDigit hd, first_digit hd⟩
  rw [hcs] at hfront ⊢
  refine .one cs hb ?_
  rw [hfirst]
  unfold number
  rw [← List.cons_append, hfront]
  rfl

theorem Yields.keyword {w : String} {l : Lexeme} (hw : keyword? w = some l)
    (h : Yields cs ls rest) : Yields (w.toList ++ ' ' :: cs) (l :: ls) rest :=
  (yields_keyword hw (ends_space _)).trans h.space

theorem Yields.relation (r : Relation) (h : Yields cs ls rest) :
    Yields (r.symbol.toList ++ ' ' :: cs) (.relation r :: ls) rest :=
  (yields_relation r).trans h.space

theorem quotedBody?_escapeChar (hc : Text.Printable c) :
    quotedBody? '"' (Text.escapeChar c ++ rest) =
      (quotedBody? '"' rest).map fun (body, n) => (c :: body, n + (Text.escapeChar c).length) := by
  unfold Text.escapeChar
  split
  · exact absurd hc (by decide)
  · rfl
  · rfl
  · exact absurd hc (by decide)
  · rfl
  · rfl
  · -- every other printable character stands for itself
    rename_i htab hline _ hquote hescape
    have hself : Text.isVisible c = true := by
      have hcode : 0x20 ≤ c.toNat ∧ c.toNat ≤ 0x7e := by
        rcases hc with rfl | rfl | hcode
        · exact absurd rfl htab
        · exact absurd rfl hline
        · exact hcode
      unfold Text.isVisible
      rw [if_pos (by omega)]
      simp
      omega
    rw [if_pos hself, List.singleton_append, quotedBody?.eq_def]
    dsimp only
    rw [if_neg hquote, if_neg hescape]
    rfl

/-- A text in quotes is read back, if that holds of each of its characters. -/
theorem quotedBody?_flatMap {quote : Char} {escape : Char → List Char}
    (h : ∀ c ∈ cs, ∀ rest, quotedBody? quote (escape c ++ rest) =
      (quotedBody? quote rest).map fun (body, n) => (c :: body, n + (escape c).length))
    (rest : List Char) : quotedBody? quote (cs.flatMap escape ++ quote :: rest) =
      some (cs, (cs.flatMap escape).length + 1) := by
  induction cs with
  | nil => simp [quotedBody?.eq_def]
  | cons c cs ih =>
    rw [List.flatMap_cons, List.append_assoc, h c List.mem_cons_self,
      ih fun d hd => h d (List.mem_cons_of_mem _ hd)]
    simp
    omega

theorem quotedBody?_escaped (hcs : ∀ c ∈ cs, Text.Printable c) (rest : List Char) :
    quotedBody? '"' (cs.flatMap Text.escapeChar ++ '"' :: rest) =
      some (cs, (cs.flatMap Text.escapeChar).length + 1) :=
  quotedBody?_flatMap (fun c hc _ => quotedBody?_escapeChar (hcs c hc)) rest

theorem yields_text {s : String} (hs : ∀ c ∈ s.toList, Text.Printable c) :
    Yields (Text.quotedChars s.toList ++ rest) [.text s] rest := by
  refine .one (s.toList.flatMap Text.escapeChar ++ ['"']) (by decide) ?_
  have hbody := quotedBody?_escaped hs rest
  simp [first, quotedText, hbody]

theorem item_eq {path : List Char} (hne : path ≠ []) (hclose : '\x7d' ∉ path)
    (rest : List Char) :
    item (path ++ '\x7d' :: rest) = .ok (.item (String.ofList path), path.length + 1) := by
  have hgoes : ∀ d ∈ path, (d != '\x7d') = true := by
    intro d hd
    have hne : d ≠ '\x7d' := fun he => hclose (he ▸ hd)
    simp [hne]
  have hpath : (path ++ '\x7d' :: rest).takeWhile (· != '\x7d') = path := by
    rw [List.takeWhile_append_of_pos hgoes, List.takeWhile_cons_of_neg (by simp), List.append_nil]
  unfold item
  simp [hpath, hne]

theorem yields_item {path : Path} (hne : path.text.toList ≠ [])
    (hclose : '\x7d' ∉ path.text.toList) :
    Yields (Formula.bracedChars path ++ rest) [.item path.text] rest := by
  refine .one (path.text.toList ++ ['\x7d']) (by decide) ?_
  have hitem := item_eq hne hclose rest
  simp [first, hitem]

end Condition.Token

end ConfigRules
