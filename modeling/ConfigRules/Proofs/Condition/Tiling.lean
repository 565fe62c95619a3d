import ConfigRules.Proofs.Condition.Scan
import ConfigRules.Proofs.NumeralPattern

/-!
Tokens and the white space around them make up the whole source. How far a token goes does not
depend on what comes behind it, so its own text has that token and nothing else.
-/

namespace ConfigRules

/-- The number at the front of a text is there without what comes behind it. -/
theorem Number.atFront?_take {cs : List Char} {n : Number} {length : Nat}
    (h : atFront? cs = some (n, length)) :
    0 < length ∧ length ≤ cs.length ∧ atFront? (cs.take length) = some (n, length) := by
  obtain ⟨numeral, hnumeral, hread, rfl⟩ := atFront?_eq_some.mp h
  have hbegins := Numeral.longest?_prefix hnumeral
  refine ⟨List.length_pos_iff.mpr (Numeral.longest?_ne_nil hnumeral), hbegins.length_le, ?_⟩
  rw [← List.prefix_iff_eq_take.mp hbegins]
  exact atFront?_eq_some.mpr ⟨numeral, Numeral.longest?_self hnumeral, hread, rfl⟩

namespace Condition.Token

/-- A way to read the front of a text that finds the same in the characters it takes alone. -/
def StandsAlone (scan : List Char → Except Nat (Lexeme × Nat)) : Prop :=
  ∀ cs lexeme n, scan cs = .ok (lexeme, n) →
    n ≤ cs.length ∧ scan (cs.take n) = .ok (lexeme, n)

variable {c : Char} {cs body : List Char} {lexeme : Lexeme} {n : Nat}

theorem item_alone : StandsAlone item := by
  intro cs lexeme n h
  obtain ⟨path, rest, rfl, hne, hclose, rfl, rfl⟩ := item_ok h
  have htake : (path ++ '\x7d' :: rest).take (path.length + 1) = path ++ ['\x7d'] := by
    rw [List.take_append]
    simp
  refine ⟨by simp, ?_⟩
  rw [htake, item_eq hne hclose]

theorem quotedBody?_alone {quote : Char} (h : quotedBody? quote cs = some (body, n)) :
    n ≤ cs.length ∧ quotedBody? quote (cs.take n) = some (body, n) := by
  fun_induction quotedBody? quote cs generalizing body n with
  | case1 => cases h
  | case2 cs =>
    cases h
    exact ⟨Nat.succ_pos _, by simp [quotedBody?]⟩
  | case3 => cases h
  | case4 d cs hquote ih =>
    obtain ⟨⟨rest, m⟩, hm, hmapped⟩ := Option.map_eq_some_iff.mp h
    cases hmapped
    obtain ⟨hle, halone⟩ := ih hm
    refine ⟨by simpa using hle, ?_⟩
    simp [quotedBody?, hquote, halone]
  | case5 d cs hquote hescape ih =>
    obtain ⟨⟨rest, m⟩, hm, hmapped⟩ := Option.map_eq_some_iff.mp h
    cases hmapped
    obtain ⟨hle, halone⟩ := ih hm
    refine ⟨by simpa using hle, ?_⟩
    rw [List.take_succ_cons, quotedBody?.eq_def]
    simp [hquote, hescape, halone]

theorem quotedText_alone (quote : Char) : StandsAlone (quotedText quote) := by
  intro cs lexeme n h
  unfold quotedText at h
  split at h
  · rename_i body m hbody
    cases h
    obtain ⟨hle, halone⟩ := quotedBody?_alone hbody
    refine ⟨hle, ?_⟩
    unfold quotedText
    rw [halone]
  · cases h

theorem relation_alone (c : Char) : StandsAlone (relation c) := by
  intro cs lexeme n h
  unfold relation at h
  split at h <;> cases h <;> exact ⟨by simp, rfl⟩

theorem number_alone (c : Char) : StandsAlone (number c) := by
  intro cs lexeme n h
  unfold number at h
  split at h
  · rename_i x length hfront
    cases h
    obtain ⟨hpos, hle, halone⟩ := Number.atFront?_take hfront
    obtain ⟨k, rfl⟩ := Nat.exists_eq_add_of_lt hpos
    rw [Nat.zero_add] at *
    refine ⟨by simpa using hle, ?_⟩
    unfold number
    rw [List.take_succ_cons] at halone
    simp [halone]
  · cases h

theorem word_alone (c : Char) : StandsAlone (word c) := by
  intro cs lexeme n h
  unfold word at h
  dsimp only at h
  split at h
  · rename_i hkeyword
    cases h
    have hbegins := List.takeWhile_prefix isWordChar (l := cs)
    refine ⟨hbegins.length_le, ?_⟩
    rw [← List.prefix_iff_eq_take.mp hbegins]
    unfold word
    simp only [List.takeWhile_idem, hkeyword]
  · cases h

theorem first_sign (hc : c = '+' ∨ c = '-') (h : cs.head?.any Char.isDigit = true) :
    first c cs = number c cs := by
  rcases hc with rfl | rfl <;> simp [first, h]

/-- A number that begins with a sign goes on with a digit. -/
theorem digit_of_number (hc : c = '+' ∨ c = '-') (h : number c cs = .ok (lexeme, n)) :
    cs.head?.any Char.isDigit = true := by
  unfold number at h
  split at h
  · rename_i x length hfront
    obtain ⟨numeral, hnumeral, -⟩ := Number.atFront?_eq_some.mp hfront
    have hsplit : Numeral.splitSign (c :: cs) = ([c], cs) := by
      rcases hc with rfl | rfl <;> rfl
    unfold Numeral.longest? at hnumeral
    rw [hsplit] at hnumeral
    dsimp only at hnumeral
    split at hnumeral
    · cases hnumeral
    · rename_i hne
      obtain ⟨d, ds, hds⟩ := List.exists_cons_of_ne_nil (l := (Numeral.splitDigits cs).1)
        (by simpa using hne)
      have hd := Numeral.isDigit_of_mem_splitDigits cs d (hds ▸ List.mem_cons_self)
      rw [← Numeral.splitDigits_append cs, hds]
      simpa using hd
  · cases h

/-- The letters that keywords begin with. -/
theorem keyword?_head (h : keyword? (String.ofList (c :: cs)) = some lexeme) :
    c ∈ ['T', 'F', 'n', 'a', 'o', 'i'] := by
  have hhead : (String.ofList (c :: cs)).toList.head? = some c := by
    rw [String.toList_ofList]
    rfl
  generalize String.ofList (c :: cs) = word at h hhead
  unfold keyword? at h
  split at h <;> cases h <;> cases hhead <;> decide

theorem first_word (h : word c cs = .ok (lexeme, n)) : first c cs = word c cs := by
  unfold word at h
  dsimp only at h
  split at h
  · rename_i hkeyword
    have hc := keyword?_head hkeyword
    simp only [List.mem_cons, List.not_mem_nil, or_false] at hc
    rcases hc with rfl | rfl | rfl | rfl | rfl | rfl <;> rfl
  · cases h

theorem first_alone (c : Char) : StandsAlone (first c) := by
  intro cs lexeme n
  apply first_cases (motive := fun r => r = .ok (lexeme, n) →
    n ≤ cs.length ∧ first c (cs.take n) = .ok (lexeme, n))
  case openParen | closeParen | comma =>
    rintro rfl ⟨⟩
    exact ⟨Nat.zero_le _, rfl⟩
  case brace =>
    rintro rfl
    exact item_alone cs lexeme n
  case quote =>
    rintro (rfl | rfl)
    · exact quotedText_alone '"' cs lexeme n
    · exact quotedText_alone '\'' cs lexeme n
  case mark =>
    rintro (rfl | rfl | rfl | rfl)
    · exact relation_alone '=' cs lexeme n
    · exact relation_alone '!' cs lexeme n
    · exact relation_alone '<' cs lexeme n
    · exact relation_alone '>' cs lexeme n
  case digit =>
    intro hc h
    rw [first_digit hc]
    exact number_alone c cs lexeme n h
  case sign =>
    intro hc h
    obtain ⟨hle, halone⟩ := number_alone c cs lexeme n h
    exact ⟨hle, (first_sign hc (digit_of_number hc halone)).trans halone⟩
  case letter =>
    intro _ h
    obtain ⟨hle, halone⟩ := word_alone c cs lexeme n h
    exact ⟨hle, (first_word halone).trans halone⟩
  case other => exact nofun

/-- From a position on, white space and tokens make up a text in turn: `w₀ t₁ w₁ … tₙ wₙ`. Each
token stands where the characters before it end. -/
inductive Tiled : Nat → List Char → List Token → Prop
  | last {position : Nat} {gap : List Char} (hgap : ∀ c ∈ gap, Text.isBlank c = true) :
    Tiled position gap []
  | next {position : Nat} {gap rest : List Char} {t : Token} {tokens : List Token}
    (hgap : ∀ c ∈ gap, Text.isBlank c = true) (hposition : t.position = position + gap.length)
    (hne : t.text ≠ "") (hrest : Tiled (t.position + t.text.toList.length) rest tokens) :
    Tiled position (gap ++ (t.text.toList ++ rest)) (t :: tokens)

variable {position : Nat} {tokens : List Token}

/-- One more blank character in front. -/
theorem Tiled.blank (h : Tiled (position + 1) cs tokens) (hc : Text.isBlank c = true) :
    Tiled position (c :: cs) tokens := by
  cases h with
  | last hgap => exact .last (List.forall_mem_cons.mpr ⟨hc, hgap⟩)
  | @next _ gap rest t tokens hgap hposition hne hrest =>
    have hlonger : t.position = position + (c :: gap).length := by
      rw [hposition, List.length_cons]
      omega
    exact .next (List.forall_mem_cons.mpr ⟨hc, hgap⟩) hlonger hne hrest

/-- One more token in front. -/
theorem Tiled.token (h : Tiled (position + (c :: body).length) cs tokens) (lexeme : Lexeme) :
    Tiled position (c :: body ++ cs) (⟨lexeme, String.ofList (c :: body), position⟩ :: tokens) := by
  have htext : (String.ofList (c :: body)).toList = c :: body := String.toList_ofList
  have hnext := @Tiled.next position [] cs ⟨lexeme, String.ofList (c :: body), position⟩ tokens
  rw [htext] at hnext
  exact hnext (List.forall_mem_nil _) rfl (by simp) h

/-- All of a text is made up of its tokens and white space. -/
theorem allFrom_tiled (h : allFrom position cs = .ok tokens) : Tiled position cs tokens := by
  fun_induction allFrom position cs generalizing tokens with
  | case1 =>
    cases h
    exact .last (List.forall_mem_nil _)
  | case2 position c cs hblank ih => exact (ih h).blank hblank
  | case3 => cases h
  | case4 position c cs _ lexeme n hfirst ih =>
    obtain ⟨rest, hrest, h⟩ := bind_ok.mp h
    cases pure_ok.mp h
    have hlength : (c :: cs.take n).length = n + 1 := by
      rw [List.length_cons, List.length_take_of_le (first_alone c cs lexeme n hfirst).1]
    have hbehind : Tiled (position + (c :: cs.take n).length) (cs.drop n) rest := by
      rw [hlength]
      exact ih hrest
    have htiled := hbehind.token lexeme
    rwa [List.cons_append, List.take_append_drop] at htiled

/-- The text of a token has that token and nothing else. -/
theorem allFrom_alone (h : allFrom position cs = .ok tokens) :
    ∀ t ∈ tokens, all t.text = .ok [{ t with position := 0 }] := by
  fun_induction allFrom position cs generalizing tokens with
  | case1 =>
    cases h
    exact List.forall_mem_nil _
  | case2 position c cs _ ih => exact ih h
  | case3 => cases h
  | case4 position c cs hblank lexeme n hfirst ih =>
    obtain ⟨rest, hrest, h⟩ := bind_ok.mp h
    cases pure_ok.mp h
    refine List.forall_mem_cons.mpr ⟨?_, ih hrest⟩
    have halone := (first_alone c cs lexeme n hfirst).2
    have htake : (cs.take n).take n = cs.take n := by rw [List.take_take, Nat.min_self]
    have hdrop : (cs.take n).drop n = [] := List.drop_eq_nil_of_le (List.length_take_le n cs)
    rw [all_ok, String.toList_ofList, allFrom, if_neg hblank, halone]
    dsimp only
    rw [htake, hdrop, allFrom]
    rfl

/-- The tokens of a source and the white space between them are all of it. None is empty, each
stands where the characters before it end, and its text by itself has that one token. -/
theorem all_tiled {source : String} (h : all source = .ok tokens) :
    Tiled 0 source.toList tokens ∧
      ∀ t ∈ tokens, all t.text = .ok [{ t with position := 0 }] :=
  ⟨allFrom_tiled (all_ok.mp h), allFrom_alone (all_ok.mp h)⟩

/-- A no-break space, a number that a word follows at once, and a quote within quotes. -/
def dense : String := "\u00a0\x7ba\x7d>=-1.5e3and 'x\\'' in(2)"

theorem all_tiled_dense : ∃ tokens, all dense = .ok tokens ∧
    tokens.map (·.text) = ["\x7ba\x7d", ">=", "-1.5e3", "and", "'x\\''", "in", "(", "2", ")"] ∧
    tokens.map (·.position) = [1, 4, 6, 12, 16, 22, 24, 25, 26] ∧
    Tiled 0 dense.toList tokens ∧ ∀ t ∈ tokens, all t.text = .ok [{ t with position := 0 }] := by
  obtain ⟨tokens, h, htexts, hpositions⟩ : ∃ tokens, all dense = .ok tokens ∧
      tokens.map (·.text) = ["\x7ba\x7d", ">=", "-1.5e3", "and", "'x\\''", "in", "(", "2", ")"] ∧
      tokens.map (·.position) = [1, 4, 6, 12, 16, 22, 24, 25, 26] := exists_ok (by decide +kernel)
  exact ⟨tokens, h, htexts, hpositions, all_tiled h⟩

end Condition.Token

end ConfigRules
