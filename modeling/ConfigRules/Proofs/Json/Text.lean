import ConfigRules.Json.Reader
import ConfigRules.Proofs.Json.Number

/-!
The tokens of printed JSON. A piece of a text yields its tokens and leaves what is behind it, as
long as that does not go on with a number.
-/

namespace ConfigRules.Json

namespace Token

open Numeral

/-- The front of a text has these tokens, and then the rest goes on. -/
def Yields (cs : List Char) (ts : List Token) (rest : List Char) : Prop :=
  all? cs = (all? rest).map (ts ++ ·)

variable {c : Char} {cs mid rest : List Char} {t : Token} {ts us : List Token} {v : Json} {k : Nat}

namespace Yields

theorem nil : Yields rest [] rest := by
  unfold Yields
  cases all? rest <;> rfl

theorem trans (h : Yields cs ts mid) (hr : Yields mid us rest) : Yields cs (ts ++ us) rest := by
  unfold Yields at *
  rw [h, hr, Option.map_map]
  congr 1
  funext vs
  exact (List.append_assoc ts us vs).symm

/-- White space yields nothing. -/
theorem space (hc : isSpace c = true) (h : Yields cs ts rest) : Yields (c :: cs) ts rest := by
  unfold Yields at *
  rw [all?, if_pos hc, h]

/-- The characters of a first token, and what comes after them. -/
theorem cons (k : Nat) (hc : isSpace c = false) (hfirst : first? c cs = some (t, k))
    (h : Yields (cs.drop k) ts rest) : Yields (c :: cs) (t :: ts) rest := by
  unfold Yields at *
  rw [all?, if_neg (by simp [hc]), hfirst]
  simp only [Option.bind_eq_bind, Option.bind_some, h]
  cases all? rest <;> rfl

/-- A token that a text ends with. -/
theorem last (hc : isSpace c = false) (hfirst : first? c cs = some (t, cs.length)) :
    Yields (c :: cs) [t] [] := by
  refine .cons cs.length hc hfirst ?_
  rw [List.drop_length]
  exact .nil

theorem openArray (h : Yields cs ts rest) : Yields ('[' :: cs) (.openArray :: ts) rest :=
  .cons 0 (by decide) rfl h

theorem closeArray (h : Yields cs ts rest) : Yields (']' :: cs) (.closeArray :: ts) rest :=
  .cons 0 (by decide) rfl h

theorem openObject (h : Yields cs ts rest) : Yields ('\x7b' :: cs) (.openObject :: ts) rest :=
  .cons 0 (by decide) rfl h

theorem closeObject (h : Yields cs ts rest) : Yields ('\x7d' :: cs) (.closeObject :: ts) rest :=
  .cons 0 (by decide) rfl h

theorem colon (h : Yields cs ts rest) : Yields (':' :: cs) (.colon :: ts) rest :=
  .cons 0 (by decide) rfl h

theorem comma (h : Yields cs ts rest) : Yields (',' :: cs) (.comma :: ts) rest :=
  .cons 0 (by decide) rfl h

end Yields

theorem stringBody?_plain (hquote : c ≠ '"') (hslash : c ≠ '\\') (hcode : ¬ c.toNat < 32) :
    stringBody? (c :: rest) = (stringBody? rest).map fun (body, n) => (c :: body, n + 1) := by
  rw [stringBody?, if_neg hquote, if_neg hslash, if_neg hcode]
  cases stringBody? rest <;> rfl

/-- An escape stands for its character. -/
theorem stringBody?_escape {escape : List Char}
    (h : escape? (escape ++ rest) = some (c, escape.length)) :
    stringBody? ('\\' :: (escape ++ rest)) =
      (stringBody? rest).map fun (body, n) => (c :: body, n + (escape.length + 1)) := by
  rw [stringBody?, if_neg (by decide), if_pos rfl, h]
  simp only [Option.bind_eq_bind, Option.bind_some, List.drop_left]
  cases stringBody? rest with
  | none => rfl
  | some p => simp [Nat.add_comm]

theorem hexFront?_control : ∀ n < 32, Text.hexFront? 4
    ['0', '0', Nat.digitChar (n / 16), Nat.digitChar (n % 16)] = some n := by
  decide

theorem escape?_control (h : c.toNat < 32) :
    escape? ('u' :: '0' :: '0' :: Nat.digitChar (c.toNat / 16) ::
      Nat.digitChar (c.toNat % 16) :: rest) = some (c, 5) := by
  have hunit : Text.hexFront? 4 ('0' :: '0' :: Nat.digitChar (c.toNat / 16) ::
      Nat.digitChar (c.toNat % 16) :: rest) = some c.toNat := hexFront?_control _ h
  have hhigh : isHighSurrogate c.toNat = false := by
    unfold isHighSurrogate
    rw [decide_eq_false (by omega)]
    rfl
  have hlow : isLowSurrogate c.toNat = false := by
    unfold isLowSurrogate
    rw [decide_eq_false (by omega)]
    rfl
  simp [escape?, unicodeEscape?, hunit, hhigh, hlow, Char.ofNat_toNat]

theorem stringBody?_escapeChar (c : Char) (rest : List Char) :
    stringBody? (escapeChar c ++ rest) =
      (stringBody? rest).map fun (body, n) => (c :: body, n + (escapeChar c).length) := by
  unfold escapeChar
  split
  case h_8 hquote hslash _ _ _ _ _ =>
    split
    · exact stringBody?_escape (escape?_control ‹_›)
    · exact stringBody?_plain hquote hslash ‹_›
  all_goals exact stringBody?_escape rfl

theorem stringBody?_flatMap (cs rest : List Char) :
    stringBody? (cs.flatMap escapeChar ++ '"' :: rest) =
      some (cs, (cs.flatMap escapeChar).length + 1) := by
  induction cs with
  | nil => simp [stringBody?]
  | cons c cs ih =>
    rw [List.flatMap_cons, List.append_assoc, stringBody?_escapeChar, ih]
    simp only [Option.map_some, List.length_append]
    congr 2
    omega

namespace Yields

theorem string (s : String) (h : Yields cs ts rest) :
    Yields (stringChars s ++ cs) (.string s :: ts) rest := by
  have hfirst : first? '"' (s.toList.flatMap escapeChar ++ '"' :: cs) =
      some (Token.string s, (s.toList.flatMap escapeChar).length + 1) := by
    unfold first?
    simp [stringBody?_flatMap]
  have hshape : stringChars s ++ cs = '"' :: (s.toList.flatMap escapeChar ++ '"' :: cs) := by
    simp [stringChars]
  rw [hshape]
  refine .cons _ (by decide) hfirst ?_
  rw [← List.drop_drop, List.drop_left]
  exact h

/-- A text of characters that occur in numerals has the same tokens in front of any other text, and
they are all numbers. -/
theorem of_parts (hcs : ∀ c ∈ cs, IsPart c) (hrest : EndsNumber rest) (h : all? cs = some ts) :
    Yields (cs ++ rest) ts rest ∧ ∀ t ∈ ts, ∃ v, t = .atom v := by
  fun_induction all? cs generalizing ts with
  | case1 =>
    cases h
    exact ⟨.nil, nofun⟩
  | case2 c cs hs ih =>
    obtain ⟨-, hcs⟩ := List.forall_mem_cons.mp hcs
    obtain ⟨hyields, hatoms⟩ := ih hcs h
    exact ⟨hyields.space hs, hatoms⟩
  | case3 c cs hs ih =>
    obtain ⟨hc, hcs⟩ := List.forall_mem_cons.mp hcs
    obtain ⟨⟨t, n⟩, hfirst, h⟩ := Option.bind_eq_some_iff.mp h
    obtain ⟨us, hus, h⟩ := Option.bind_eq_some_iff.mp h
    cases h
    obtain ⟨hatom, hn⟩ := first?_part hc hfirst
    obtain ⟨hyields, hatoms⟩ := ih n (fun d hd => hcs d (List.mem_of_mem_drop hd)) hus
    rw [← List.drop_append_of_le_length hn] at hyields
    have hmore : first? c (cs ++ rest) = some (t, n) := (first?_append hrest hc cs).trans hfirst
    exact ⟨.cons n (Bool.eq_false_iff.mpr hs) hmore hyields,
      List.forall_mem_cons.mpr ⟨hatom, hatoms⟩⟩

end Yields

end Token

/-- Numbers alone make a value only if there is one of them. -/
theorem ofTokens?_atoms {ts : List Token} (hts : ∀ t ∈ ts, ∃ v, t = .atom v) {v : Json}
    (h : ofTokens? ts = some v) : ts = [.atom v] := by
  match ts with
  | [] => cases h
  | [t] =>
    obtain ⟨w, rfl⟩ := hts t List.mem_cons_self
    cases h
    rfl
  | t :: u :: ts =>
    obtain ⟨w, rfl⟩ := hts t List.mem_cons_self
    obtain ⟨x, rfl⟩ := hts u (by simp)
    cases h

/-- A number whose text is read as the number itself. -/
def Number.Kept (n : Number) : Prop := parse? (String.ofList n.chars) = some (.number n)

variable {n : Number}

theorem Number.isPart_of_mem_chars {c : Char} (h : c ∈ n.chars) : Numeral.IsPart c := by
  cases n with
  | integer n fits => exact (Numeral.mem_ofInt h).imp_right fun hc => by simp [hc]
  | real x => exact floatStyle.isPart_of_mem_finiteChars h

theorem Token.Yields.number {rest : List Char} (h : n.Kept) (hrest : Numeral.EndsNumber rest) :
    Yields (n.chars ++ rest) [.atom (.number n)] rest := by
  obtain ⟨ts, hts, hvalue⟩ := Option.bind_eq_some_iff.mp h
  rw [String.toList_ofList] at hts
  obtain ⟨hyields, hatoms⟩ := of_parts (fun _ => Number.isPart_of_mem_chars) hrest hts
  rwa [ofTokens?_atoms hatoms hvalue] at hyields

/-- Floats are not read exactly, so not all of them are kept. -/
theorem Number.exists_not_kept : ∃ x, ¬ (Number.real x).Kept := by
  have hmisread : (Binary64.ofDecimal false 12349629518522515 (-17)).finite?.any (fun x => decide
      ((parse? (String.ofList (real x).chars)).bind Scalar.ofJson? ≠
        some (.float (.finite x)))) = true := by decide +kernel
  obtain ⟨x, -, hx⟩ := Option.any_eq_true _ _ |>.mp hmisread
  refine ⟨x, fun h => of_decide_eq_true hx ?_⟩
  rw [h]
  rfl

end ConfigRules.Json
