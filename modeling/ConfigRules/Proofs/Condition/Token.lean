import ConfigRules.Condition.Token
import ConfigRules.Proofs.Except
import ConfigRules.Proofs.Integer
import ConfigRules.Reference

/-!
The tokens of a text and the references found in it. They name the same items, where no text in
quotes holds an opening brace and no item runs over the end of a line.
-/

namespace ConfigRules

namespace Reference

/-- What comes before the first opening brace has no part in a reference. -/
theorem bodies_append {xs : List Char} (h : '\x7b' ∉ xs) (ys : List Char) :
    bodies (xs ++ ys) = bodies ys := by
  induction xs with
  | nil => rfl
  | cons x xs ih =>
    rw [List.mem_cons, not_or] at h
    rw [List.cons_append, bodies, if_neg (Ne.symm h.1), ih h.2]

theorem body?_eq {path : List Char} (hne : path ≠ []) (hclose : '\x7d' ∉ path)
    (hline : '\n' ∉ path) (rest : List Char) : body? (path ++ '\x7d' :: rest) = some path := by
  cases path with
  | nil => contradiction
  | cons c path =>
    rw [List.mem_cons, not_or] at hclose hline
    have hgoes : ∀ d ∈ path, (d != '\x7d' && d != '\n') = true := by
      intro d hd
      have hd' : d ≠ '\x7d' := fun he => hclose.2 (he ▸ hd)
      have hd'' : d ≠ '\n' := fun he => hline.2 (he ▸ hd)
      simp [hd', hd'']
    have htail : (path ++ '\x7d' :: rest).takeWhile (fun d => d != '\x7d' && d != '\n') = path := by
      rw [List.takeWhile_append_of_pos hgoes, List.takeWhile_cons_of_neg (by simp), List.append_nil]
    simp only [List.cons_append, body?, htail]
    rw [if_pos ⟨Ne.symm hline.1, by simp⟩]

end Reference

namespace Condition

/-- The item that a token names. -/
def Lexeme.path? : Lexeme → Option Path
  | .item path => some ⟨path⟩
  | _ => none

/-- Not a text with an opening brace in it, nor an item that runs over the end of a line. -/
def Lexeme.Plain : Lexeme → Prop
  | .text s => '\x7b' ∉ s.toList
  | .item path => '\n' ∉ path.toList
  | _ => True

instance : DecidablePred Lexeme.Plain
  | .text s => inferInstanceAs (Decidable ('\x7b' ∉ s.toList))
  | .item path => inferInstanceAs (Decidable ('\n' ∉ path.toList))
  | .truth _ | .number _ | .not | .and | .or | .within | .relation _ | .openParen | .closeParen
  | .comma => isTrue trivial

namespace Token

variable {c : Char} {cs : List Char} {lexeme : Lexeme} {n : Nat}

/-- An item is what stands before the next closing brace. -/
theorem item_ok (h : item cs = .ok (lexeme, n)) : ∃ path rest, cs = path ++ '\x7d' :: rest ∧
    path ≠ [] ∧ '\x7d' ∉ path ∧ lexeme = .item (String.ofList path) ∧ n = path.length + 1 := by
  unfold item at h
  dsimp only at h
  have hsplit := List.takeWhile_append_dropWhile (p := fun d => d != '\x7d') (l := cs)
  have hclose : '\x7d' ∉ cs.takeWhile (· != '\x7d') := by
    intro hin
    simpa using List.mem_takeWhile_imp hin
  split at h
  · cases h
  · rename_i hlength
    split at h
    · cases h
    · rename_i hempty
      cases h
      cases hrest : cs.dropWhile (· != '\x7d') with
      | nil =>
        rw [hrest, List.append_nil] at hsplit
        exact absurd (congrArg List.length hsplit) hlength
      | cons d rest =>
        have hd := List.head?_dropWhile_not (fun d => d != '\x7d') cs
        simp only [hrest, List.head?_cons, bne_eq_false_iff_eq] at hd
        subst hd
        exact ⟨_, rest, by rw [← hrest, hsplit], by simpa using hempty, hclose, rfl, rfl⟩

theorem quotedBody?_take {quote d : Char} {body : List Char}
    (h : quotedBody? quote cs = some (body, n)) (hq : d ≠ quote) (he : unescape d = d)
    (hs : d ≠ '\\') (hd : d ∉ body) : d ∉ cs.take n := by
  fun_induction quotedBody? quote cs generalizing body n with
  | case1 => cases h
  | case2 =>
    cases h
    simpa using hq
  | case3 => cases h
  | case4 e cs _ ih =>
    obtain ⟨⟨body', m⟩, hm, hmapped⟩ := Option.map_eq_some_iff.mp h
    cases hmapped
    rw [List.mem_cons, not_or] at hd
    have hne : d ≠ e := by
      intro hde
      rw [← hde, he] at hd
      exact hd.1 rfl
    simpa [hs, hne] using ih hm hd.2
  | case5 e cs _ _ ih =>
    obtain ⟨⟨body', m⟩, hm, hmapped⟩ := Option.map_eq_some_iff.mp h
    cases hmapped
    rw [List.mem_cons, not_or] at hd
    simpa [hd.1] using ih hm hd.2

theorem number_ok (h : number c cs = .ok (lexeme, n)) :
    lexeme.path? = none ∧ ∀ d ∈ cs.take n, Numeral.IsPart d := by
  unfold number at h
  split at h
  · rename_i x length hx
    cases h
    refine ⟨rfl, ?_⟩
    intro d hd
    obtain ⟨numeral, hnumeral, _, rfl⟩ := Number.atFront?_eq_some.mp hx
    obtain ⟨rest, hrest⟩ := Numeral.longest?_prefix hnumeral
    apply Numeral.isPart_of_mem_longest? hnumeral
    cases numeral with
    | nil => simp at hd
    | cons e numeral =>
      rw [List.cons_append, List.cons.injEq] at hrest
      rw [← hrest.2, List.length_cons, Nat.add_sub_cancel, List.take_left] at hd
      exact List.mem_cons_of_mem _ hd
  · cases h

theorem keyword?_path? {word : String} (h : keyword? word = some lexeme) : lexeme.path? = none := by
  unfold keyword? at h
  split at h <;> cases h <;> rfl

theorem word_ok (h : word c cs = .ok (lexeme, n)) :
    lexeme.path? = none ∧ ∀ d ∈ cs.take n, isWordChar d = true := by
  unfold word at h
  dsimp only at h
  split at h
  · rename_i hkeyword
    cases h
    refine ⟨keyword?_path? hkeyword, ?_⟩
    intro d hd
    rw [← List.prefix_iff_eq_take.mp (List.takeWhile_prefix isWordChar)] at hd
    exact List.mem_takeWhile_imp hd
  · cases h

/-- What a text can begin with, and what then reads it. -/
theorem first_cases {motive : Except Nat (Lexeme × Nat) → Prop}
    (openParen : c = '(' → motive (.ok (.openParen, 0)))
    (closeParen : c = ')' → motive (.ok (.closeParen, 0)))
    (comma : c = ',' → motive (.ok (.comma, 0))) (brace : c = '\x7b' → motive (item cs))
    (quote : c = '"' ∨ c = '\'' → motive (quotedText c cs))
    (mark : c = '=' ∨ c = '!' ∨ c = '<' ∨ c = '>' → motive (relation c cs))
    (digit : c.isDigit = true → motive (number c cs))
    (sign : c = '+' ∨ c = '-' → motive (number c cs))
    (letter : Text.isAlphabetic c = true ∨ c = '_' → motive (word c cs))
    (other : motive (.error 1)) : motive (first c cs) := by
  unfold first
  refine iteInduction openParen fun _ => ?_
  refine iteInduction closeParen fun _ => ?_
  refine iteInduction comma fun _ => ?_
  refine iteInduction brace fun _ => ?_
  refine iteInduction quote fun _ => ?_
  refine iteInduction mark fun _ => ?_
  refine iteInduction digit fun _ => ?_
  refine iteInduction (fun h => sign h.1) fun _ => ?_
  exact iteInduction letter fun _ => other

/-- A token that does not begin with an opening brace names no item and, if it is plain, holds no
opening brace. -/
theorem first_other (h : first c cs = .ok (lexeme, n)) (hc : c ≠ '\x7b') :
    lexeme.path? = none ∧ (lexeme.Plain → '\x7b' ∉ cs.take n) := by
  have hnumber : number c cs = .ok (lexeme, n) →
      lexeme.path? = none ∧ (lexeme.Plain → '\x7b' ∉ cs.take n) := by
    intro hn
    obtain ⟨hpath, hparts⟩ := number_ok hn
    refine ⟨hpath, fun _ hin => ?_⟩
    obtain hdigit | hmark := hparts _ hin
    · exact absurd hdigit (by decide)
    · exact absurd hmark (by decide)
  revert h
  apply first_cases (motive := fun r => r = .ok (lexeme, n) →
    lexeme.path? = none ∧ (lexeme.Plain → '\x7b' ∉ cs.take n))
  case openParen | closeParen | comma =>
    rintro - ⟨⟩
    exact ⟨rfl, by simp⟩
  case brace => exact fun he => absurd he hc
  case quote =>
    intro hquote h
    unfold quotedText at h
    split at h
    · rename_i body m hbody
      cases h
      refine ⟨rfl, ?_⟩
      intro hp
      have hne : '\x7b' ≠ c := by rcases hquote with rfl | rfl <;> decide
      exact quotedBody?_take hbody hne (by decide) (by decide) (by simpa [Lexeme.Plain] using hp)
    · cases h
  case mark =>
    intro _ h
    unfold relation at h
    split at h <;> cases h <;> exact ⟨rfl, by simp⟩
  case digit | sign => exact fun _ h => hnumber h
  case letter =>
    intro _ h
    obtain ⟨hpath, hword⟩ := word_ok h
    exact ⟨hpath, fun _ hin => absurd (hword _ hin) (by decide)⟩
  case other => exact fun h => nomatch h

/-- The items of a text are not empty and hold no closing brace. -/
theorem allFrom_item {position : Nat} {tokens : List Token} {t : Token} {path : String}
    (h : allFrom position cs = .ok tokens) (ht : t ∈ tokens) (hp : t.lexeme = .item path) :
    path.toList ≠ [] ∧ '\x7d' ∉ path.toList := by
  fun_induction allFrom position cs generalizing tokens with
  | case1 =>
    cases h
    cases ht
  | case2 _ _ _ _ ih => exact ih h ht
  | case3 => cases h
  | case4 position c cs _ lexeme n hfirst ih =>
    obtain ⟨rest, hrest, h⟩ := bind_ok.mp h
    cases pure_ok.mp h
    rcases List.mem_cons.mp ht with rfl | ht
    · obtain rfl : lexeme = .item path := hp
      by_cases hc : c = '\x7b'
      · subst hc
        obtain ⟨chars, _, _, hne, hclose, hitem, _⟩ := item_ok hfirst
        obtain rfl := Lexeme.item.inj hitem
        simpa using ⟨hne, hclose⟩
      · cases (first_other hfirst hc).1
    · exact ih hrest ht

/-- The references in a text are the items that its tokens name, in the same order. -/
theorem allFrom_paths {position : Nat} {tokens : List Token}
    (h : allFrom position cs = .ok tokens) (hp : ∀ t ∈ tokens, t.lexeme.Plain) :
    (Reference.bodies cs).map (fun body => ⟨String.ofList body⟩) =
      tokens.filterMap fun t => t.lexeme.path? := by
  fun_induction allFrom position cs generalizing tokens with
  | case1 =>
    cases h
    rw [Reference.bodies]
    rfl
  | case2 position c cs hblank ih =>
    have hc : c ≠ '\x7b' := by
      rintro rfl
      exact absurd hblank (by decide)
    rw [Reference.bodies, if_neg hc]
    exact ih h hp
  | case3 => cases h
  | case4 position c cs hblank lexeme n hfirst ih =>
    obtain ⟨rest, hrest, h⟩ := bind_ok.mp h
    cases pure_ok.mp h
    have hplain := hp _ List.mem_cons_self
    have ih := ih hrest fun t ht => hp t (List.mem_cons_of_mem _ ht)
    by_cases hc : c = '\x7b'
    · subst hc
      obtain ⟨path, after, rfl, hne, hclose, rfl, rfl⟩ := item_ok hfirst
      have hline : '\n' ∉ path := by simpa [Lexeme.Plain] using hplain
      rw [Reference.bodies, if_pos rfl, Reference.body?_eq hne hclose hline, List.map_cons, ih]
      rfl
    · obtain ⟨hpath, hbraces⟩ := first_other hfirst hc
      have hskip : Reference.bodies (c :: cs) = Reference.bodies (cs.drop n) := by
        rw [Reference.bodies, if_neg hc]
        calc Reference.bodies cs
            = Reference.bodies (cs.take n ++ cs.drop n) := by rw [List.take_append_drop]
          _ = Reference.bodies (cs.drop n) := Reference.bodies_append (hbraces hplain) _
      rw [hskip, ih, List.filterMap_cons]
      simp only [hpath]

theorem all_ok {source : String} {tokens : List Token} :
    all source = .ok tokens ↔ allFrom 0 source.toList = .ok tokens := by
  unfold all
  split <;> simp [*]

theorem all_paths {source : String} {tokens : List Token} (h : all source = .ok tokens)
    (hp : ∀ t ∈ tokens, t.lexeme.Plain) :
    Reference.paths source = tokens.filterMap fun t => t.lexeme.path? :=
  allFrom_paths (all_ok.mp h) hp

instance (source : String) (p : Lexeme → Prop) [DecidablePred p] :
    Decidable (∀ tokens, all source = .ok tokens → ∀ t ∈ tokens, p t.lexeme) :=
  match all source with
  | .ok tokens =>
    decidable_of_iff (∀ t ∈ tokens, p t.lexeme)
      ⟨fun hp _ ho => Except.ok.inj ho ▸ hp, fun hp => hp tokens rfl⟩
  | .error _ => isTrue fun _ ho => nomatch ho

end Token

end Condition

end ConfigRules
