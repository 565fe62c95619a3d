import ConfigRules.Condition.Basic
import ConfigRules.Proofs.Condition.Composition
import ConfigRules.Proofs.Condition.Placement
import ConfigRules.Proofs.Condition.Recognition
import ConfigRules.Proofs.Condition.Scan

/-!
The texts of formulas, parsed again. A text has the lexemes of its formula, and tokens with these
lexemes stand for the same formula at other places.
-/

namespace ConfigRules.Condition

/-- Lexemes in parentheses. -/
def enclose (ls : List Lexeme) : List Lexeme := .openParen :: (ls ++ [.closeParen])

/-- The lexemes of a membership, negated or not. -/
def withinLexemes (negated : Bool) : List Lexeme := if negated then [.not, .within] else [.within]

namespace Formula

mutual

/-- The lexemes of a formula's text. -/
def lexemes : Formula → List Lexeme
  | truth b => [.truth b]
  | number n _ => [.number n]
  | text s _ => [.text s]
  | item path _ => [.item path.text]
  | not f => .not :: enclose f.lexemes
  | and f g => enclose (f.lexemes ++ .and :: g.lexemes)
  | or f g => enclose (f.lexemes ++ .or :: g.lexemes)
  | compare r f g => enclose (f.lexemes ++ .relation r :: g.lexemes)
  | member f negated elements =>
    f.lexemes ++ (withinLexemes negated ++ enclose (lexemesOfAll elements))

def lexemesOfAll : List Formula → List Lexeme
  | [] => []
  | [f] => f.lexemes
  | f :: fs => f.lexemes ++ .comma :: lexemesOfAll fs

end

/-- An operand whose text is one token that stands for it. -/
inductive Legible : Formula → Prop
  | int {n position} : Legible (.number (.int n) position)
  | text {s position} (h : ∀ c ∈ s.toList, Text.Printable c) : Legible (.text s position)
  | item {path position} (hne : path.text.toList ≠ []) (hclose : '\x7d' ∉ path.text.toList) :
    Legible (.item path position)

end Formula

open Formula

section Scan

open Token

variable {cs rest : List Char} {ls : List Lexeme} {f : Formula}

theorem Token.Yields.enclose (h : Yields cs ls (')' :: rest)) :
    Yields ('(' :: cs) (enclose ls) rest :=
  yields_openParen.trans (h.trans yields_closeParen)

theorem yields_operand (h : Legible f) (hr : Ends rest) :
    Yields (f.displayOnto rest) f.lexemes rest := by
  cases h with
  | int => exact yields_int _ hr
  | text h => exact yields_text h
  | item hne hclose => exact yields_item hne hclose

theorem yields_operands (hr : Ends rest) :
    (fs : List Formula) → fs ≠ [] → (∀ f ∈ fs, Legible f) →
      Yields (listOnto rest fs) (lexemesOfAll fs) rest
  | [], hne, _ => absurd rfl hne
  | [f], _, hs => yields_operand (hs f List.mem_cons_self) hr
  | f :: g :: fs, _, hs =>
    have htail := yields_operands hr (g :: fs) (List.cons_ne_nil g fs) fun x hx =>
      hs x (List.mem_cons_of_mem f hx)
    (yields_operand (hs f List.mem_cons_self) (ends_comma _)).trans (yields_comma.trans htail.space)

/-- The text of a formula has the formula's lexemes. -/
theorem yields_display (h : f.Composed Legible) (hr : Ends rest) :
    Yields (f.displayOnto rest) f.lexemes rest := by
  induction h generalizing rest with
  | @truth b => cases b <;> exact yields_keyword rfl hr
  | item h => exact yields_operand h hr
  | not h ih => exact (ih (ends_closeParen rest)).enclose.keyword (w := "not") rfl
  | and hf hg ihf ihg =>
    have hright := (ihg (ends_closeParen rest)).keyword (w := "and") rfl
    exact ((ihf (ends_space _)).trans hright.space).enclose
  | or hf hg ihf ihg =>
    have hright := (ihg (ends_closeParen rest)).keyword (w := "or") rfl
    exact ((ihf (ends_space _)).trans hright.space).enclose
  | @compare r f g hf hg =>
    have hright := (yields_operand hg (ends_closeParen rest)).relation r
    exact ((yields_operand hf (ends_space _)).trans hright.space).enclose
  | @member f negated fs hf hne hs =>
    -- a membership alone has no parentheses around it, so what is behind it is behind its list
    have hlist := (yields_operands (ends_closeParen rest) fs hne hs).enclose.keyword (w := "in") rfl
    cases negated with
    | false => exact (yields_operand hf (ends_space _)).trans hlist.space
    | true =>
      have hnot := hlist.keyword (w := "not") rfl
      exact (yields_operand hf (ends_space _)).trans hnot.space

end Scan

section Phrases

variable {k : Phrase} {ls ms : List Lexeme} {f g : Formula}

/-- Tokens with these lexemes are a phrase that stands for the formula at other places. -/
def StandFor (k : Phrase) (ls : List Lexeme) (f : Formula) : Prop :=
  ∀ ts, ts.map Token.lexeme = ls → ∃ g, Derives k ts g ∧ g.unplaced = f.unplaced

theorem StandFor.mono {k' : Phrase} (hk : ∀ {ts g}, Derives k ts g → Derives k' ts g)
    (h : StandFor k ls f) : StandFor k' ls f := by
  intro ts hts
  obtain ⟨g, hg, hf⟩ := h ts hts
  exact ⟨g, hk hg, hf⟩

theorem StandFor.truth {b : Bool} : StandFor .atom [.truth b] (.truth b) := by
  intro ts hts
  obtain ⟨t, rfl, ht⟩ := List.map_eq_singleton_iff.mp hts
  exact ⟨_, .truth ht, rfl⟩

theorem StandFor.enclose (h : StandFor .disjunction ls f) : StandFor .atom (enclose ls) f := by
  intro ts hts
  obtain ⟨left, us, rfl, hl, hus⟩ := List.map_eq_cons_iff.mp hts
  obtain ⟨vs, ws, rfl, hvs, hws⟩ := List.map_eq_append_iff.mp hus
  obtain ⟨right, rfl, hr⟩ := List.map_eq_singleton_iff.mp hws
  obtain ⟨g, hg, hf⟩ := h vs hvs
  exact ⟨g, .parentheses hl hg hr, hf⟩

theorem StandFor.not (h : StandFor .negation ls f) : StandFor .negation (.not :: ls) (.not f) := by
  intro ts hts
  obtain ⟨t, us, rfl, ht, hus⟩ := List.map_eq_cons_iff.mp hts
  obtain ⟨x, hx, hf⟩ := h us hus
  exact ⟨_, .not ht hx, congrArg Formula.not hf⟩

theorem StandFor.and (hf : StandFor .conjunction ls f) (hg : StandFor .negation ms g) :
    StandFor .conjunction (ls ++ .and :: ms) (.and f g) := by
  intro ts hts
  obtain ⟨us, vs, rfl, hus, hvs⟩ := List.map_eq_append_iff.mp hts
  obtain ⟨t, ws, rfl, ht, hws⟩ := List.map_eq_cons_iff.mp hvs
  obtain ⟨x, hx, hxf⟩ := hf us hus
  obtain ⟨y, hy, hyg⟩ := hg ws hws
  exact ⟨_, .and hx ht hy, congrArg₂ Formula.and hxf hyg⟩

theorem StandFor.or (hf : StandFor .disjunction ls f) (hg : StandFor .conjunction ms g) :
    StandFor .disjunction (ls ++ .or :: ms) (.or f g) := by
  intro ts hts
  obtain ⟨us, vs, rfl, hus, hvs⟩ := List.map_eq_append_iff.mp hts
  obtain ⟨t, ws, rfl, ht, hws⟩ := List.map_eq_cons_iff.mp hvs
  obtain ⟨x, hx, hxf⟩ := hf us hus
  obtain ⟨y, hy, hyg⟩ := hg ws hws
  exact ⟨_, .or hx ht hy, congrArg₂ Formula.or hxf hyg⟩

theorem operand_of_lexemes {ts : List Token} (h : Legible f)
    (hts : ts.map Token.lexeme = f.lexemes) :
    ∃ t x, ts = [t] ∧ Operand t x ∧ x.unplaced = f.unplaced := by
  cases h with
  | int =>
    obtain ⟨t, rfl, ht⟩ := List.map_eq_singleton_iff.mp hts
    exact ⟨t, _, rfl, .number ht, rfl⟩
  | text =>
    obtain ⟨t, rfl, ht⟩ := List.map_eq_singleton_iff.mp hts
    exact ⟨t, _, rfl, .text ht, rfl⟩
  | item =>
    obtain ⟨t, rfl, ht⟩ := List.map_eq_singleton_iff.mp hts
    exact ⟨t, _, rfl, .item ht, rfl⟩

theorem Operands.cons {t comma : Token} {x : Formula} {ts : List Token} {xs : List Formula}
    (h : Operand t x) (hc : comma.lexeme = .comma) (hs : Operands ts xs) :
    Operands (t :: comma :: ts) (x :: xs) := by
  induction hs with
  | one hy => exact .snoc (.one h) hc hy
  | snoc _ hc' hy ih => exact .snoc ih hc' hy

theorem operands_of_lexemes : (fs : List Formula) → fs ≠ [] → (∀ f ∈ fs, Legible f) →
    ∀ ts : List Token, ts.map Token.lexeme = lexemesOfAll fs →
      ∃ xs, Operands ts xs ∧ unplacedAll xs = unplacedAll fs
  | [], hne, _ => absurd rfl hne
  | [f], _, hs => by
    intro ts hts
    obtain ⟨t, x, rfl, hx, hf⟩ := operand_of_lexemes (hs f List.mem_cons_self) hts
    exact ⟨[x], .one hx, congrArg (· :: []) hf⟩
  | f :: g :: fs, _, hs => by
    intro ts hts
    obtain ⟨us, vs, rfl, hus, hvs⟩ := List.map_eq_append_iff.mp hts
    obtain ⟨comma, ws, rfl, hc, hws⟩ := List.map_eq_cons_iff.mp hvs
    obtain ⟨t, x, rfl, hx, hf⟩ := operand_of_lexemes (hs f List.mem_cons_self) hus
    obtain ⟨xs, hxs, hfs⟩ := operands_of_lexemes (g :: fs) (List.cons_ne_nil g fs)
      (fun y hy => hs y (List.mem_cons_of_mem f hy)) ws hws
    exact ⟨x :: xs, .cons hx hc hxs, congrArg₂ List.cons hf hfs⟩

theorem within_of_lexemes {negated : Bool} {ts : List Token}
    (h : ts.map Token.lexeme = withinLexemes negated) : Within ts negated := by
  cases negated with
  | false =>
    obtain ⟨t, rfl, ht⟩ := List.map_eq_singleton_iff.mp h
    exact .within ht
  | true =>
    obtain ⟨n, us, rfl, hn, hus⟩ := List.map_eq_cons_iff.mp h
    obtain ⟨t, rfl, ht⟩ := List.map_eq_singleton_iff.mp hus
    exact .notWithin hn ht

theorem StandFor.item {path : Path} {position : Nat} :
    StandFor .atom [.item path.text] (.item path position) := by
  intro ts hts
  obtain ⟨t, rfl, ht⟩ := List.map_eq_singleton_iff.mp hts
  exact ⟨_, .item ht, rfl⟩

theorem StandFor.compare (r : Relation) (hf : Legible f) (hg : Legible g) :
    StandFor .atom (f.lexemes ++ .relation r :: g.lexemes) (.compare r f g) := by
  intro ts hts
  obtain ⟨us, vs, rfl, hus, hvs⟩ := List.map_eq_append_iff.mp hts
  obtain ⟨s, ws, rfl, hr, hws⟩ := List.map_eq_cons_iff.mp hvs
  obtain ⟨t, x, rfl, hx, hxf⟩ := operand_of_lexemes hf hus
  obtain ⟨u, y, rfl, hy, hyg⟩ := operand_of_lexemes hg hws
  exact ⟨_, .compare hx hr hy, congrArg₂ (Formula.compare r) hxf hyg⟩

theorem StandFor.member {negated : Bool} {fs : List Formula} (hf : Legible f) (hne : fs ≠ [])
    (hs : ∀ g ∈ fs, Legible g) :
    StandFor .atom (Formula.member f negated fs).lexemes (.member f negated fs) := by
  intro ts hts
  obtain ⟨us, rest, rfl, hus, hrest⟩ := List.map_eq_append_iff.mp hts
  obtain ⟨ws, list, rfl, hws, hlist⟩ := List.map_eq_append_iff.mp hrest
  obtain ⟨left, vs, rfl, hl, hvs⟩ := List.map_eq_cons_iff.mp hlist
  obtain ⟨ys, end', rfl, hys, hend⟩ := List.map_eq_append_iff.mp hvs
  obtain ⟨right, rfl, hr⟩ := List.map_eq_singleton_iff.mp hend
  obtain ⟨t, x, rfl, hx, hxf⟩ := operand_of_lexemes hf hus
  obtain ⟨xs, hxs, hxsf⟩ := operands_of_lexemes fs hne hs ys hys
  have hmember := Derives.member hx (within_of_lexemes hws) hl hxs hr
  refine ⟨.member x negated xs, by simpa using hmember, ?_⟩
  simp only [unplaced, hxf, hxsf]

/-- Tokens with the lexemes of a formula's text stand for the formula. -/
theorem standFor_lexemes (h : f.Composed Legible) : StandFor .negation f.lexemes f := by
  -- parentheses make an atom of whatever is in them, and only a `not` is looser than an atom
  induction h with
  | truth => exact StandFor.truth.mono .atom
  | item => exact StandFor.item.mono .atom
  | not _ ih => exact ((ih.mono .disjunction).enclose.mono .atom).not
  | and _ _ ihf ihg =>
    have hand := (ihf.mono .negation).and ihg
    exact (hand.mono .disjunction).enclose.mono .atom
  | or _ _ ihf ihg =>
    have hor := (ihf.mono .disjunction).or (ihg.mono .negation)
    exact hor.enclose.mono .atom
  | @compare r f g hf hg =>
    have hcompare := StandFor.compare r hf hg
    exact (hcompare.mono .disjunction).enclose.mono .atom
  | member hf hne hs => exact (StandFor.member hf hne hs).mono .atom

end Phrases

/-- The integers are all the numbers there are, and quoted texts are made of printable ASCII, tabs
and line feeds. -/
def Lexeme.Printable : Lexeme → Prop
  | .number (.float _) => False
  | .text s => ∀ c ∈ s.toList, Text.Printable c
  | _ => True

instance : DecidablePred Lexeme.Printable
  | .number (.int _) => isTrue trivial
  | .number (.float _) => isFalse id
  | .text s => List.decidableBAll Text.Printable s.toList
  | .truth _ | .item _ | .not | .and | .or | .within | .relation _ | .openParen | .closeParen
  | .comma => isTrue trivial

/-- The numbers in a source are integers, and its quoted texts are made of printable ASCII, tabs and
line feeds. -/
def Printable (source : String) : Prop :=
  ∀ tokens, Token.all source = .ok tokens → ∀ t ∈ tokens, t.lexeme.Printable

instance (source : String) : Decidable (Printable source) :=
  inferInstanceAs (Decidable (∀ tokens, Token.all source = .ok tokens → ∀ t ∈ tokens, _))

namespace Formula

variable {source : String} {tokens : List Token} {f : Formula}

theorem legible_of_operand (h : Token.all source = .ok tokens) (hp : Printable source) :
    ∀ t ∈ tokens, ∀ x, Operand t x → Legible x := by
  intro t ht x hx
  have hprintable := hp tokens h t ht
  cases hx with
  | @number n hl =>
    rw [hl] at hprintable
    cases n with
    | int n => exact .int
    | float => cases hprintable
  | text hl =>
    rw [hl] at hprintable
    exact .text hprintable
  | item hl =>
    obtain ⟨hne, hclose⟩ := Token.allFrom_item (Token.all_ok.mp h) ht hl
    exact .item hne hclose

theorem parse_display (h : parse source = .ok f) (hp : Printable source) :
    ∃ g, parse f.display = .ok g ∧ g.unplaced = f.unplaced := by
  obtain ⟨tokens, htokens, hparse⟩ := parse_ok.mp h
  have hcomposed := (Parser.derives_of_parse hparse).composed (legible_of_operand htokens hp)
  obtain ⟨ts, hts, hlexemes⟩ := (yields_display hcomposed Token.ends_nil).all
  obtain ⟨g, hg, hunplaced⟩ := standFor_lexemes hcomposed ts hlexemes
  exact ⟨g, parse_ok.mpr ⟨ts, hts, Parser.parse_of_derives hg.disjunction⟩, hunplaced⟩

theorem display_of_unplaced {f g : Formula} (h : f.unplaced = g.unplaced) :
    f.display = g.display := by
  unfold display displayChars
  rw [← unplaced_displayOnto [] f, h, unplaced_displayOnto [] g]

theorem holds_of_unplaced {f g : Formula} (h : f.unplaced = g.unplaced) (c : Config) (b : Bool) :
    f.holds c = .ok b ↔ g.holds c = .ok b := by
  rw [← unplaced_holds f, h, unplaced_holds g]

end Formula

/-- The text that a printable condition displays is a condition again. Its formula is the same up to
places, so it displays the same text and holds on the same configurations. -/
theorem display_inverse {source : String} {x : Condition} (h : parse source = .ok x)
    (hp : Printable source) :
    ∃ y, parse x.formula.display = .ok y ∧ y.formula.unplaced = x.formula.unplaced ∧
      y.formula.display = x.formula.display ∧
      ∀ c b, y.holds c = .ok b ↔ x.holds c = .ok b := by
  obtain ⟨f, hf, hx⟩ := bind_ok.mp h
  obtain rfl := pure_ok.mp hx
  obtain ⟨g, hg, hunplaced⟩ := Formula.parse_display hf hp
  exact ⟨⟨f.display, g⟩, bind_ok.mpr ⟨g, hg, rfl⟩, hunplaced, Formula.display_of_unplaced hunplaced,
    Formula.holds_of_unplaced hunplaced⟩

/-- A quote in an item, a leading zero, both kinds of quotes and escapes. -/
def quoting : String := "not \x7b/a \"b\x7d not in (-07, 'it\\'s \"x\"') or True and '\t' == {n}"

/-- What it displays. -/
def quotingDisplay : String :=
  "(not (\x7b/a \"b\x7d not in (-7, \"it's \\\"x\\\"\")) or (True and (\"\\t\" == {n})))"

theorem display_inverse_quoting : ∃ x, parse quoting = .ok x ∧ Printable quoting ∧
    x.formula.display = quotingDisplay ∧ ∃ y, parse quotingDisplay = .ok y ∧
      y.formula.unplaced = x.formula.unplaced ∧ y.formula.display = quotingDisplay := by
  obtain ⟨x, hx, hdisplay⟩ : ∃ x, parse quoting = .ok x ∧ x.formula.display = quotingDisplay :=
    exists_ok (by decide +kernel)
  have hp : Printable quoting := by decide +kernel
  obtain ⟨y, hy, hsame, hagain, _⟩ := display_inverse hx hp
  rw [hdisplay] at hy hagain
  exact ⟨x, hx, hp, hdisplay, y, hy, hsame, hagain⟩

end ConfigRules.Condition
