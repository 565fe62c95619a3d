import ConfigRules.Proofs.Condition.Grammar
import ConfigRules.Proofs.Condition.Step

/-!
The parser and the grammar. The tokens that the parser has taken are parts of phrases, level by
level, so what it accepts is a phrase; and it goes through the tokens of every phrase.
-/

namespace ConfigRules.Condition

namespace Parser

/-- The tokens of a left side that may be waiting, with the word behind it. -/
inductive Waits (k : Phrase) (word : Lexeme) : Option Formula → List Token → Prop
  | none : Waits k word .none []
  | some {ts f t} (h : Derives k ts f) (ht : t.lexeme = word) : Waits k word (.some f) (ts ++ [t])

/-- The tokens that have come at a level before the formula that comes next. -/
inductive Opens (level : Level) : List Token → Prop
  | intro {ds cs ns} (hd : Waits .disjunction .or level.disjunct ds)
    (hc : Waits .conjunction .and level.conjunct cs)
    (hn : ns.map Token.lexeme = List.replicate level.negations .not) : Opens level (ds ++ cs ++ ns)

/-- The tokens up to the innermost level. -/
inductive Encloses : List Level → List Token → Prop
  | nil : Encloses [] []
  | cons {outer level ts us t} (ho : Encloses outer ts) (hl : Opens level us)
    (ht : t.lexeme = .openParen) : Encloses (level :: outer) (ts ++ us ++ [t])

/-- The tokens of the formula that has begun. -/
inductive Begins : Phase → List Token → Prop
  | start : Begins .start []
  | operand {t x} (h : Operand t x) : Begins (.operand x) [t]
  | negation {t x n} (h : Operand t x) (hn : n.lexeme = .not) : Begins (.negation x n) [t, n]
  | rightSide {t x s r} (h : Operand t x) (hr : s.lexeme = .relation r) :
    Begins (.rightSide x r) [t, s]
  | listStart {t x ws negated} (h : Operand t x) (hw : Within ws negated) :
    Begins (.listStart x negated) (t :: ws)
  | first {t x ws negated left} (h : Operand t x) (hw : Within ws negated)
    (hl : left.lexeme = .openParen) : Begins (.element x negated []) (t :: ws ++ [left])
  | element {t x ws negated left ts xs comma} (h : Operand t x) (hw : Within ws negated)
    (hl : left.lexeme = .openParen) (hs : Operands ts xs) (hc : comma.lexeme = .comma) :
    Begins (.element x negated xs) (t :: ws ++ left :: ts ++ [comma])
  | separator {t x ws negated left ts xs} (h : Operand t x) (hw : Within ws negated)
    (hl : left.lexeme = .openParen) (hs : Operands ts xs) :
    Begins (.separator x negated xs) (t :: ws ++ left :: ts)
  | complete {ts f} (h : Derives .atom ts f) : Begins (.complete f) ts

/-- The tokens that the parser has taken. -/
inductive Reads : Parser → List Token → Prop
  | intro {outer level phase os ls bs} (ho : Encloses outer os) (hl : Opens level ls)
    (hb : Begins phase bs) : Reads ⟨outer, level, phase⟩ (os ++ ls ++ bs)

variable {p q : Parser} {t : Token} {ts us : List Token} {x f g : Formula} {k : Phrase}
  {level : Level}

theorem Begins.atom {phase : Phase} (h : Begins phase ts) (hf : phase.formula? = some f) :
    Derives .atom ts f := by
  cases h with
  | operand h =>
    cases h with
    | item h =>
      cases hf
      exact .item h
    | _ => cases hf
  | complete h =>
    cases hf
    exact h
  | _ => cases hf

theorem negations_derive {ns : List Token} {n : Nat}
    (hn : ns.map Token.lexeme = List.replicate n .not) (h : Derives .atom ts f) :
    Derives .negation (ns ++ ts) (n.repeat Formula.not f) := by
  induction n generalizing ns with
  | zero =>
    rw [List.map_eq_nil_iff.mp hn]
    exact .atom h
  | succ n ih =>
    obtain ⟨t, ns, rfl, ht, hns⟩ := List.map_eq_cons_iff.mp hn
    exact .not ht (ih hns)

theorem conjoin_derives {cs ns : List Token} (hc : Waits .conjunction .and level.conjunct cs)
    (hn : ns.map Token.lexeme = List.replicate level.negations .not) (h : Derives .atom ts f) :
    Derives .conjunction (cs ++ ns ++ ts) (level.conjoin f) := by
  have hnot := negations_derive hn h
  unfold Level.conjoin
  generalize level.conjunct = left at hc ⊢
  cases hc with
  | none => exact .negation hnot
  | some hl ht => simpa using Derives.and hl ht hnot

/-- The tokens of a level and an atom behind them are a disjunction. -/
theorem Opens.disjoin (hl : Opens level ts) (h : Derives .atom us f) :
    Derives .disjunction (ts ++ us) (level.disjoin f) := by
  obtain ⟨hd, hc, hn⟩ := hl
  have hand := conjoin_derives hc hn h
  unfold Level.disjoin
  generalize level.disjunct = left at hd ⊢
  cases hd with
  | none => simpa using Derives.conjunction hand
  | some hl ht => simpa using Derives.or hl ht hand

theorem Opens.empty : Opens .empty [] :=
  have h : Opens .empty ([] ++ [] ++ []) := .intro .none .none rfl
  h

theorem Opens.not (hl : Opens level ts) (ht : t.lexeme = .not) :
    Opens { level with negations := level.negations + 1 } (ts ++ [t]) := by
  obtain ⟨hd, hc, hn⟩ := hl
  rw [List.append_assoc]
  refine .intro hd hc ?_
  simp [hn, ht, List.replicate_succ']

theorem Opens.and (hl : Opens level ts) (h : Derives .atom us f) (ht : t.lexeme = .and) :
    Opens ⟨level.disjunct, some (level.conjoin f), 0⟩ (ts ++ us ++ [t]) := by
  obtain ⟨hd, hc, hn⟩ := hl
  have hand : Waits .conjunction .and (some (level.conjoin f)) _ :=
    .some (conjoin_derives hc hn h) ht
  have hopens : Opens ⟨level.disjunct, some (level.conjoin f), 0⟩ (_ ++ _ ++ []) :=
    .intro hd hand rfl
  simpa using hopens

theorem Opens.or (hl : Opens level ts) (h : Derives .atom us f) (ht : t.lexeme = .or) :
    Opens ⟨some (level.disjoin f), none, 0⟩ (ts ++ us ++ [t]) := by
  have hopens : Opens ⟨some (level.disjoin f), none, 0⟩ (_ ++ [] ++ []) :=
    .intro (.some (hl.disjoin h) ht) .none rfl
  simpa using hopens

/-- A token joins those that have been taken. -/
theorem Reads.step (hp : Reads p ts) (h : Step p t q) : Reads q (ts ++ [t]) := by
  obtain ⟨ho, hl, hb⟩ := hp
  cases h with
  | not h =>
    cases hb
    simpa using Reads.intro ho (hl.not h) .start
  | openParen h =>
    cases hb
    simpa using Reads.intro (.cons ho hl h) .empty .start
  | truth h =>
    cases hb
    simpa using Reads.intro ho hl (.complete (.truth h))
  | operand h =>
    cases hb
    simpa using Reads.intro ho hl (.operand (operand?_eq_some.mp h))
  | relation h =>
    cases hb with
    | operand hx => simpa using Reads.intro ho hl (.rightSide hx h)
  | rightSide h =>
    cases hb with
    | rightSide hx hr =>
      simpa using Reads.intro ho hl (.complete (.compare hx hr (operand?_eq_some.mp h)))
  | within h =>
    cases hb with
    | operand hx => simpa using Reads.intro ho hl (.listStart hx (.within h))
  | negation h =>
    cases hb with
    | operand hx => simpa using Reads.intro ho hl (.negation hx h)
  | notWithin h =>
    cases hb with
    | negation hx hn => simpa using Reads.intro ho hl (.listStart hx (.notWithin hn h))
  | listStart h =>
    cases hb with
    | listStart hx hw => simpa using Reads.intro ho hl (.first hx hw h)
  | element h =>
    have hy := operand?_eq_some.mp h
    cases hb with
    | first hx hw hl' => simpa using Reads.intro ho hl (.separator hx hw hl' (.one hy))
    | element hx hw hl' hs hc =>
      simpa using Reads.intro ho hl (.separator hx hw hl' (.snoc hs hc hy))
  | comma h =>
    cases hb with
    | separator hx hw hl' hs => simpa using Reads.intro ho hl (.element hx hw hl' hs h)
  | listEnd h =>
    cases hb with
    | separator hx hw hl' hs => simpa using Reads.intro ho hl (.complete (.member hx hw hl' hs h))
  | and hf h => simpa using Reads.intro ho (hl.and (hb.atom hf) h) .start
  | or hf h => simpa using Reads.intro ho (hl.or (hb.atom hf) h) .start
  | closeParen hf h =>
    cases ho with
    | cons ho hl' hopen =>
      simpa using Reads.intro ho hl' (.complete (.parentheses hopen (hl.disjoin (hb.atom hf)) h))

theorem Reads.reaches (hp : Reads p ts) (h : Reaches p us q) : Reads q (ts ++ us) := by
  induction us generalizing p ts with
  | nil =>
    obtain rfl := reaches_nil.mp h
    simpa using hp
  | cons t us ih =>
    obtain ⟨r, hr, h⟩ := reaches_cons.mp h
    simpa using ih (hp.step hr) h

/-- What the parser accepts is a disjunction. -/
theorem derives_of_parse (h : parse ts = .ok f) : Derives .disjunction ts f := by
  obtain ⟨p, hp, hf⟩ := parse_ok.mp h
  obtain ⟨houter, g, hg, rfl⟩ := finish_ok.mp hf
  have hinitial : Reads initial [] := .intro .nil .empty .start
  cases hinitial.reaches hp with
  | intro ho hl hb =>
    cases houter
    cases ho
    exact hl.disjoin (hb.atom hg)

/-- The parser takes the tokens of a kind of phrase at the start of a formula, and is then left with
the phrase's formula, or with what makes it up at its level. -/
def Follows : Phrase → List Token → Formula → Prop
  | .disjunction, ts, f => ∀ outer, ∃ level phase g,
    phase.formula? = some g ∧ level.disjoin g = f ∧
      Reaches ⟨outer, .empty, .start⟩ ts ⟨outer, level, phase⟩
  | .conjunction, ts, f => ∀ outer left, ∃ level phase g,
    phase.formula? = some g ∧ level.disjunct = left ∧ level.conjoin g = f ∧
      Reaches ⟨outer, ⟨left, none, 0⟩, .start⟩ ts ⟨outer, level, phase⟩
  | .negation, ts, f => ∀ outer level, ∃ n phase g,
    phase.formula? = some g ∧ n.repeat Formula.not g = f ∧
      Reaches ⟨outer, level, .start⟩ ts
        ⟨outer, { level with negations := level.negations + n }, phase⟩
  | .atom, ts, f => ∀ outer level, ∃ phase,
    phase.formula? = some f ∧ Reaches ⟨outer, level, .start⟩ ts ⟨outer, level, phase⟩

section

variable {outer : List Level} {negated : Bool} {xs : List Formula}

theorem reaches_of_within (h : Within ts negated) :
    Reaches ⟨outer, level, .operand x⟩ ts ⟨outer, level, .listStart x negated⟩ := by
  cases h with
  | within h => exact (Step.within h).reaches
  | notWithin hn h => exact (Step.negation hn).then (Step.notWithin h).reaches

theorem reaches_of_operands (h : Operands ts xs) :
    Reaches ⟨outer, level, .element x negated []⟩ ts ⟨outer, level, .separator x negated xs⟩ := by
  induction h with
  | one h => exact (Step.element (operand?_eq_some.mpr h)).reaches
  | snoc hs hc h ih =>
    exact ih.append ((Step.comma hc).then (Step.element (operand?_eq_some.mpr h)).reaches)

end

theorem Follows.of_derives (h : Derives k ts f) : Follows k ts f := by
  induction h with
  | conjunction h ih =>
    intro outer
    obtain ⟨level, phase, g, hg, hleft, hjoin, hr⟩ := ih outer none
    refine ⟨level, phase, g, hg, ?_, hr⟩
    simp [Level.disjoin, hleft, hjoin]
  | or hf ht hg ihf ihg =>
    intro outer
    obtain ⟨level, phase, x, hx, rfl, hr⟩ := ihf outer
    obtain ⟨level', phase', y, hy, hleft, rfl, hr'⟩ := ihg outer (some (level.disjoin x))
    refine ⟨level', phase', y, hy, ?_, hr.append ((Step.or hx ht).then hr')⟩
    simp [Level.disjoin, hleft]
  | negation h ih =>
    intro outer left
    obtain ⟨n, phase, g, hg, hnot, hr⟩ := ih outer ⟨left, none, 0⟩
    refine ⟨_, phase, g, hg, rfl, ?_, hr⟩
    simp [Level.conjoin, hnot]
  | and hf ht hg ihf ihg =>
    intro outer left
    obtain ⟨level, phase, x, hx, rfl, rfl, hr⟩ := ihf outer left
    obtain ⟨n, phase', y, hy, rfl, hr'⟩ := ihg outer ⟨level.disjunct, some (level.conjoin x), 0⟩
    refine ⟨⟨level.disjunct, some (level.conjoin x), 0 + n⟩, phase', y, hy, rfl, ?_,
      hr.append ((Step.and hx ht).then hr')⟩
    simp [Level.conjoin]
  | atom h ih =>
    intro outer level
    obtain ⟨phase, hf, hr⟩ := ih outer level
    exact ⟨0, phase, _, hf, rfl, hr⟩
  | not ht hf ih =>
    intro outer level
    obtain ⟨n, phase, g, hg, rfl, hr⟩ := ih outer { level with negations := level.negations + 1 }
    refine ⟨n + 1, phase, g, hg, rfl, ?_⟩
    rw [Nat.add_comm n, ← Nat.add_assoc]
    exact (Step.not ht).then hr
  | parentheses hl hf hr ih =>
    intro outer level
    obtain ⟨level', phase, g, hg, rfl, hreach⟩ := ih (level :: outer)
    exact ⟨.complete _, rfl, (Step.openParen hl).then (hreach.append (Step.closeParen hg hr).reaches)⟩
  | truth h =>
    intro outer level
    exact ⟨.complete _, rfl, (Step.truth h).reaches⟩
  | compare hx hr hy =>
    intro outer level
    refine ⟨.complete _, rfl, (Step.operand (operand?_eq_some.mpr hx)).then ?_⟩
    exact (Step.relation hr).then (Step.rightSide (operand?_eq_some.mpr hy)).reaches
  | member hx hw hl hs hr =>
    intro outer level
    refine ⟨.complete _, rfl, ?_⟩
    rw [List.append_assoc, List.cons_append]
    refine (Step.operand (operand?_eq_some.mpr hx)).then ((reaches_of_within hw).append ?_)
    exact (Step.listStart hl).then ((reaches_of_operands hs).append (Step.listEnd hr).reaches)
  | item h =>
    intro outer level
    exact ⟨.operand _, rfl, (Step.operand (operand?_eq_some.mpr (.item h))).reaches⟩

/-- The parser accepts every disjunction. -/
theorem parse_of_derives (h : Derives .disjunction ts f) : parse ts = .ok f := by
  obtain ⟨level, phase, g, hg, hf, hr⟩ := Follows.of_derives h []
  exact parse_ok.mpr ⟨_, hr, finish_ok.mpr ⟨rfl, g, hg, hf⟩⟩

end Parser

/-- Tokens stand for one formula at most. -/
theorem Derives.unique {k : Phrase} {ts : List Token} {f g : Formula} (h : Derives k ts f)
    (hg : Derives k ts g) : f = g := by
  have hf := Parser.parse_of_derives h.disjunction
  rw [Parser.parse_of_derives hg.disjunction] at hf
  exact (Except.ok.inj hf).symm

/-- A source that has tokens is parsed to a formula exactly when the whole of them is a disjunction
that stands for it, and tokens stand for one formula at most. -/
theorem Formula.parse_iff_derives {source : String} {tokens : List Token}
    (h : Token.all source = .ok tokens) :
    (∀ f, Formula.parse source = .ok f ↔ Derives .disjunction tokens f) ∧
      ∀ k ts f g, Derives k ts f → Derives k ts g → f = g := by
  refine ⟨?_, fun k ts f g hf hg => hf.unique hg⟩
  intro f
  have hparse : Formula.parse source = .ok f ↔ Parser.parse tokens = .ok f := by
    unfold Formula.parse
    rw [h]
    dsimp only [bind, Except.bind]
    split <;> simp [*]
  rw [hparse]
  exact ⟨Parser.derives_of_parse, Parser.parse_of_derives⟩

/-- Both uses of `not`, both of parentheses, and `or` above `and`. -/
def mixed : String := "not {a} not in (1, 2) or {b} and (True or 3 < {/c/d})"

theorem Formula.parse_mixed : ∃ tokens f, Token.all mixed = .ok tokens ∧
    Formula.parse mixed = .ok f ∧ Derives .disjunction tokens f ∧
    (∀ g, Derives .disjunction tokens g → g = f) ∧
    f.display = "(not ({a} not in (1, 2)) or ({b} and (True or (3 < {/c/d}))))" := by
  obtain ⟨tokens, h, _⟩ : ∃ tokens, Token.all mixed = .ok tokens ∧ tokens.length = 19 :=
    exists_ok (by decide +kernel)
  obtain ⟨f, hf, hd⟩ : ∃ f, Formula.parse mixed = .ok f ∧
      f.display = "(not ({a} not in (1, 2)) or ({b} and (True or (3 < {/c/d}))))" :=
    exists_ok (by decide +kernel)
  obtain ⟨hparse, hunique⟩ := Formula.parse_iff_derives h
  have hderives := (hparse f).mp hf
  exact ⟨tokens, f, h, hf, hderives, fun g hg => hunique _ _ _ _ hg hderives, hd⟩

end ConfigRules.Condition
