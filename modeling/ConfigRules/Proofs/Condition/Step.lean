import ConfigRules.Condition.Parser
import ConfigRules.Proofs.Except

/-!
What one token does to the parser, as a relation with one rule for each thing that can happen.
-/

namespace ConfigRules.Condition

/-- The formula that is complete unless a token goes on with it. -/
def Phase.formula? : Phase → Option Formula
  | complete f => some f
  | operand (.item path position) => some (.item path position)
  | _ => none

namespace Parser

/-- What one token does. -/
inductive Step : Parser → Token → Parser → Prop
  | not {outer level t} (h : t.lexeme = .not) :
    Step ⟨outer, level, .start⟩ t ⟨outer, { level with negations := level.negations + 1 }, .start⟩
  | openParen {outer level t} (h : t.lexeme = .openParen) :
    Step ⟨outer, level, .start⟩ t ⟨level :: outer, .empty, .start⟩
  | truth {outer level t b} (h : t.lexeme = .truth b) :
    Step ⟨outer, level, .start⟩ t ⟨outer, level, .complete (.truth b)⟩
  | operand {outer level t x} (h : operand? t = some x) :
    Step ⟨outer, level, .start⟩ t ⟨outer, level, .operand x⟩
  | relation {outer level x t r} (h : t.lexeme = .relation r) :
    Step ⟨outer, level, .operand x⟩ t ⟨outer, level, .rightSide x r⟩
  | rightSide {outer level x r t y} (h : operand? t = some y) :
    Step ⟨outer, level, .rightSide x r⟩ t ⟨outer, level, .complete (.compare r x y)⟩
  | within {outer level x t} (h : t.lexeme = .within) :
    Step ⟨outer, level, .operand x⟩ t ⟨outer, level, .listStart x false⟩
  | negation {outer level x t} (h : t.lexeme = .not) :
    Step ⟨outer, level, .operand x⟩ t ⟨outer, level, .negation x t⟩
  | notWithin {outer level x token t} (h : t.lexeme = .within) :
    Step ⟨outer, level, .negation x token⟩ t ⟨outer, level, .listStart x true⟩
  | listStart {outer level x negated t} (h : t.lexeme = .openParen) :
    Step ⟨outer, level, .listStart x negated⟩ t ⟨outer, level, .element x negated []⟩
  | element {outer level x negated elements t y} (h : operand? t = some y) :
    Step ⟨outer, level, .element x negated elements⟩ t
      ⟨outer, level, .separator x negated (elements ++ [y])⟩
  | comma {outer level x negated elements t} (h : t.lexeme = .comma) :
    Step ⟨outer, level, .separator x negated elements⟩ t
      ⟨outer, level, .element x negated elements⟩
  | listEnd {outer level x negated elements t} (h : t.lexeme = .closeParen) :
    Step ⟨outer, level, .separator x negated elements⟩ t
      ⟨outer, level, .complete (.member x negated elements)⟩
  | and {outer level phase f t} (hf : phase.formula? = some f) (h : t.lexeme = .and) :
    Step ⟨outer, level, phase⟩ t ⟨outer, ⟨level.disjunct, some (level.conjoin f), 0⟩, .start⟩
  | or {outer level phase f t} (hf : phase.formula? = some f) (h : t.lexeme = .or) :
    Step ⟨outer, level, phase⟩ t ⟨outer, ⟨some (level.disjoin f), none, 0⟩, .start⟩
  | closeParen {level' outer level phase f t} (hf : phase.formula? = some f)
    (h : t.lexeme = .closeParen) :
    Step ⟨level' :: outer, level, phase⟩ t ⟨outer, level', .complete (level.disjoin f)⟩

variable {p q r : Parser} {t : Token} {ts us : List Token} {f : Formula}

theorem step_of_stepComplete {outer : List Level} {level : Level} {phase : Phase}
    (hf : phase.formula? = some f) (h : stepComplete outer level f t = .ok q) :
    Step ⟨outer, level, phase⟩ t q := by
  unfold stepComplete at h
  split at h <;> cases h
  · exact .and hf ‹_›
  · exact .or hf ‹_›
  · exact .closeParen hf ‹_›

theorem Step.of_step (h : step p t = .ok q) : Step p t q := by
  obtain ⟨outer, level, phase⟩ := p
  cases phase with
  | start =>
    simp only [step, stepStart] at h
    split at h
    · cases h
      exact .not ‹_›
    · cases h
      exact .openParen ‹_›
    · cases h
      exact .truth ‹_›
    · split at h <;> cases h
      exact .operand ‹_›
  | operand x =>
    simp only [step, stepOperand] at h
    split at h
    · cases h
      exact .relation ‹_›
    · cases h
      exact .within ‹_›
    · cases h
      exact .negation ‹_›
    · split at h
      · exact step_of_stepComplete rfl h
      · cases h
  | negation x token =>
    simp only [step] at h
    split at h <;> cases h
    exact .notWithin ‹_›
  | rightSide x r =>
    simp only [step] at h
    split at h <;> cases h
    exact .rightSide ‹_›
  | listStart x negated =>
    simp only [step] at h
    split at h <;> cases h
    exact .listStart ‹_›
  | element x negated elements =>
    simp only [step] at h
    split at h <;> cases h
    exact .element ‹_›
  | separator x negated elements =>
    simp only [step] at h
    split at h
    · cases h
      exact .comma ‹_›
    · split at h <;> cases h
      exact .listEnd ‹_›
  | complete f => exact step_of_stepComplete rfl h

/-- A token that goes on with no operand is taken as one after a complete formula. -/
theorem step_of_formula? {outer : List Level} {level : Level} {phase : Phase}
    (hf : phase.formula? = some f) (hr : ∀ r, t.lexeme ≠ .relation r) (hw : t.lexeme ≠ .within)
    (hn : t.lexeme ≠ .not) : step ⟨outer, level, phase⟩ t = stepComplete outer level f t := by
  unfold Phase.formula? at hf
  split at hf <;> cases hf
  · rfl
  · simp only [step, stepOperand]

theorem Step.step_eq (h : Step p t q) : step p t = .ok q := by
  cases h with
  | operand h =>
    simp only [step, stepStart]
    split
    case h_4 => rw [h]
    all_goals
      rename_i hl
      simp [operand?, hl] at h
  | and hf h | or hf h | closeParen hf h =>
    rw [step_of_formula? hf] <;> simp [stepComplete, h]
  | _ h => simp [step, stepStart, stepOperand, h]

theorem step_ok : step p t = .ok q ↔ Step p t q := ⟨Step.of_step, Step.step_eq⟩

/-- What a list of tokens does. -/
def Reaches (p : Parser) (ts : List Token) (q : Parser) : Prop := ts.foldlM step p = .ok q

theorem reaches_nil : Reaches p [] q ↔ p = q := pure_ok

theorem reaches_cons : Reaches p (t :: ts) r ↔ ∃ q, Step p t q ∧ Reaches q ts r := by
  unfold Reaches
  rw [List.foldlM_cons, bind_ok]
  simp only [step_ok]

theorem reaches_append : Reaches p (ts ++ us) r ↔ ∃ q, Reaches p ts q ∧ Reaches q us r := by
  unfold Reaches
  rw [List.foldlM_append, bind_ok]

theorem Reaches.append (h : Reaches p ts q) (hu : Reaches q us r) : Reaches p (ts ++ us) r :=
  reaches_append.mpr ⟨q, h, hu⟩

theorem Step.then (h : Step p t q) (hr : Reaches q ts r) : Reaches p (t :: ts) r :=
  reaches_cons.mpr ⟨q, h, hr⟩

theorem Step.reaches (h : Step p t q) : Reaches p [t] q := h.then (reaches_nil.mpr rfl)

/-- The parser ends well outside of all parentheses, after a complete formula. -/
theorem finish_ok : p.finish = .ok f ↔
    p.outer = [] ∧ ∃ g, p.phase.formula? = some g ∧ p.level.disjoin g = f := by
  obtain ⟨outer, level, phase⟩ := p
  unfold finish Phase.formula?
  cases outer with
  | cons => cases phase <;> simp
  | nil =>
    cases phase with
    | operand x => cases x <;> simp
    | _ => simp

theorem parse_ok {tokens : List Token} :
    parse tokens = .ok f ↔ ∃ p, Reaches initial tokens p ∧ p.finish = .ok f := by
  unfold parse Reaches
  cases tokens.foldlM step initial <;> simp

end Parser

/-- A source is parsed when the whole of it has tokens and these make a formula. -/
theorem Formula.parse_ok {source : String} {f : Formula} : Formula.parse source = .ok f ↔
    ∃ tokens, Token.all source = .ok tokens ∧ Parser.parse tokens = .ok f := by
  unfold Formula.parse
  rw [bind_ok]
  refine exists_congr fun tokens => and_congr_right fun _ => ?_
  split <;> simp [*]

end ConfigRules.Condition
