import ConfigRules.Proofs.Condition.Anchor
import ConfigRules.Proofs.Condition.Step

/-!
Where the parser refuses tokens. It refuses the first one that it has no use for, or the end, and
whatever it has taken before can still become a condition.
-/

namespace ConfigRules.Condition

namespace Parser

variable {p q : Parser} {t u : Token} {tokens : List Token} {x f : Formula}

theorem stepStart_error {outer : List Level} {level : Level}
    (h : stepStart outer level t = .error u) : u = t := by
  unfold stepStart at h
  split at h
  · cases h
  · cases h
  · cases h
  · split at h <;> cases h
    rfl

theorem stepComplete_error {outer : List Level} {level : Level}
    (h : stepComplete outer level f t = .error u) : u = t := by
  unfold stepComplete at h
  split at h <;> cases h
  rfl

theorem stepOperand_error {outer : List Level} {level : Level}
    (h : stepOperand outer level x t = .error u) : u = t := by
  unfold stepOperand at h
  split at h
  · cases h
  · cases h
  · cases h
  · split at h
    · exact stepComplete_error h
    · cases h
      rfl

/-- The token that is refused is the one that has come, or a `not` that has been taken and that it
does not go on with. -/
theorem step_error (h : step p t = .error u) : u = t ∨ ∃ x, p.phase = .negation x u := by
  obtain ⟨outer, level, phase⟩ := p
  cases phase with
  | start => exact .inl (stepStart_error h)
  | operand x => exact .inl (stepOperand_error h)
  | complete f => exact .inl (stepComplete_error h)
  | negation x token =>
    simp only [step] at h
    split at h <;> cases h
    exact .inr ⟨x, rfl⟩
  | rightSide x r =>
    simp only [step] at h
    split at h <;> cases h
    exact .inl rfl
  | listStart x negated =>
    simp only [step] at h
    split at h <;> cases h
    exact .inl rfl
  | element x negated elements =>
    simp only [step] at h
    split at h <;> cases h
    exact .inl rfl
  | separator x negated elements =>
    simp only [step] at h
    split at h
    · cases h
    · split at h <;> cases h
      exact .inl rfl

theorem finish_error (h : p.finish = .error (some u)) : ∃ x, p.phase = .negation x u := by
  unfold finish at h
  split at h
  · cases h
  · cases h
  · rename_i hp
    cases h
    exact ⟨_, hp⟩
  · cases h

/-- A `not` that waits for its `in` is the last token that has been taken. -/
theorem Reaches.before_not (h : Reaches initial tokens p) (hp : p.phase = .negation x u) :
    ∃ before q, tokens = before ++ [u] ∧ Reaches initial before q := by
  rcases List.eq_nil_or_concat tokens with rfl | ⟨before, t, rfl⟩
  · cases reaches_nil.mp h
    cases hp
  · rw [List.concat_eq_append] at h ⊢
    obtain ⟨q, hq, hlast⟩ := reaches_append.mp h
    obtain ⟨p', hstep, hend⟩ := reaches_cons.mp hlast
    cases reaches_nil.mp hend
    cases hstep with
    | negation ht =>
      cases hp
      exact ⟨before, _, rfl, hq⟩
    | _ => cases hp

theorem exists_refused (h : tokens.foldlM step p = .error u) : ∃ before t after q,
    tokens = before ++ t :: after ∧ Reaches p before q ∧ step q t = .error u := by
  induction tokens generalizing p with
  | nil => cases h
  | cons t tokens ih =>
    rw [List.foldlM_cons] at h
    rcases bind_error.mp h with ht | ⟨q, hq, h⟩
    · exact ⟨[], t, tokens, p, rfl, reaches_nil.mpr rfl, ht⟩
    · obtain ⟨before, t', after, r, rfl, hr, ht'⟩ := ih h
      exact ⟨t :: before, t', after, r, rfl, (step_ok.mp hq).then hr, ht'⟩

/-- The parser has taken all the tokens before the one that it refuses, or all there are if it
refuses the end. -/
theorem parse_refused {refused : Option Token} (h : parse tokens = .error refused) :
    ∃ before after q, tokens = before ++ after ∧ after.head? = refused ∧
      Reaches initial before q := by
  unfold parse at h
  split at h
  · rename_i p hp
    cases refused with
    | none => exact ⟨tokens, [], p, (List.append_nil tokens).symm, rfl, hp⟩
    | some u =>
      obtain ⟨x, hx⟩ := finish_error h
      obtain ⟨before, q, rfl, hq⟩ := Reaches.before_not hp hx
      exact ⟨before, [u], q, rfl, rfl, hq⟩
  · rename_i u hu
    cases h
    obtain ⟨before, t, after, q, rfl, hq, ht⟩ := exists_refused hu
    rcases step_error ht with rfl | ⟨x, hx⟩
    · exact ⟨before, u :: after, q, rfl, rfl, hq⟩
    · -- the refused `not` has been taken, so the tokens part one earlier
      obtain ⟨before', q', rfl, hq'⟩ := hq.before_not hx
      exact ⟨before', u :: t :: after, q', by simp, rfl, hq'⟩

/-- Some tokens take the parser to the end of a condition. -/
def CanEnd (p : Parser) : Prop := ∃ more q f, Reaches p more q ∧ q.finish = .ok f

theorem Step.canEnd (h : Step p t q) (hq : q.CanEnd) : p.CanEnd := by
  obtain ⟨more, r, f, hr, hf⟩ := hq
  exact ⟨t :: more, r, f, h.then hr, hf⟩

/-- A token of a lexeme. The parser does not look at its text. -/
def bare (l : Lexeme) : Token := ⟨l, "", 0⟩

/-- Behind a complete formula, one closing parenthesis for each level ends it. -/
theorem canEnd_complete (outer : List Level) (level : Level) (f : Formula) :
    CanEnd ⟨outer, level, .complete f⟩ := by
  induction outer generalizing level f with
  | nil => exact ⟨[], _, _, reaches_nil.mpr rfl, finish_ok.mpr ⟨rfl, f, rfl, rfl⟩⟩
  | cons level' outer ih =>
    have hclose : Step ⟨level' :: outer, level, .complete f⟩ (bare .closeParen)
        ⟨outer, level', .complete (level.disjoin f)⟩ := .closeParen rfl rfl
    exact hclose.canEnd (ih _ _)

theorem canEnd_rightSide (outer : List Level) (level : Level) (x : Formula) (r : Relation) :
    CanEnd ⟨outer, level, .rightSide x r⟩ := by
  have hright : Step ⟨outer, level, .rightSide x r⟩ (bare (.number (.int 0)))
      ⟨outer, level, .complete (.compare r x (.number (.int 0) 0))⟩ := .rightSide rfl
  exact hright.canEnd (canEnd_complete _ _ _)

theorem canEnd_separator (outer : List Level) (level : Level) (x : Formula) (negated : Bool)
    (elements : List Formula) : CanEnd ⟨outer, level, .separator x negated elements⟩ := by
  have hend : Step ⟨outer, level, .separator x negated elements⟩ (bare .closeParen)
      ⟨outer, level, .complete (.member x negated elements)⟩ := .listEnd rfl
  exact hend.canEnd (canEnd_complete _ _ _)

theorem canEnd_element (outer : List Level) (level : Level) (x : Formula) (negated : Bool)
    (elements : List Formula) : CanEnd ⟨outer, level, .element x negated elements⟩ := by
  have helement : Step ⟨outer, level, .element x negated elements⟩ (bare (.number (.int 0)))
      ⟨outer, level, .separator x negated (elements ++ [.number (.int 0) 0])⟩ := .element rfl
  exact helement.canEnd (canEnd_separator _ _ _ _ _)

theorem canEnd_listStart (outer : List Level) (level : Level) (x : Formula) (negated : Bool) :
    CanEnd ⟨outer, level, .listStart x negated⟩ := by
  have hopen : Step ⟨outer, level, .listStart x negated⟩ (bare .openParen)
      ⟨outer, level, .element x negated []⟩ := .listStart rfl
  exact hopen.canEnd (canEnd_element _ _ _ _ _)

/-- The parser has no state without a way out. -/
theorem canEnd (p : Parser) : p.CanEnd := by
  obtain ⟨outer, level, phase⟩ := p
  cases phase with
  | start =>
    have htruth : Step ⟨outer, level, .start⟩ (bare (.truth true))
        ⟨outer, level, .complete (.truth true)⟩ := .truth rfl
    exact htruth.canEnd (canEnd_complete _ _ _)
  | operand x =>
    have hrelation : Step ⟨outer, level, .operand x⟩ (bare (.relation .eq))
        ⟨outer, level, .rightSide x .eq⟩ := .relation rfl
    exact hrelation.canEnd (canEnd_rightSide _ _ _ _)
  | negation x token =>
    have hwithin : Step ⟨outer, level, .negation x token⟩ (bare .within)
        ⟨outer, level, .listStart x true⟩ := .notWithin rfl
    exact hwithin.canEnd (canEnd_listStart _ _ _ _)
  | rightSide x r => exact canEnd_rightSide _ _ _ _
  | listStart x negated => exact canEnd_listStart _ _ _ _
  | element x negated elements => exact canEnd_element _ _ _ _ _
  | separator x negated elements => exact canEnd_separator _ _ _ _ _
  | complete f => exact canEnd_complete _ _ _

/-- Tokens that the parser takes are the front of some that it accepts. -/
theorem Reaches.viable (h : Reaches initial tokens p) :
    ∃ more f, parse (tokens ++ more) = .ok f := by
  obtain ⟨more, q, f, hq, hf⟩ := p.canEnd
  exact ⟨more, f, parse_ok.mpr ⟨q, h.append hq, hf⟩⟩

end Parser

/-- The fault at the token that is refused, or else at the end. -/
def refusal (source : String) : Option Token → SyntaxFault
  | some t => ⟨some t.text, source, t.position⟩
  | none => .atEnd source

/-- A source has no formula if it has no tokens, or if its tokens are refused. -/
theorem Formula.parse_error {source : String} {fault : SyntaxFault} :
    Formula.parse source = .error fault ↔ Token.all source = .error fault ∨
      ∃ tokens refused, Token.all source = .ok tokens ∧ Parser.parse tokens = .error refused ∧
        refusal source refused = fault := by
  unfold Formula.parse
  rw [bind_error]
  refine or_congr_right (exists_congr fun tokens => ?_)
  split <;> simp [*, refusal]

variable {source : String} {tokens : List Token} {fault : SyntaxFault}

/-- An error never comes too late. Where a source has tokens and no formula, the tokens before the
place of the fault, which are all of them if the fault is at the end, are the front of some that the
parser accepts. -/
theorem Formula.parse_error_viable (h : Token.all source = .ok tokens)
    (hf : Formula.parse source = .error fault) :
    ∃ before after, tokens = before ++ after ∧ fault.token = after.head?.map Token.text ∧
      (∀ t ∈ before, t.position < fault.position) ∧ (∀ t ∈ after, fault.position ≤ t.position) ∧
      ∃ more f, Parser.parse (before ++ more) = .ok f := by
  rcases Formula.parse_error.mp hf with hnone | ⟨tokens', refused, hall, hparse, rfl⟩
  · cases hnone.symm.trans h
  · cases hall.symm.trans h
    obtain ⟨before, after, q, rfl, rfl, hq⟩ := Parser.parse_refused hparse
    obtain ⟨_, hafter, hbetween⟩ := List.pairwise_append.mp (Token.all_ordered h)
    refine ⟨before, after, rfl, ?_, ?_, ?_, hq.viable⟩
    · cases after <;> rfl
    · intro t ht
      cases after with
      | nil => exact (Token.all_anchored h t (List.mem_append_left _ ht)).lt_length
      | cons u after => exact hbetween t ht u List.mem_cons_self
    · cases after with
      | nil => exact List.forall_mem_nil _
      | cons u after =>
        rw [List.forall_mem_cons]
        exact ⟨Nat.le_refl _, fun t ht => Nat.le_of_lt (List.rel_of_pairwise_cons hafter ht)⟩

/-- Its second `not` goes on with no `in`. -/
def halfNegated : String := "not ({a} in (1, 2) or {b} not 3)"

theorem Formula.parse_error_viable_halfNegated : ∃ tokens fault,
    Token.all halfNegated = .ok tokens ∧ tokens.length = 14 ∧
    Formula.parse halfNegated = .error fault ∧ fault.token = some "not" ∧ fault.position = 26 ∧
    ∃ before after, tokens = before ++ after ∧ fault.token = after.head?.map Token.text ∧
      (∀ t ∈ before, t.position < fault.position) ∧ (∀ t ∈ after, fault.position ≤ t.position) ∧
      ∃ more f, Parser.parse (before ++ more) = .ok f := by
  obtain ⟨tokens, h, hlength⟩ : ∃ tokens, Token.all halfNegated = .ok tokens ∧
      tokens.length = 14 := exists_ok (by decide +kernel)
  obtain ⟨fault, hf, rfl⟩ : ∃ fault, Formula.parse halfNegated = .error fault ∧
      fault = ⟨some "not", halfNegated, 26⟩ := exists_error_of (by decide +kernel)
  exact ⟨tokens, _, h, hlength, hf, rfl, rfl, Formula.parse_error_viable h hf⟩

end ConfigRules.Condition
