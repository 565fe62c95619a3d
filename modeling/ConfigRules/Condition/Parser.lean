import ConfigRules.Condition.Formula

/-!
Parsing conditions. `or` binds weaker than `and`, and `and` weaker than `not`; comparisons and
memberships take only literals and items and are not parts of one another.

The parser takes one token at a time. For every open parenthesis it keeps a level, which holds the
left sides that still wait for their right sides.
-/

namespace ConfigRules.Condition

/-- What waits at one level of parentheses for the formula that comes next. -/
structure Level where
  /-- The left side of an `or`. -/
  disjunct : Option Formula
  /-- The left side of an `and`. -/
  conjunct : Option Formula
  /-- How many times the formula is negated. -/
  negations : Nat

namespace Level

def empty : Level := ⟨none, none, 0⟩

/-- The conjunction that ends with a formula. -/
def conjoin (l : Level) (f : Formula) : Formula :=
  let f := l.negations.repeat Formula.not f
  (l.conjunct.map (Formula.and · f)).getD f

/-- The disjunction that ends with a formula. -/
def disjoin (l : Level) (f : Formula) : Formula :=
  let f := l.conjoin f
  (l.disjunct.map (Formula.or · f)).getD f

end Level

/-- What may come next. -/
inductive Phase where
  /-- A formula begins. -/
  | start
  /-- An operand has come; it may go on as a comparison or a membership. -/
  | operand (x : Formula)
  /-- A `not` has come after an operand; it must be that of `not in`. -/
  | negation (x : Formula) (token : Token)
  | rightSide (x : Formula) (r : Relation)
  | listStart (x : Formula) (negated : Bool)
  | element (x : Formula) (negated : Bool) (elements : List Formula)
  | separator (x : Formula) (negated : Bool) (elements : List Formula)
  /-- A formula is complete but for what waits for it. -/
  | complete (f : Formula)

structure Parser where
  /-- The levels around the innermost one, from the inside. -/
  outer : List Level
  level : Level
  phase : Phase

namespace Parser

def initial : Parser := ⟨[], .empty, .start⟩

/-- The operand that a token stands for. -/
def operand? (t : Token) : Option Formula :=
  match t.lexeme with
  | .number n => some (.number n t.position)
  | .text s => some (.text s t.position)
  | .item path => some (.item ⟨path⟩ t.position)
  | _ => none

/-- Takes a token at the start of a formula. -/
def stepStart (outer : List Level) (level : Level) (t : Token) : Except Token Parser :=
  match t.lexeme with
  | .not => .ok ⟨outer, { level with negations := level.negations + 1 }, .start⟩
  | .openParen => .ok ⟨level :: outer, .empty, .start⟩
  | .truth b => .ok ⟨outer, level, .complete (.truth b)⟩
  | _ =>
    match operand? t with
    | some x => .ok ⟨outer, level, .operand x⟩
    | none => .error t

/-- Takes a token after a complete formula. -/
def stepComplete (outer : List Level) (level : Level) (f : Formula) (t : Token) :
    Except Token Parser :=
  match t.lexeme, outer with
  | .and, _ => .ok ⟨outer, ⟨level.disjunct, some (level.conjoin f), 0⟩, .start⟩
  | .or, _ => .ok ⟨outer, ⟨some (level.disjoin f), none, 0⟩, .start⟩
  | .closeParen, level' :: outer => .ok ⟨outer, level', .complete (level.disjoin f)⟩
  | _, _ => .error t

/-- Takes a token after an operand. Only an item can stand alone as a formula. -/
def stepOperand (outer : List Level) (level : Level) (x : Formula) (t : Token) :
    Except Token Parser :=
  match t.lexeme with
  | .relation r => .ok ⟨outer, level, .rightSide x r⟩
  | .within => .ok ⟨outer, level, .listStart x false⟩
  | .not => .ok ⟨outer, level, .negation x t⟩
  | _ =>
    match x with
    | .item .. => stepComplete outer level x t
    | _ => .error t

/-- Takes one token, or refuses one: the token itself, or a `not` before it. -/
def step (p : Parser) (t : Token) : Except Token Parser :=
  match p.phase with
  | .start => stepStart p.outer p.level t
  | .operand x => stepOperand p.outer p.level x t
  | .negation x token =>
    if t.lexeme = .within then .ok { p with phase := .listStart x true } else .error token
  | .rightSide x r =>
    match operand? t with
    | some y => .ok { p with phase := .complete (.compare r x y) }
    | none => .error t
  | .listStart x negated =>
    if t.lexeme = .openParen then .ok { p with phase := .element x negated [] } else .error t
  | .element x negated elements =>
    match operand? t with
    | some y => .ok { p with phase := .separator x negated (elements ++ [y]) }
    | none => .error t
  | .separator x negated elements =>
    if t.lexeme = .comma then .ok { p with phase := .element x negated elements }
    else if t.lexeme = .closeParen then
      .ok { p with phase := .complete (.member x negated elements) }
    else .error t
  | .complete f => stepComplete p.outer p.level f t

/-- The formula at the end of the tokens; or else the token that does not fit, if it is not the end
that does not. -/
def finish (p : Parser) : Except (Option Token) Formula :=
  match p.outer, p.phase with
  | [], .complete f => .ok (p.level.disjoin f)
  | [], .operand (.item path position) => .ok (p.level.disjoin (.item path position))
  | _, .negation _ token => .error (some token)
  | _, _ => .error none

/-- The formula that tokens make. -/
def parse (tokens : List Token) : Except (Option Token) Formula :=
  match tokens.foldlM step initial with
  | .ok p => p.finish
  | .error t => .error (some t)

end Parser

/-- The formula of a source text. -/
def Formula.parse (source : String) : Except SyntaxFault Formula := do
  let tokens ← Token.all source
  match Parser.parse tokens with
  | .ok f => .ok f
  | .error (some t) => .error ⟨some t.text, source, t.position⟩
  | .error none => .error (.atEnd source)

end ConfigRules.Condition
