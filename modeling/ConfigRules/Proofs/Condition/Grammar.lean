import ConfigRules.Condition.Parser

/-!
The grammar of conditions, over tokens.

    disjunction := conjunction ("or" conjunction)*
    conjunction := negation ("and" negation)*
    negation    := "not" negation | atom
    atom        := "(" disjunction ")" | "True" | "False" | operand relation operand
                 | operand ["not"] "in" "(" operand ("," operand)* ")" | ITEM
    operand     := NUMBER | TEXT | ITEM
-/

namespace ConfigRules.Condition

/-- The kinds of phrases, from the loosest to the tightest. -/
inductive Phrase where
  | disjunction | conjunction | negation | atom

inductive Operand (t : Token) : Formula → Prop
  | number {n} (h : t.lexeme = .number n) : Operand t (.number n t.position)
  | text {s} (h : t.lexeme = .text s) : Operand t (.text s t.position)
  | item {path} (h : t.lexeme = .item path) : Operand t (.item ⟨path⟩ t.position)

/-- Operands with commas between them. -/
inductive Operands : List Token → List Formula → Prop
  | one {t x} (h : Operand t x) : Operands [t] [x]
  | snoc {ts xs comma t x} (hs : Operands ts xs) (hc : comma.lexeme = .comma) (h : Operand t x) :
    Operands (ts ++ [comma, t]) (xs ++ [x])

/-- The words of a membership, negated or not. -/
inductive Within : List Token → Bool → Prop
  | within {t} (h : t.lexeme = .within) : Within [t] false
  | notWithin {n t} (hn : n.lexeme = .not) (h : t.lexeme = .within) : Within [n, t] true

/-- Tokens make up a phrase, with the formula that it stands for. What is repeated comes at the
end, so `or` and `and` have all that came before on their left. -/
inductive Derives : Phrase → List Token → Formula → Prop
  | conjunction {ts f} (h : Derives .conjunction ts f) : Derives .disjunction ts f
  | or {ts f t us g} (hf : Derives .disjunction ts f) (ht : t.lexeme = .or)
    (hg : Derives .conjunction us g) : Derives .disjunction (ts ++ t :: us) (.or f g)
  | negation {ts f} (h : Derives .negation ts f) : Derives .conjunction ts f
  | and {ts f t us g} (hf : Derives .conjunction ts f) (ht : t.lexeme = .and)
    (hg : Derives .negation us g) : Derives .conjunction (ts ++ t :: us) (.and f g)
  | atom {ts f} (h : Derives .atom ts f) : Derives .negation ts f
  | not {t ts f} (ht : t.lexeme = .not) (hf : Derives .negation ts f) :
    Derives .negation (t :: ts) (.not f)
  | parentheses {left ts f right} (hl : left.lexeme = .openParen) (hf : Derives .disjunction ts f)
    (hr : right.lexeme = .closeParen) : Derives .atom (left :: ts ++ [right]) f
  | truth {t b} (h : t.lexeme = .truth b) : Derives .atom [t] (.truth b)
  | compare {t x s r u y} (hx : Operand t x) (hr : s.lexeme = .relation r) (hy : Operand u y) :
    Derives .atom [t, s, u] (.compare r x y)
  | member {t x ws negated left ts xs right} (hx : Operand t x) (hw : Within ws negated)
    (hl : left.lexeme = .openParen) (hs : Operands ts xs) (hr : right.lexeme = .closeParen) :
    Derives .atom (t :: ws ++ left :: ts ++ [right]) (.member x negated xs)
  | item {t path} (h : t.lexeme = .item path) : Derives .atom [t] (.item ⟨path⟩ t.position)

/-- Every phrase is a disjunction of one conjunction, and so on down to its own kind. -/
theorem Derives.disjunction {k : Phrase} {ts : List Token} {f : Formula} (h : Derives k ts f) :
    Derives .disjunction ts f := by
  cases k with
  | disjunction => exact h
  | conjunction => exact .conjunction h
  | negation => exact .conjunction (.negation h)
  | atom => exact .conjunction (.negation (.atom h))

theorem Parser.operand?_eq_some {t : Token} {x : Formula} : operand? t = some x ↔ Operand t x := by
  unfold operand?
  constructor
  · intro h
    split at h <;> cases h
    · exact .number ‹_›
    · exact .text ‹_›
    · exact .item ‹_›
  · intro h
    cases h <;> simp [*]

end ConfigRules.Condition
