import ConfigRules.Proofs.Condition.Step
import ConfigRules.Proofs.Condition.Token

/-!
The items that formulas name. Each token that the parser takes adds the item that it names, and no
item is lost or moved on the way.
-/

namespace ConfigRules.Condition

theorem Formula.itemsOfAll_append (fs gs : List Formula) :
    itemsOfAll (fs ++ gs) = itemsOfAll fs ++ itemsOfAll gs := by
  induction fs with
  | nil => rfl
  | cons f fs ih => simp [itemsOfAll, ih]

/-- The items of a left side that may be waiting. -/
def sideItems (side : Option Formula) : List Path := side.elim [] Formula.items

namespace Level

def items (l : Level) : List Path := sideItems l.disjunct ++ sideItems l.conjunct

theorem conjoin_items (l : Level) (f : Formula) :
    (l.conjoin f).items = sideItems l.conjunct ++ f.items := by
  have hnegated : ∀ n : Nat, (n.repeat Formula.not f).items = f.items := by
    intro n
    induction n with
    | zero => rfl
    | succ n ih => exact ih
  unfold conjoin sideItems
  cases l.conjunct with
  | none => exact hnegated l.negations
  | some g => simp [Formula.items, hnegated]

theorem disjoin_items (l : Level) (f : Formula) : (l.disjoin f).items = l.items ++ f.items := by
  unfold disjoin items sideItems
  cases l.disjunct with
  | none => simp [conjoin_items, sideItems]
  | some g => simp [Formula.items, conjoin_items, sideItems]

end Level

/-- The items that have come and wait in a phase. -/
def Phase.items : Phase → List Path
  | start => []
  | operand x | negation x _ | rightSide x _ | listStart x _ => x.items
  | element x _ elements | separator x _ elements => x.items ++ Formula.itemsOfAll elements
  | complete f => f.items

theorem Phase.items_of_formula? {phase : Phase} {f : Formula} (h : phase.formula? = some f) :
    phase.items = f.items := by
  unfold formula? at h
  split at h <;> cases h <;> rfl

namespace Parser

/-- All the items that have come, from the outermost level inwards. -/
def items (p : Parser) : List Path :=
  p.outer.reverse.flatMap Level.items ++ p.level.items ++ p.phase.items

variable {p q : Parser} {t : Token} {x f : Formula}

theorem operand?_items (h : operand? t = some x) : x.items = t.lexeme.path?.toList := by
  unfold operand? at h
  split at h
  case h_4 => cases h
  all_goals
    rename_i hl
    cases h
    rw [hl]
    rfl

/-- A step adds the item of its token. -/
theorem step_items (h : Step p t q) : q.items = p.items ++ t.lexeme.path?.toList := by
  cases h with
  | operand h | rightSide h | element h =>
    rw [← operand?_items h]
    simp [items, Phase.items, Formula.items, Formula.itemsOfAll_append, Formula.itemsOfAll]
  | and hf h | or hf h | closeParen hf h =>
    simp only [items, Phase.items_of_formula? hf]
    rw [h]
    simp [Phase.items, Level.items, Level.conjoin_items, Level.disjoin_items, sideItems,
      Lexeme.path?]
  | _ h =>
    rw [h]
    simp [items, Phase.items, Level.items, Level.empty, sideItems, Formula.items,
      Formula.itemsOfAll, Lexeme.path?]

theorem reaches_items {tokens : List Token} (h : Reaches p tokens q) :
    q.items = p.items ++ tokens.filterMap fun t => t.lexeme.path? := by
  induction tokens generalizing p with
  | nil =>
    rw [reaches_nil.mp h]
    simp
  | cons t tokens ih =>
    obtain ⟨p', hp, h⟩ := reaches_cons.mp h
    rw [ih h, step_items hp]
    cases hpath : t.lexeme.path? <;> simp [hpath]

/-- A formula names the items of its tokens, in the same order. -/
theorem parse_items {tokens : List Token} (h : parse tokens = .ok f) :
    f.items = tokens.filterMap fun t => t.lexeme.path? := by
  obtain ⟨p, hp, hf⟩ := parse_ok.mp h
  obtain ⟨houter, g, hg, rfl⟩ := finish_ok.mp hf
  have hitems := reaches_items hp
  rw [Level.disjoin_items, ← Phase.items_of_formula? hg]
  simpa [items, houter, initial, Level.items, Level.empty, sideItems, Phase.items] using hitems

end Parser

end ConfigRules.Condition
