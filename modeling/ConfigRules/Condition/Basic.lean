import ConfigRules.Condition.Evaluation
import ConfigRules.Condition.Parser

/-!
Conditions: formulas together with their source texts. A condition is parsed once and can then be
decided on any configuration.
-/

namespace ConfigRules

structure Condition where
  source : String
  formula : Condition.Formula

namespace Condition

def parse (source : String) : Except SyntaxFault Condition := do
  return ⟨source, ← Formula.parse source⟩

/-- The condition holds on a configuration. -/
def holds (c : Condition) (config : Config) : Except Fault Bool := c.formula.holds config

/-- The items that the condition names, each spelling once, in order of first use. -/
def items (c : Condition) : List Path := c.formula.items.eraseDups

end Condition

end ConfigRules
