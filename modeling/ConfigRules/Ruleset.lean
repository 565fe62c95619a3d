import ConfigRules.Json.Reader
import ConfigRules.Precedence
import ConfigRules.Rule.Basic

/-!
Rule sets. A rule set holds rules for different items in an order in which every rule comes after
those for the items that its conditions refer to.
-/

namespace ConfigRules

structure Ruleset where
  /-- The rules as they were defined. -/
  rules : List Rule
  /-- Their indices in the order in which they apply. -/
  order : List Nat

namespace Ruleset

/-- The index of the rule for an item. -/
def indexOf? (rules : List Rule) (item : Path) : Option Nat :=
  rules.findIdx? (·.path.SameItem item)

/-- The rule after one for the same item, with that one; `seen` comes before the list. -/
def duplicate? (seen : List Rule) : List Rule → Option (Rule × Rule)
  | [] => none
  | r :: rest =>
    match seen.find? (·.path.SameItem r.path) with
    | some earlier => some (r, earlier)
    | none => duplicate? (seen ++ [r]) rest

/-- The pairs of a rule referred to and a rule that refers to it, by index. -/
def edges (rules : List Rule) : List (Nat × Nat) :=
  rules.zipIdx.flatMap fun (r, i) =>
    (r.references.filterMap (indexOf? rules)).map fun j => (j, i)

def precedence (rules : List Rule) : Precedence := ⟨rules.length, edges rules⟩

/-- The rules of some indices. -/
def pick (rules : List Rule) (indices : List Nat) : List Rule :=
  indices.filterMap fun i => rules[i]?

/-- The rule set of some rules. Two rules for one item, or rules that refer to one another in a
circle, make none. -/
def ofRules (rules : List Rule) : Except Error Ruleset :=
  match duplicate? [] rules with
  | some (r, earlier) => .error (.badRule r.name (.duplicate earlier.name))
  | none =>
    match (precedence rules).order with
    | .ok order => .ok ⟨rules, order⟩
    | .error cycle => .error (.cycle ((pick rules cycle).map Rule.name))

/-- The rule set of named definitions. -/
def ofDefinitions (definitions : List (String × Json)) : Except Error Ruleset := do
  ofRules (← definitions.mapM fun (name, definition) => Rule.define name definition)

/-- The rule set of a JSON text. -/
def ofText (text : String) : Except Error Ruleset :=
  match Json.parse? text with
  | none => .error .notJson
  | some (.object definitions) => ofDefinitions definitions
  | some _ => .error (.badRule "<root>" .notRuleset)

/-- The rules in the order in which they apply. -/
def ordered (s : Ruleset) : List Rule := pick s.rules s.order

end Ruleset

end ConfigRules
