import ConfigRules.Condition.Basic
import ConfigRules.Reference
import ConfigRules.Requirement.Definition

/-!
Rules. A rule governs one item: it has a requirement on the item's value and variants of it, each
under a condition. The first variant whose condition holds takes the place of the base.
-/

namespace ConfigRules

structure Variant where
  condition : Condition
  requirement : Requirement

structure Rule where
  /-- The path of the item, as the rule is named. -/
  name : String
  base : Requirement
  variants : List Variant
  /-- The items that the conditions refer to, each item once, in order of first use. -/
  references : List Path

namespace Rule

def path (r : Rule) : Path := ⟨r.name⟩

/-- The items that a condition of a rule refers to. There must be one, and the rule's own item must
not be among them. -/
def readReferences (name source : String) : Except Error (List Path) :=
  let found := Reference.paths source
  if found.isEmpty then .error (.badRule name (.noReference source))
  else
    match found.find? (·.SameItem ⟨name⟩) with
    | some own => .error (.badRule name (.selfReference own))
    | none => .ok found

/-- The entries of the base with those of a section in their place. Sections hold no objects. -/
def override (name source : String) (entries : Json.Members) :
    Json.Members → Except Error Json.Members
  | [] => .ok entries
  | (key, .object _) :: _ => .error (.badRule name (.nestedObject source key))
  | (key, value) :: rest => override name source (entries.put key value) rest

/-- The variant of a section, and the items that its condition refers to. -/
def readVariant (name : String) (entries : Json.Members) (source : String)
    (overrides : Json.Members) : Except Error (Variant × List Path) := do
  let found ← readReferences name source
  let entries ← override name source entries overrides
  match Condition.parse source with
  | .error fault => .error (.malformed fault)
  | .ok condition => return (⟨condition, ← Requirement.define name entries⟩, found)

/-- The entries of a definition that are objects, by their keys. -/
def sections (entries : Json.Members) : List (String × Json.Members) :=
  entries.filterMap fun
    | (key, .object ms) => some (key, ms)
    | _ => none

/-- The entries of a definition that are no objects. -/
def plainEntries (entries : Json.Members) : Json.Members :=
  entries.filter fun (_, v) => v.shape ≠ .object

/-- The rule of a definition. An entry that is an object belongs to a condition, its key. -/
def define (name : String) (definition : Json) : Except Error Rule :=
  match definition with
  | .object entries => do
    let plain := plainEntries entries
    let base ← Requirement.define name plain
    let variants ← (sections entries).mapM fun (source, ms) => readVariant name plain source ms
    return {
      name, base
      variants := variants.map (·.1)
      references := (variants.flatMap (·.2)).eraseDupsBy fun p q => p.SameItem q }
  | _ => .error (.badRule name .notObject)

/-- The first variant whose condition holds, if there is one. -/
def firstHolding (name : String) (config : Config) : List Variant → Except Error (Option Variant)
  | [] => .ok none
  | v :: vs =>
    match v.condition.holds config with
    | .error fault => .error (.undecided (some name) v.condition.source fault)
    | .ok true => .ok (some v)
    | .ok false => firstHolding name config vs

/-- The variant that takes the place of the base on a configuration. -/
def select (r : Rule) (config : Config) : Except Error (Option Variant) :=
  firstHolding r.name config r.variants

/-- Holds the item's value against the requirement selected. -/
def checkSelected (r : Rule) (config : Config) (selected : Option Variant) :
    Except Error (Option Scalar) :=
  let requirement := (selected.map Variant.requirement).getD r.base
  match requirement.check r.name (r.path.get? config) with
  | .ok v => .ok v
  | .error v => .error (.violation v)

/-- Holds a configuration against the rule. The answer is the value to write back, if any. -/
def check (r : Rule) (config : Config) : Except Error (Option Scalar) := do
  r.checkSelected config (← r.select config)

end Rule

end ConfigRules
