import ConfigRules.Report
import ConfigRules.Ruleset

/-!
Passes of a rule set over a configuration. Each rule sees what the rules before it have written; a
rule that fails writes nothing.
-/

namespace ConfigRules

/-- Whether a pass ends at the first rule that fails. -/
inductive Mode where
  | failFast
  | collectAll
deriving DecidableEq

/-- What a rule does on a configuration. -/
def Rule.resolve (r : Rule) (config : Config) : Resolution :=
  match r.select config with
  | .error e => ⟨r.name, none, .failed e⟩
  | .ok selected =>
    let source := selected.map fun v => v.condition.source
    match r.checkSelected config selected with
    | .ok (some v) => ⟨r.name, source, .written v.toJson⟩
    | .ok none => ⟨r.name, source, .unchanged⟩
    | .error e => ⟨r.name, source, .failed e⟩

/-- Applies rules one after another. -/
def pass (mode : Mode) : List Rule → Config → Report × Config
  | [], config => ([], config)
  | r :: rest, config =>
    let resolution := r.resolve config
    if mode = .failFast ∧ resolution.outcome.error?.isSome then ([resolution], config)
    else
      let (report, final) := pass mode rest (resolution.outcome.store r.path config)
      (resolution :: report, final)

namespace Ruleset

/-- A pass over a configuration, with the configuration it leaves. -/
def run (s : Ruleset) (mode : Mode) (config : Config) : Report × Config :=
  pass mode s.ordered config

/-- A pass up to the first failure. -/
def check (s : Ruleset) (config : Config) : Except Error Unit × Config :=
  let (report, final) := s.run .failFast config
  (report.result, final)

end Ruleset

end ConfigRules
