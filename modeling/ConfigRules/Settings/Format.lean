import ConfigRules.Ini
import ConfigRules.Json5
import ConfigRules.Ron
import ConfigRules.Toml.Reader
import ConfigRules.Yaml.Reader

/-!
The formats of settings files, by what the names of the files end in.
-/

namespace ConfigRules.Settings

inductive Format where
  | toml | json | yaml | ini | ron | json5
deriving DecidableEq

namespace Format

def all : List Format := [toml, json, yaml, ini, ron, json5]

def endings : Format → List String
  | toml => [".toml"]
  | json => [".json"]
  | yaml => [".yaml", ".yml"]
  | ini => [".ini"]
  | ron => [".ron"]
  | json5 => [".json5"]

/-- The members of an object; no other value is a document. -/
def ofObject? : Json → Option Tree.Entries
  | .object ms => some (Tree.ofMembers ms)
  | _ => none

/-- The top entries of a document. -/
def parse? : Format → List Char → Option Tree.Entries
  | toml, text => Toml.parse? text
  | json, text => do ofObject? (← Json.parse? (String.ofList text))
  | yaml, text => (Yaml.parse? text).map Tree.ofMembers
  | ini, text => (Ini.parse? text).map Tree.ofMembers
  | ron, text => do ofObject? (← Ron.parse? text)
  | json5, text => do ofObject? (← Json5.parse? text)

end Format

end ConfigRules.Settings
