import ConfigRules.CommandLine.Plan
import ConfigRules.CommandLine.Standard
import ConfigRules.Proofs.CommandLine.Arguments
import ConfigRules.Proofs.Json.RoundTrip

/-!
What the command line relies on in its tools, and that the tools of the program do it.
-/

namespace ConfigRules.CommandLine

namespace Tools

/-- A number that is read as itself once it has been printed. -/
def Keeps (t : Tools) (n : Json.Number) : Prop :=
  t.parse? (t.compact (.number n)) = some (.number n)

/-- The line that a configuration is published as. -/
def document (t : Tools) (pretty : Bool) (c : Config) : String :=
  t.layout pretty (.object c) ++ "\n"

/-- What the tools are documented to do. Nothing is asked of the settings. -/
structure Documented (t : Tools) : Prop where
  /-- Of several values of one key, reading keeps one. -/
  parse_distinct : ∀ {text v}, t.parse? text = some v → v.Distinct
  integer_kept : ∀ n fits, t.Keeps (.integer n fits)
  /-- The text of a value is read as the value; of floats, this cannot always be said. -/
  compact_read : ∀ {v : Json}, v.Distinct → v.Within t.Keeps Json.Reader.maxDepth →
    t.parse? (t.compact v ++ "\n") = some v
  pretty_read : ∀ {v : Json}, v.Distinct → v.Within t.Keeps Json.Reader.maxDepth →
    t.parse? (t.pretty v ++ "\n") = some v
  /-- The switch may stand in front of the other arguments. -/
  collectAll_front : ∀ {arguments rulesVariable a}, t.call arguments rulesVariable = .ok a →
    a.collectAll = false → t.call ("--collect-all" :: arguments) rulesVariable = .ok a.collecting

namespace Documented

variable {t : Tools} {c : Config} {read : Reader} {path : String}

end Documented

end Tools

end ConfigRules.CommandLine
