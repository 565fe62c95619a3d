import ConfigRules.Error
import ConfigRules.Path

/-!
Reports: what became of each rule of a pass, and the JSON that tells it.
-/

namespace ConfigRules

inductive Outcome where
  | written (value : Json)
  | unchanged
  | failed (e : Error)

namespace Outcome

def error? : Outcome → Option Error
  | failed e => some e
  | _ => none

/-- The configuration after the outcome of a rule for an item. -/
def store (item : Path) (config : Config) : Outcome → Config
  | written value => item.set value config
  | _ => config

end Outcome

/-- What became of one rule. -/
structure Resolution where
  rule : String
  /-- The source of the condition that held; none for the base. -/
  selected : Option String
  outcome : Outcome

/-- The resolutions of a pass in the order of the rules. -/
abbrev Report := List Resolution

namespace Report

def failures (report : Report) : List (String × Error) :=
  report.filterMap fun r => r.outcome.error?.map fun e => (r.rule, e)

def isSuccess (report : Report) : Bool := report.all fun r => r.outcome.error?.isNone

/-- The first failure, if there is one. -/
def result (report : Report) : Except Error Unit :=
  match report.failures with
  | [] => .ok ()
  | (_, e) :: _ => .error e

end Report

def Outcome.toJson : Outcome → Json
  | written value => .object [("status", .string "written"), ("value", value)]
  | unchanged => .object [("status", .string "unchanged")]
  | failed e =>
    .object [("status", .string "failed"),
      ("value", .object [("code", .string e.code), ("message", .string e.message)])]

def Resolution.toJson (r : Resolution) : Json :=
  .object [("rule", .string r.rule), ("selected", (r.selected.map Json.string).getD .null),
    ("outcome", r.outcome.toJson)]

def Report.toJson (report : Report) : Json :=
  .object [("resolutions", .array (report.map Resolution.toJson))]

end ConfigRules
