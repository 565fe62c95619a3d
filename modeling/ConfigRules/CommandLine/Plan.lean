import ConfigRules.CommandLine.Tools
import ConfigRules.Document

/-!
What the command line does. From its arguments, the variables around it and the files that it reads
comes a plan: what it writes and prints, in order, and its exit status. The checked configuration is
published only by a plan in which no rule fails.
-/

namespace ConfigRules.CommandLine

/-- A message that ends the program, with what caused it. -/
def fatal (message : String) (cause : Option String) : String :=
  "Error: " ++ message ++ "\n" ++ (cause.map fun c => "\nCaused by:\n    " ++ c ++ "\n").getD ""

/-- The plan that only reports a failure. -/
def failed (complaint : String) : Plan := ⟨[.complain complaint], 1⟩

def errorLine (e : Error) : String := "[" ++ e.code ++ "] " ++ e.message ++ "\n"

/-- Where the checked configuration goes. -/
def publish (output : Option String) (text : String) : Action :=
  match output with
  | some path => .write "output" path (text ++ "\n")
  | none => .print (text ++ "\n")

namespace Tools

variable (t : Tools)

/-- The object in a file, or else the final message. -/
def load (read : Reader) (path : String) : Except String Config :=
  match read path with
  | .error fault =>
    .error (fatal (DocumentError.unreadable path fault.reason).message (some fault.reason))
  | .ok text =>
    match objectOf path (t.parse? text) with
    | .ok config => .ok config
    | .error e => .error (fatal e.message none)

def reportActions (path : Option String) (report : Report) : List Action :=
  match path with
  | none => []
  | some path => [.write "report" path (t.pretty report.toJson)]

/-- The plan after a pass: first the report, then the failures or else the configuration. -/
def conclude (a : Arguments) (pretty : Bool) (report : Report) (config : Config) : Plan :=
  let before := t.reportActions a.report report
  match report.failures with
  | [] => ⟨before ++ [publish a.output (t.layout pretty (.object config))], 0⟩
  | failures =>
    let verdict := Nat.repr failures.length ++ " rule(s) failed for " ++ a.config
    ⟨before ++ failures.map (fun (_, e) => .complain (errorLine e)) ++
      [.complain (fatal verdict none)], 1⟩

/-- The plan for checking a configuration. -/
def check (a : Arguments) (settings : Settings) (read : Reader) : Plan :=
  match t.load read a.rules with
  | .error message => failed message
  | .ok definitions =>
    match Ruleset.ofDefinitions definitions with
    | .error e => failed (errorLine e ++ fatal ("Invalid rule set: " ++ a.rules) none)
    | .ok rules =>
      match t.load read a.config with
      | .error message => failed message
      | .ok config =>
        let mode := if a.collectAll then .collectAll else settings.mode
        let (report, final) := rules.run mode config
        t.conclude a (a.pretty || settings.pretty) report final

/-- The complaint before the plan for a call. -/
def notice (vars : List (String × String)) (read : Reader) : List Action :=
  if (t.settings? vars read).isSome then []
  else [.complain "Failed to load config, using defaults\n"]

/-- The plan for a call. -/
def plan (arguments : List String) (vars : List (String × String)) (read : Reader) : Plan :=
  match t.call arguments (vars.lookup "CHECKER_RULES") with
  | .error p => p
  | .ok a =>
    let p := t.check a (t.settingsFor vars read) read
    { p with actions := t.notice vars read ++ p.actions }

end Tools

end ConfigRules.CommandLine
