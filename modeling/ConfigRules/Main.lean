import ConfigRules.CommandLine.Execution

/-!
The program: it reads what the plan for its call may need, and carries the plan out.
-/

namespace ConfigRules.CommandLine

/-- The usual names of the variables that have a meaning; the system shows a variable only by its
name. -/
def variableNames : List String :=
  ["CHECKER_RULES", "CHECKER_ENV", "CONFIG_DIR", "CHECKER__SERVICE_NAME", "CHECKER__ENVIRONMENT",
    "CHECKER__CHECK", "CHECKER__CHECK__MODE", "CHECKER__CHECK__PRETTY", "CHECKER__OBSERVABILITY",
    "CHECKER__OBSERVABILITY__LOG_LEVEL", "CHECKER__OBSERVABILITY__JSON_LOGS"]

def getVariables : IO (List (String × String)) :=
  variableNames.filterMapM fun name => do return (← IO.getEnv name).map fun value => (name, value)

/-- The number of a system error, which may come with a minus sign. -/
def errorNumber (code : UInt32) : Nat := min code.toNat (0 - code).toNat

def faultOf (e : IO.Error) : FileFault :=
  match e with
  | .noFileOrDirectory .. | .noSuchThing .. => .missing
  | .inappropriateType _ code _ =>
    if errorNumber code = 20 then .notDirectory else .isDirectory
  | .invalidArgument _ code _ =>
    if errorNumber code = 36 then .nameTooLong else .other (toString e)
  | _ => .other (toString e)

def readInput (path : String) : IO (String × Except FileFault String) := do
  try return (path, .ok (← IO.FS.readFile path))
  catch e => return (path, .error (faultOf e))

/-- Carries out actions in order and gives the exit status. -/
def perform (status : Nat) : List Action → IO UInt32
  | [] => return status.toUInt32
  | .print text :: rest => do
    (← IO.getStdout).putStr text
    perform status rest
  | .complain text :: rest => do
    (← IO.getStderr).putStr text
    perform status rest
  | .write purpose path content :: rest => do
    let fault ← try
        IO.FS.writeFile path content
        pure none
      catch e => pure (some (faultOf e))
    match fault with
    | none => perform status rest
    | some fault => do
      (← IO.getStderr).putStr (writeFailure purpose path fault)
      return 1

end ConfigRules.CommandLine

open ConfigRules.CommandLine in
def main (arguments : List String) : IO UInt32 := do
  let vars ← getVariables
  let contents ← (inputs arguments vars).mapM readInput
  let p := Tools.standard.plan arguments vars fun path => (contents.lookup path).getD (.error .missing)
  perform p.status p.actions
