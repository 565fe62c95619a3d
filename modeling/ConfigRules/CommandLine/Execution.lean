import ConfigRules.CommandLine.Standard

/-!
Carrying out a plan on the files of a working directory.
-/

namespace ConfigRules.CommandLine

/-- What a call leaves behind. -/
structure Result where
  status : Nat
  files : Files
  output : String
  complaints : String

/-- The complaint about a file that cannot be written. -/
def writeFailure (purpose path : String) (fault : FileFault) : String :=
  fatal ("Failed to write " ++ purpose ++ " to " ++ path) (some fault.reason)

/-- Carries out actions in order, up to a write that fails. -/
def execute (status : Nat) (r : Result) : List Action → Result
  | [] => { r with status }
  | .print text :: rest => execute status { r with output := r.output ++ text } rest
  | .complain text :: rest => execute status { r with complaints := r.complaints ++ text } rest
  | .write purpose path content :: rest =>
    match r.files.write path content with
    | .ok files => execute status { r with files } rest
    | .error fault =>
      { r with status := 1, complaints := r.complaints ++ writeFailure purpose path fault }

/-- A call in a working directory. -/
def Tools.run (t : Tools) (arguments : List String) (vars : List (String × String))
    (files : Files) : Result :=
  let p := t.plan arguments vars files.read
  execute p.status ⟨0, files, "", ""⟩ p.actions

/-- A call of the program. -/
def run : List String → List (String × String) → Files → Result := Tools.standard.run

end ConfigRules.CommandLine
