import ConfigRules.CommandLine.Arguments
import ConfigRules.CommandLine.Files
import ConfigRules.Json.Basic
import ConfigRules.Settings.Basic

/-!
What the command line is built on: the reading and printing of JSON, of arguments, and of settings.
The command line takes whatever tools it is given for these.
-/

namespace ConfigRules.CommandLine

inductive Action where
  /-- Writes a file. If that fails, a message with what the file was for ends the plan. -/
  | write (purpose path content : String)
  | print (text : String)
  | complain (text : String)
deriving DecidableEq

structure Plan where
  actions : List Action
  status : Nat
deriving DecidableEq

/-- A way to read files by their paths. -/
abbrev Reader := String → Except FileFault String

structure Tools where
  /-- The value of a JSON text. -/
  parse? : String → Option Json
  /-- The JSON text of a value on one line. -/
  compact : Json → String
  /-- The indented JSON text of a value. -/
  pretty : Json → String
  /-- The check that a call asks for, or what it does instead; the rules may come from a variable. -/
  call : List String → Option String → Except Plan Arguments
  /-- The settings among some variables and files. -/
  settings? : List (String × String) → Reader → Option Settings

namespace Tools

variable (t : Tools)

/-- The text of a value. -/
def layout (pretty : Bool) (v : Json) : String := if pretty then t.pretty v else t.compact v

/-- The settings that a call goes by. Those that cannot be loaded are replaced by the initial
ones. -/
def settingsFor (vars : List (String × String)) (read : Reader) : Settings :=
  (t.settings? vars read).getD .initial

end Tools

end ConfigRules.CommandLine
