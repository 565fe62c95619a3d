import ConfigRules.Settings.Format
import ConfigRules.Settings.Name
import ConfigRules.Settings.Value

/-!
The settings of the command line: from files, of which the later ones have the last word, and then
from environment variables.
-/

namespace ConfigRules

structure Settings where
  serviceName : String
  environment : String
  mode : Mode
  pretty : Bool
  logLevel : String
  jsonLogs : Bool
deriving DecidableEq

namespace Settings

def isProduction (s : Settings) : Bool := s.environment = "production"

/-- The settings where nothing is set. -/
def initial : Settings := ⟨"", "", .failFast, false, "info", false⟩

/-- Adds the top entries of a source. -/
def addEntries (tree : Tree) (entries : Tree.Entries) : Tree :=
  entries.foldl (fun tree (name, v) => Tree.place v (entrySteps name) tree) tree

/-- Adds a file, if it is there. A byte order mark before the document does not count. -/
def addFile (tree : Tree) : Option (Format × String) → Option Tree
  | none => some tree
  | some (format, text) => (format.parse? (Text.dropMark text.toList)).map (addEntries tree)

/-- What the names of the variables for settings begin with. -/
def variableStart : List Char := "checker__".toList

/-- The name of an entry that a variable is for; two underscores stand for a dot. -/
def entryName? (varName : String) : Option String :=
  let name := Text.lowercase varName.toList
  if variableStart.isPrefixOf name then some (String.ofList (dots (name.drop variableStart.length)))
  else none
where
  dots : List Char → List Char
    | '_' :: '_' :: cs => '.' :: dots cs
    | c :: cs => c :: dots cs
    | [] => []

def addVariables (tree : Tree) (vars : List (String × String)) : Tree :=
  addEntries tree (vars.filterMap fun (varName, s) =>
    (entryName? varName).map fun name => (name, ofVariable s))

/-- The value of a part, or a default where there is none. -/
def read (part : Option Tree) (as? : Tree → Option α) (default : α) : Option α :=
  match part with
  | none => some default
  | some v => as? v

/-- A section of the settings; one that is not there has no parts. -/
def section? (tree : Tree) (name : String) : Option Tree :=
  match tree.entries.get? name with
  | none => some (.table [])
  | some (.table es) => some (.table es)
  | some (.list vs) => some (.list vs)
  | some _ => none

/-- The settings that a tree holds. -/
def ofTree? (tree : Tree) : Option Settings := do
  let check ← section? tree "check"
  let observability ← section? tree "observability"
  return {
    serviceName := ← read (tree.entries.get? "service_name") Tree.text? initial.serviceName
    environment := ← read (tree.entries.get? "environment") Tree.text? initial.environment
    mode := ← read (check.part? "mode" 0) Tree.mode? initial.mode
    pretty := ← read (check.part? "pretty" 1) Tree.truth? initial.pretty
    logLevel := ← read (observability.part? "log_level" 0) Tree.text? initial.logLevel
    jsonLogs := ← read (observability.part? "json_logs" 1) Tree.truth? initial.jsonLogs }

/-- What the name of a settings file ends in. -/
def fileEnding : String := ".toml"

/-- The names of the settings files, the one with the last word last. -/
def fileNames (service environment : String) : List String :=
  ["default", environment, service].map (· ++ fileEnding)

/-- The names under which a settings file may stand instead, with the format that each one tells. -/
def otherNames (name : String) : List (Format × String) :=
  Format.all.flatMap fun format => format.endings.map fun ending => (format, name ++ ending)

/-- The name has nothing but its ending. -/
def isBare (name : String) : Bool :=
  (name.toList.reverse.takeWhile (· != '/')).reverse == fileEnding.toList

/-- The text of a settings file with its format, under its name or else the first other one that
there is. A file without a name before its ending does not count. -/
def findFile? (readFile : String → Option String) (name : String) : Option (Format × String) :=
  match readFile name with
  | some text => if isBare name then none else some (.toml, text)
  | none => (otherNames name).findSome? fun (format, other) =>
    (readFile other).map fun text => (format, text)

/-- The settings of a service in an environment. A file that is missing is skipped; one that is no
document of its format spoils the settings, and so does a value of the wrong kind. -/
def load? (service environment : String) (readFile : String → Option String)
    (vars : List (String × String)) : Option Settings := do
  let start := Tree.table [("service_name", .text service), ("environment", .text environment)]
  let tree ← (fileNames service environment).foldlM
    (fun tree name => addFile tree (findFile? readFile name)) start
  ofTree? (addVariables tree vars)

end Settings

end ConfigRules
