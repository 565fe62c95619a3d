import ConfigRules.CommandLine.Plan
import ConfigRules.Json.Printer
import ConfigRules.Json.Reader

/-!
The tools with which the program runs.
-/

namespace ConfigRules.CommandLine

def programName : String := "config-checker"
def programVersion : String := "0.1.0"

/-- The path of a file from a directory; a directory without a name is the working directory. A path
from the root stays as it is. -/
def joinPath (directory name : String) : String :=
  if directory = "" || name.toList.head? = some '/' then name
  else if directory.toList.getLast? = some '/' then directory ++ name
  else directory ++ "/" ++ name

def environmentName (vars : List (String × String)) : String :=
  (vars.lookup "CHECKER_ENV").getD "development"

def settingsDirectory (vars : List (String × String)) : String :=
  (vars.lookup "CONFIG_DIR").getD "config"

def settings? (vars : List (String × String)) (read : Reader) : Option Settings :=
  Settings.load? programName (environmentName vars)
    (fun name => (read (joinPath (settingsDirectory vars) name)).toOption) vars

/-- The help text; it shows the variable that can name the rules. -/
def helpText (rulesVariable : Option String) : String :=
  "Check and normalize a configuration against contextual rules\n\n" ++
  "Usage: config-checker [OPTIONS] --rules <RULES> <CONFIG>\n\n" ++
  "Arguments:\n" ++
  "  <CONFIG>  待检查的配置文件\n\n" ++
  "Options:\n" ++
  "  -r, --rules <RULES>    规则集文件（JSON 对象，键顺序即定义顺序） [env: CHECKER_RULES=" ++
    rulesVariable.getD "" ++ "]\n" ++
  "  -o, --output <OUTPUT>  规范化配置的输出路径，缺省写到 stdout\n" ++
  "      --collect-all      评估全部规则后统一报告失败\n" ++
  "      --pretty           格式化输出\n" ++
  "      --report <REPORT>  把每条规则的处理结果写成 JSON 报告\n" ++
  "  -h, --help             Print help\n" ++
  "  -V, --version          Print version\n"

/-- What a call does that asks for a check, for help, or for nothing that there is. -/
def call (arguments : List String) (rulesVariable : Option String) : Except Plan Arguments :=
  match invocation arguments rulesVariable with
  | .ok (.check a) => .ok a
  | .ok .help => .error ⟨[.print (helpText rulesVariable)], 0⟩
  | .ok .version => .error ⟨[.print (programName ++ " " ++ programVersion ++ "\n")], 0⟩
  | .error e => .error ⟨[.complain ("error: " ++ e.message ++ "\n")], 2⟩

def Tools.standard : Tools :=
  ⟨Json.parse?, Json.compact, Json.pretty, CommandLine.call, CommandLine.settings?⟩

/-- The paths that the plan for a call may read. -/
def inputs (arguments : List String) (vars : List (String × String)) : List String :=
  match call arguments (vars.lookup "CHECKER_RULES") with
  | .ok a =>
    let names := Settings.fileNames programName (environmentName vars)
    let others := names.flatMap fun name => (Settings.otherNames name).map (·.2)
    a.rules :: a.config :: (names ++ others).map (joinPath (settingsDirectory vars))
  | .error _ => []

end ConfigRules.CommandLine
