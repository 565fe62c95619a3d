import ConfigRules.Json.Reader
import ConfigRules.Path

/-!
Documents: texts that must hold a JSON object.
-/

namespace ConfigRules

inductive DocumentError where
  /-- The file cannot be read, with the system's reason. -/
  | unreadable (path reason : String)
  | notJson (path : String)
  | notObject (path : String) (actual : Json.Shape)

namespace DocumentError

def shapeName : Json.Shape → String
  | .null => "null"
  | .bool => "boolean"
  | .number => "number"
  | .string => "string"
  | .array => "array"
  | .object => "object"

def message : DocumentError → String
  | unreadable path reason => "读取文件失败: " ++ path ++ ": " ++ reason
  | notJson path => "JSON 解析失败: " ++ path
  | notObject path actual => "文档顶层必须是对象: " ++ path ++ ", 实际为 " ++ shapeName actual

end DocumentError

/-- The object that a document must be, from what its text was read as. -/
def objectOf (path : String) : Option Json → Except DocumentError Config
  | none => .error (.notJson path)
  | some (.object members) => .ok members
  | some v => .error (.notObject path v.shape)

/-- The object that a document holds. -/
def readDocument (path text : String) : Except DocumentError Config :=
  objectOf path (Json.parse? text)

end ConfigRules
