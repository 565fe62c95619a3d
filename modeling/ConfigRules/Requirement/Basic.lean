import ConfigRules.Interval.Reader
import ConfigRules.Text.Quoted

/-!
Requirements on the value of one item, and how a raw value is held against one. A raw value that is
a text is read as the kind that the requirement declares.
-/

namespace ConfigRules

/-- The values that a requirement allows. -/
inductive Allowed where
  | values (vs : List Scalar)
  | interval (i : Interval)

namespace Allowed

def contains : Allowed → Scalar → Bool
  | values vs, v => vs.any (·.equal v)
  | interval i, v => i.contains v

def text : Allowed → String
  | values vs => "(" ++ ", ".intercalate (vs.map Scalar.text) ++ ")"
  | interval i => i.text

end Allowed

structure Requirement where
  /-- The item must exist; or else it must not. -/
  present : Bool
  kind : Kind
  allowed : Option Allowed
  /-- The value of an item that is missing. -/
  fallback : Option Scalar

/-- Why a value is not of the kind required. -/
inductive KindFault where
  | notScalar (expected : Kind) (actual : Json.Shape)
  | otherKind (expected : Kind) (actual : Scalar)
  /-- A text that represents a value of another kind. -/
  | otherText (expected : Kind) (text : String)

namespace KindFault

def shapeName : Json.Shape → String
  | .null => "null"
  | .bool => "bool"
  | .number => "number"
  | .string => "string"
  | .array => "array"
  | .object => "object"

def expectation (k : Kind) : String := "期望 " ++ k.name ++ " 类型的值，"

def reason : KindFault → String
  | notScalar expected actual => expectation expected ++ "实际为 " ++ shapeName actual
  | otherKind expected actual =>
    expectation expected ++ "实际为 " ++ actual.kind.name ++ " (" ++ actual.text ++ ")"
  | otherText expected text =>
    expectation expected ++ "字符串 " ++ Text.quoted text ++ " 表示的是 " ++
      (Scalar.kindOf text).name

end KindFault

/-- How the value of an item breaks a requirement. -/
inductive Violation where
  | missing (item : String)
  | forbidden (item : String)
  | mistyped (item : String) (fault : KindFault)
  | notAllowed (item : String) (value : Scalar) (allowed : Allowed)

namespace Violation

/-- The item whose value it is. -/
def item : Violation → String
  | missing item | forbidden item | mistyped item _ | notAllowed item _ _ => item

def message : Violation → String
  | missing item => "配置项缺失且没有默认值: " ++ item
  | forbidden item => "配置项不允许存在: " ++ item
  | mistyped item fault => "类型错误: " ++ item ++ ": " ++ fault.reason
  | notAllowed item value allowed =>
    "值不被允许: " ++ item ++ " = " ++ value.text ++ ", 必须属于 " ++ allowed.text

end Violation

namespace Requirement

/-- A value of a kind must exist, and any will do. -/
def anyOf (k : Kind) : Requirement := ⟨true, k, none, none⟩

/-- The value of the kind required that a raw value stands for. Only texts are converted. -/
def coerce (k : Kind) (raw : Json) : Except KindFault Scalar :=
  match Scalar.ofJson? raw with
  | none => .error (.notScalar k raw.shape)
  | some v =>
    if v.kind = k then .ok v
    else
      match v with
      | .str s =>
        let read := Scalar.read s
        if read.kind = k then .ok read else .error (.otherText k s)
      | _ => .error (.otherKind k v)

/-- A missing value and null are the same. -/
def given? (raw : Option Json) : Option Json :=
  match raw with
  | some .null => none
  | _ => raw

/-- Holds a raw value against a requirement. The answer is the value to write back, or none if there
is nothing to write. -/
def check (r : Requirement) (item : String) (raw : Option Json) :
    Except Violation (Option Scalar) :=
  match r.present, given? raw with
  | false, some _ => .error (.forbidden item)
  | false, none => .ok none
  | true, none =>
    match r.fallback with
    | some v => .ok (some v)
    | none => .error (.missing item)
  | true, some raw =>
    match coerce r.kind raw with
    | .error fault => .error (.mistyped item fault)
    | .ok v =>
      match r.allowed with
      | none => .ok (some v)
      | some allowed =>
        if allowed.contains v then .ok (some v) else .error (.notAllowed item v allowed)

end Requirement

end ConfigRules
