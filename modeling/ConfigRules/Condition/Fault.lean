import ConfigRules.Condition.Formula

/-!
Why a condition cannot be decided on a configuration.
-/

namespace ConfigRules.Condition

/-- Values and formulas that do not go together. -/
inductive Mismatch where
  /-- An item that stands alone holds no truth value. -/
  | notTruth (path : Path) (value : Scalar) (position : Nat)
  /-- A formula that stands alone is a literal. -/
  | notCondition (f : Formula)
  /-- A formula that is compared is neither a literal nor an item. -/
  | notOperand (f : Formula)
  | notScalar (path : Path) (position : Nat)
  | mixedKinds (left : Scalar) (r : Relation) (right : Scalar) (position : Nat)
  | unrelated (r : Relation) (kind : Kind) (position : Nat)
  /-- The subject of a membership is of a kind that has none. -/
  | unlisted (subject : Scalar) (position : Nat)
  /-- An element of a list has no value of the subject's kind. -/
  | inconvertible (element : Scalar) (kind : Kind) (position : Nat)

namespace Mismatch

def place (position : Nat) : String := " (位置 " ++ Nat.repr position ++ ")"

def reason : Mismatch → String
  | notTruth path value position =>
    "配置项 " ++ Formula.braced path ++ " 的值 " ++ value.text ++ " 不是布尔值" ++ place position
  | notCondition f => f.display ++ " 不是布尔表达式" ++ place f.place
  | notOperand f => f.display ++ " 不是比较操作数"
  | notScalar path position => "配置项 " ++ Formula.braced path ++ " 不是标量值" ++ place position
  | mixedKinds left r right position =>
    left.text ++ " " ++ r.symbol ++ " " ++ right.text ++ " 两侧类型不一致: " ++
      left.kind.name ++ " 与 " ++ right.kind.name ++ place position
  | unrelated r kind position =>
    "操作符 " ++ r.symbol ++ " 不支持 " ++ kind.name ++ " 类型的操作数" ++ place position
  | unlisted subject position =>
    "成员检查不支持 " ++ subject.kind.name ++ " 类型的值 " ++ subject.text ++ place position
  | inconvertible element kind position =>
    "列表元素 " ++ element.text ++ " 无法转换为 " ++ kind.name ++ " 类型" ++ place position

end Mismatch

inductive Fault where
  /-- An item is absent, or null. -/
  | unresolved (path : Path) (position : Nat)
  | mismatch (m : Mismatch)

end ConfigRules.Condition
