import ConfigRules.Condition.Fault
import ConfigRules.Requirement.Basic

/-!
Everything that can go wrong with a rule set or with a configuration held against one, and the codes
and messages that report it.
-/

namespace ConfigRules

/-- What is wrong with the definition of a rule. -/
inductive RuleFault where
  | notObject
  | illegalKey (key : String)
  | missingKey (key : String)
  /-- A value in the definition breaks what is required of it. -/
  | value (v : Violation)
  /-- The allowed interval is of another kind than the rule. -/
  | intervalKind (i : Interval) (declared : Kind)
  | nestedObject (condition key : String)
  | noReference (condition : String)
  | selfReference (path : Path)
  /-- An earlier rule governs the same item. -/
  | duplicate (earlier : String)
  | notRuleset

namespace RuleFault

def reason : RuleFault → String
  | notObject => "规则定义必须是对象"
  | illegalKey key => "非法的键 " ++ Text.quoted key
  | missingKey key => "缺少 " ++ key
  | value v => v.message
  | intervalKind i declared =>
    "区间 " ++ i.text ++ " 的类型是 " ++ i.kind.name ++ "，规则类型是 " ++ declared.name
  | nestedObject condition key =>
    "条件约束 " ++ Text.quoted condition ++ " 中不能再嵌套对象: " ++ Text.quoted key
  | noReference condition => "条件表达式 " ++ Text.quoted condition ++ " 中没有找到依赖"
  | selfReference path => "规则不能依赖自身: " ++ Condition.Formula.braced path
  | duplicate earlier => "规则重复定义，与 " ++ earlier ++ " 指向同一配置项"
  | notRuleset => "规则集必须是 JSON 对象"

end RuleFault

inductive Error where
  | malformed (fault : SyntaxFault)
  | badInterval (lower upper : Endpoint) (defect : Interval.Defect)
  | badRule (name : String) (fault : RuleFault)
  /-- Each rule is a dependency of the next one; the last is the first. -/
  | cycle (names : List String)
  | notJson
  | violation (v : Violation)
  /-- A condition cannot be decided; of a rule, if it belongs to one. -/
  | undecided (rule : Option String) (source : String) (fault : Condition.Fault)

namespace Error

def ofInterval : IntervalError → Error
  | .malformed fault => malformed fault
  | .invalid lower upper defect => badInterval lower upper defect

/-- It lies in the rules and not in the configuration. -/
def isDefinition : Error → Bool
  | violation _ | undecided .. => false
  | _ => true

def code : Error → String
  | malformed _ => "SYNTAX_ERROR"
  | badInterval .. => "RANGE_DEFINITION_ERROR"
  | badRule .. => "RULE_DEFINITION_ERROR"
  | cycle _ => "CYCLE_ERROR"
  | notJson => "JSON_ERROR"
  | violation (.missing _) => "MANDATORY_ERROR"
  | violation (.forbidden _) => "FORBIDDEN_ERROR"
  | violation (.mistyped ..) => "TYPE_ERROR"
  | violation (.notAllowed ..) => "NOT_ALLOWED_ERROR"
  | undecided _ _ (.unresolved ..) => "UNRESOLVED_ITEM"
  | undecided _ _ (.mismatch _) => "TYPE_ERROR"

def message : Error → String
  | malformed fault => fault.message
  | badInterval lower upper defect => (IntervalError.invalid lower upper defect).message
  | badRule name fault => "规则定义错误: " ++ name ++ ": " ++ fault.reason
  | cycle names => "规则依赖存在环: " ++ " -> ".intercalate names
  | notJson => "JSON 序列化错误"
  | violation v => v.message
  | undecided rule source (.unresolved path position) =>
    (rule.map (· ++ ": ")).getD "" ++ "条件表达式引用的配置项不存在: " ++
      Condition.Formula.braced path ++ "\n" ++ source ++ "\n" ++ Text.caretLine source position
  | undecided none source (.mismatch m) => "类型错误: " ++ source ++ ": " ++ m.reason
  | undecided (some rule) source (.mismatch m) =>
    "类型错误: " ++ rule ++ ": 条件 " ++ source ++ ": " ++ m.reason

end Error

end ConfigRules
