import ConfigRules.Number
import ConfigRules.SyntaxFault

/-!
Intervals of numbers. Each side has an endpoint or goes on without bound, and an endpoint belongs to
the interval or not.
-/

namespace ConfigRules

/-- One side of an interval; without a number it is unbounded. -/
structure Endpoint where
  number : Option Number
  /-- The number itself lies outside. -/
  isOpen : Bool
deriving DecidableEq

namespace Endpoint

/-- A number is on the right side of the endpoint, where `side` is how it then compares with it. -/
def admits (e : Endpoint) (side : Ordering) (n : Number) : Bool :=
  match e.number with
  | none => true
  | some bound =>
    match n.compare? bound with
    | some .eq => !e.isOpen
    | some order => order == side
    | none => false

def admitsAbove (e : Endpoint) (n : Number) : Bool := e.admits .gt n
def admitsBelow (e : Endpoint) (n : Number) : Bool := e.admits .lt n

end Endpoint

namespace Interval

/-- Why two endpoints bound no interval. -/
inductive Defect where
  | nan
  | unbounded
  | mixedKinds
  | equalEnds
  | reversed
deriving DecidableEq

namespace Defect

def reason : Defect → String
  | nan => "端点不能是 NaN"
  | unbounded => "至少需要一个有界端点"
  | mixedKinds => "上下界类型不一致"
  | equalEnds => "上下界相等"
  | reversed => "下界大于上界"

end Defect

/-- One end at least must be bounded; two bounds must be of one kind and in order. -/
def defect? (lower upper : Endpoint) : Option Defect :=
  if (∃ n ∈ lower.number, n.IsNaN) ∨ (∃ n ∈ upper.number, n.IsNaN) then some .nan
  else
    match lower.number, upper.number with
    | none, none => some .unbounded
    | some a, some b =>
      if a.kind ≠ b.kind then some .mixedKinds
      else
        match a.compare? b with
        | some .eq => some .equalEnds
        | some .gt => some .reversed
        | _ => none
    | _, _ => none

/-- The text of a lower and an upper endpoint. A bracket that turns away from the interval marks an
open end. -/
def charsOf (lower upper : Endpoint) : List Char :=
  let low := (lower.number.map Number.chars).getD "-inf".toList
  let high := (upper.number.map Number.chars).getD "+inf".toList
  (if lower.isOpen then ']' else '[') :: low ++
    ',' :: high ++ [if upper.isOpen then '[' else ']']

end Interval

structure Interval where
  lower : Endpoint
  upper : Endpoint
  valid : Interval.defect? lower upper = none
deriving DecidableEq

/-- Why a text gives no interval. -/
inductive IntervalError where
  | malformed (fault : SyntaxFault)
  | invalid (lower upper : Endpoint) (defect : Interval.Defect)

namespace IntervalError

def message : IntervalError → String
  | malformed fault => fault.message
  | invalid lower upper defect =>
    "无效的区间 '" ++ String.ofList (Interval.charsOf lower upper) ++ "': " ++ defect.reason

end IntervalError

namespace Interval

/-- The interval between two endpoints. -/
def between (lower upper : Endpoint) : Except IntervalError Interval :=
  match h : defect? lower upper with
  | none => .ok ⟨lower, upper, h⟩
  | some defect => .error (.invalid lower upper defect)

def text (i : Interval) : String := String.ofList (charsOf i.lower i.upper)

/-- The kind of the endpoints. -/
def kind (i : Interval) : Kind := ((i.lower.number <|> i.upper.number).map Number.kind).getD .int

def admits (i : Interval) (n : Number) : Bool := i.lower.admitsAbove n && i.upper.admitsBelow n

/-- Only numbers lie in an interval. -/
def contains (i : Interval) (v : Scalar) : Bool := (Number.ofScalar? v).any i.admits

/-- Intervals are told apart by their texts. -/
def SameText (i j : Interval) : Prop := i.text = j.text

instance (i j : Interval) : Decidable (SameText i j) := inferInstanceAs (Decidable (_ = _))

end Interval

end ConfigRules
