import ConfigRules.Binary64.Basic
import ConfigRules.Keyed

/-!
JSON values. The members of an object keep the order in which their keys came.
-/

namespace ConfigRules

/-- A number: an integer of 64 bits, with or without a sign bit, or else a finite float. -/
inductive Json.Number where
  | integer (value : Int) (fits : -2 ^ 63 ≤ value ∧ value < 2 ^ 64)
  | real (x : Binary64.Finite)
deriving DecidableEq

inductive Json where
  | null
  | bool (b : Bool)
  | number (n : Json.Number)
  | string (s : String)
  | array (items : List Json)
  | object (members : List (String × Json))

namespace Json

/-- The members of an object, by their keys. -/
abbrev Members := Keyed String Json

/-- The members of an object; any other value has none. -/
def members : Json → Members
  | object ms => ms
  | _ => []

/-- What a value is, without its contents. -/
inductive Shape where
  | null | bool | number | string | array | object
deriving DecidableEq

def shape : Json → Shape
  | null => .null
  | bool _ => .bool
  | number _ => .number
  | string _ => .string
  | array _ => .array
  | object _ => .object

end Json

end ConfigRules
