import ConfigRules.Decimal.Layout
import ConfigRules.Json.Basic
import ConfigRules.Numeral
import ConfigRules.Text.Blank

/-!
Scalar values and their kinds: how a text is read as one, how one comes from JSON and goes back, and
how messages show it.
-/

namespace ConfigRules

/-- The kinds of scalar values. A value of the kind `type` is itself the name of a kind. -/
inductive Kind where
  | int | float | str | bool | type
deriving DecidableEq

inductive Scalar where
  | int (n : Int64)
  | float (x : Binary64)
  | str (s : String)
  | bool (b : Bool)
  | type (k : Kind)
deriving DecidableEq

namespace Kind

def name : Kind → String
  | int => "int"
  | float => "float"
  | str => "str"
  | bool => "bool"
  | type => "type"

/-- The kinds that a rule can declare, by name. -/
def declared? (s : String) : Option Kind := [int, float, str].find? (·.name = s)

/-- Reads a text as a value of a kind. Numbers may have white space around them and must be finite;
the words for truth values and kinds stand alone. -/
def convert? (k : Kind) (s : String) : Option Scalar :=
  match k with
  | int => (Numeral.readInt? (Text.trimChars s.toList)).map .int
  | float =>
    match Numeral.readFloat? (Text.trimChars s.toList) with
    | some (.finite x) => some (.float (.finite x))
    | _ => none
  | str => some (.str s)
  | bool =>
    if s = "True" then some (.bool true) else if s = "False" then some (.bool false) else none
  | type => (declared? s).map .type

end Kind

/-- Floats in messages are positional from `1e-4` to below `1e16` and have a fraction there; only
negative exponents have a sign. -/
def Binary64.messageStyle : FloatStyle := ⟨-4, 15, false, .up⟩

def Binary64.chars : Binary64 → List Char
  | .finite x => messageStyle.finiteChars x
  | .infinite false => "inf".toList
  | .infinite true => "-inf".toList
  | .nan => "NaN".toList

namespace Scalar

def kind : Scalar → Kind
  | int _ => .int
  | float _ => .float
  | str _ => .str
  | bool _ => .bool
  | type _ => .type

/-- The value that a text represents: the first of these kinds that it can be read as, and else the
text itself. -/
def read (s : String) : Scalar :=
  ([Kind.type, .bool, .int, .float].findSome? (·.convert? s)).getD (.str s)

/-- The kind of value that a text represents. -/
def kindOf (s : String) : Kind := (read s).kind

/-- The scalar of a JSON value. An integer beyond 64 signed bits becomes the nearest float. -/
def ofJson? : Json → Option Scalar
  | .bool b => some (bool b)
  | .number (.integer n _) =>
    some (match Numeral.int64? n with
      | some i => int i
      | none => float (.ofInt n))
  | .number (.real x) => some (float (.finite x))
  | .string s => some (str s)
  | _ => none

theorem int64_fits (n : Int64) : -2 ^ 63 ≤ n.toInt ∧ n.toInt < 2 ^ 64 := by
  have hl := n.le_toInt
  have hu := n.toInt_lt
  omega

/-- The JSON value written for a scalar. Kinds are written by name; floats that are not finite have
no JSON form. -/
def toJson : Scalar → Json
  | int n => .number (.integer n.toInt (int64_fits n))
  | float (.finite x) => .number (.real x)
  | float _ => .null
  | str s => .string s
  | bool b => .bool b
  | type k => .string k.name

/-- How messages show a value. Texts stand in quotes as they are. -/
def text : Scalar → String
  | int n => String.ofList (Numeral.ofInt n.toInt)
  | float x => String.ofList x.chars
  | str s => "\"" ++ s ++ "\""
  | bool b => if b then "True" else "False"
  | type k => k.name

/-- Values are equal within one kind; floats by their order, so a NaN equals nothing and the zeros
are equal. -/
def equal : Scalar → Scalar → Bool
  | int a, int b => a == b
  | float x, float y => x.compare? y == some .eq
  | str s, str t => s == t
  | bool a, bool b => a == b
  | type k, type l => k == l
  | _, _ => false

end Scalar

end ConfigRules
