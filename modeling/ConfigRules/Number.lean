import ConfigRules.Scalar

/-!
Numbers: integers of 64 bits and floats.
-/

namespace ConfigRules

inductive Number where
  | int (n : Int64)
  | float (x : Binary64)
deriving DecidableEq

namespace Number

def toScalar : Number → Scalar
  | int n => .int n
  | float x => .float x

def ofScalar? : Scalar → Option Number
  | .int n => some (int n)
  | .float x => some (float x)
  | _ => none

def kind (n : Number) : Kind := n.toScalar.kind

def chars : Number → List Char
  | int n => Numeral.ofInt n.toInt
  | float x => x.chars

/-- The nearest float. -/
def toFloat : Number → Binary64
  | int n => .ofInt n.toInt
  | float x => x

/-- Integers compare exactly, and with a float among them both as floats. -/
def compare? : Number → Number → Option Ordering
  | int a, int b => some (compare a.toInt b.toInt)
  | a, b => a.toFloat.compare? b.toFloat

def IsNaN (n : Number) : Prop := n = float .nan

instance (n : Number) : Decidable n.IsNaN := inferInstanceAs (Decidable (_ = _))

/-- The number of a numeral: a float if it has a point. -/
def ofNumeral? (numeral : List Char) : Option Number :=
  if '.' ∈ numeral then (Numeral.readFloat? numeral).map float
  else (Numeral.readInt? numeral).map int

/-- The number of the longest numeral at the front of a text, and how many characters it takes. An
integer that does not fit in 64 bits is none. -/
def atFront? (cs : List Char) : Option (Number × Nat) := do
  let numeral ← Numeral.longest? cs
  let n ← ofNumeral? numeral
  return (n, numeral.length)

end Number

end ConfigRules
