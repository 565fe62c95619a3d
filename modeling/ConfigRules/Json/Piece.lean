import ConfigRules.Json.Reader

/-!
Relatives of JSON, in which words need no quotes. A word before a colon is a key, and any other word
is a value; a comma may stand behind the last item.
-/

namespace ConfigRules.Json

inductive Piece where
  | token (t : Token)
  /-- A word without quotes. -/
  | word (s : String)

/-- The number of a numeral without its sign. Its float is the nearest one, if there is one. -/
def Token.nearestNumber? : Bool → List Char → List Char → List Char → Option Json :=
  numberBy? fun negative whole fraction exponent => do
    (← Numeral.readMagnitude? negative (whole ++ fraction ++ exponent)).finite?

/-- A value may end with the token. -/
def Token.endsValue : Token → Bool
  | closeArray | closeObject | string _ | atom _ => true
  | _ => false

namespace Piece

/-- The tokens of pieces that may come after a value. -/
def tokens? (wordValue? : String → Option Json) (afterValue : Bool) :
    List Piece → Option (List Token)
  | [] => some []
  | .word s :: .token .colon :: rest => do
    return .string s :: .colon :: (← tokens? wordValue? false rest)
  | .word s :: rest => do return .atom (← wordValue? s) :: (← tokens? wordValue? true rest)
  | .token .comma :: .token .closeArray :: rest =>
    if afterValue then do return .closeArray :: (← tokens? wordValue? true rest) else none
  | .token .comma :: .token .closeObject :: rest =>
    if afterValue then do return .closeObject :: (← tokens? wordValue? true rest) else none
  | .token t :: rest => do return t :: (← tokens? wordValue? t.endsValue rest)

/-- The value that pieces make. -/
def value? (wordValue? : String → Option Json) (pieces : List Piece) : Option Json := do
  ofTokens? (← tokens? wordValue? false pieces)

end Piece

end ConfigRules.Json
