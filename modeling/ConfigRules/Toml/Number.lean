import ConfigRules.Numeral
import ConfigRules.Settings.Tree
import ConfigRules.Text.Split

/-!
TOML values without quotes: truth values and numbers in decimal.
-/

namespace ConfigRules.Toml

/-- Digits; single underscores may stand between them. -/
def isDigits (cs : List Char) : Bool :=
  (Text.split '_' cs).all fun part => !part.isEmpty && part.all Char.isDigit

/-- Digits without a needless zero in front. -/
def isWhole (cs : List Char) : Bool := isDigits cs && (cs.head? != some '0' || cs.length == 1)

def integer? (s : String) : Option Int64 :=
  if isWhole (Numeral.splitSign s.toList).2 then Numeral.readInt? (s.toList.filter (· != '_'))
  else none

/-- An exponent, if there is one, is an `e` with a whole number. -/
def isExponent : List Char → Bool
  | [] => true
  | c :: cs => (c == 'e' || c == 'E') && isDigits (Numeral.splitSign cs).2

/-- A float has a fraction or an exponent, or it is one of the words `inf` and `nan`. -/
def float? (s : String) : Option Binary64 :=
  let body := (Numeral.splitSign s.toList).2
  let mantissa := body.takeWhile fun c => c != 'e' && c != 'E'
  let exponent := body.drop mantissa.length
  let fits : Bool :=
    match Text.split '.' mantissa with
    | [whole] => isWhole whole && !exponent.isEmpty && isExponent exponent
    | [whole, fraction] => isWhole whole && isDigits fraction && isExponent exponent
    | _ => false
  if fits || body == "inf".toList || body == "nan".toList then
    Numeral.readFloat? (s.toList.filter (· != '_'))
  else none

/-- The value of a text without quotes. -/
def plain? (s : String) : Option Settings.Tree :=
  if s = "true" then some (.bool true)
  else if s = "false" then some (.bool false)
  else ((integer? s).map fun n => .integer n.toInt) <|> (float? s).map .float

end ConfigRules.Toml
