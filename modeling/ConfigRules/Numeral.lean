import ConfigRules.Binary64.Rounding

/-!
Numbers written in decimal: reading whole numbers and floating-point numbers, and finding the
longest numeral at the front of a text.
-/

namespace ConfigRules.Numeral

/-- The text of a whole number. -/
def ofInt (n : Int) : List Char :=
  (if n < 0 then ['-'] else []) ++ Nat.toDigits 10 n.natAbs

/-- The value of a digit string. -/
def value (digits : List Char) : Nat :=
  digits.foldl (fun n c => 10 * n + (c.toNat - '0'.toNat)) 0

/-- An optional sign, and what follows it. -/
def splitSign : List Char → List Char × List Char
  | '+' :: cs => (['+'], cs)
  | '-' :: cs => (['-'], cs)
  | cs => ([], cs)

def splitDigits (cs : List Char) : List Char × List Char := cs.span Char.isDigit

def applySign (sign : List Char) (n : Nat) : Int := if sign = ['-'] then -n else n

/-- The integer of 64 bits with a given value, if there is one. -/
def int64? (n : Int) : Option Int64 :=
  if -2 ^ 63 ≤ n ∧ n < 2 ^ 63 then some (Int64.ofInt n) else none

/-- Reads an optional sign and digits as an integer of 64 bits. -/
def readInt? (cs : List Char) : Option Int64 :=
  let (sign, digits) := splitSign cs
  if digits.isEmpty || !digits.all Char.isDigit then none
  else int64? (applySign sign (value digits))

/-- The power of ten that ends a numeral, zero if nothing is left of the text. -/
def readExponent? : List Char → Option Int
  | [] => some 0
  | c :: cs =>
    let (sign, digits) := splitSign cs
    if (c == 'e' || c == 'E') && !digits.isEmpty && digits.all Char.isDigit then
      some (applySign sign (value digits))
    else none

/-- The digits after a decimal point, if there is one, and what follows. -/
def splitFraction : List Char → List Char × List Char
  | '.' :: cs => splitDigits cs
  | cs => ([], cs)

/-- Reads digits with an optional point among them and an optional exponent. -/
def readMagnitude? (negative : Bool) (cs : List Char) : Option Binary64 :=
  let (whole, afterWhole) := splitDigits cs
  let (fraction, rest) := splitFraction afterWhole
  if whole.isEmpty && fraction.isEmpty then none
  else (readExponent? rest).map fun exponent =>
    .ofDecimal negative (value (whole ++ fraction)) (exponent - fraction.length)

/-- Reads a floating-point number: a decimal numeral, or the name of an infinity or of NaN in any
case. A numeral too great for a finite number is infinite. -/
def readFloat? (cs : List Char) : Option Binary64 :=
  let (sign, body) := splitSign cs
  let negative : Bool := sign = ['-']
  let name := String.ofList (body.map Char.toLower)
  if name = "inf" || name = "infinity" then some (.infinite negative)
  else if name = "nan" then some .nan
  else readMagnitude? negative body

/-- The longest exponent at the front of a text; empty if there is none. -/
def exponentPart : List Char → List Char
  | c :: cs =>
    let (sign, rest) := splitSign cs
    let (digits, _) := splitDigits rest
    if (c == 'e' || c == 'E') && !digits.isEmpty then c :: sign ++ digits else []
  | [] => []

/-- The longest point with its fraction and exponent at the front of a text; empty if there is no
point. -/
def fractionPart : List Char → List Char
  | '.' :: cs =>
    let (digits, rest) := splitDigits cs
    '.' :: digits ++ exponentPart rest
  | _ => []

/-- The longest numeral at the front of a text: an optional sign, digits, and then a fraction, which
alone may carry an exponent. -/
def longest? (cs : List Char) : Option (List Char) :=
  let (sign, body) := splitSign cs
  let (digits, rest) := splitDigits body
  if digits.isEmpty then none else some (sign ++ digits ++ fractionPart rest)

end ConfigRules.Numeral
