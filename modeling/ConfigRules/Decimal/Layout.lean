import ConfigRules.Decimal.Shortest

/-!
How a 64-bit number is written: its shortest digits, positionally for a range of magnitudes and with
an exponent outside it.
-/

namespace ConfigRules

/-- The decisions of one written form. -/
structure FloatStyle where
  /-- The least leading power of ten that is written positionally. -/
  plainFrom : Int
  /-- The greatest one. -/
  plainTo : Int
  /-- Positive exponents carry a sign. -/
  plusSign : Bool
  tie : Decimal.Tie

namespace FloatStyle

/-- Digits around a point that stands after the power of ten zero; there is always a fraction. -/
def positional (digits : List Char) (lead : Int) : List Char :=
  if lead < 0 then
    '0' :: '.' :: (List.replicate (-lead - 1).toNat '0' ++ digits)
  else
    let whole := lead.toNat + 1
    let padded := digits ++ List.replicate (whole - digits.length) '0'
    let fraction := padded.drop whole
    padded.take whole ++ '.' :: (if fraction.isEmpty then ['0'] else fraction)

/-- One digit before the point, and none after it where there is only one. -/
def scientific (plusSign : Bool) (digits : List Char) (lead : Int) : List Char :=
  let sign := if lead < 0 then ['-'] else if plusSign then ['+'] else []
  let mantissa :=
    match digits with
    | first :: second :: rest => first :: '.' :: second :: rest
    | _ => digits
  mantissa ++ 'e' :: sign ++ Nat.toDigits 10 lead.natAbs

/-- The text of a decimal without its trailing zeros. -/
def decimalChars (style : FloatStyle) (d : Decimal) : List Char :=
  let digits := Nat.toDigits 10 d.coefficient
  let lead := d.exponent + digits.length - 1
  let significant := (digits.reverse.dropWhile (· == '0')).reverse
  if style.plainFrom ≤ lead ∧ lead ≤ style.plainTo then positional significant lead
  else scientific style.plusSign significant lead

/-- The text of a finite number; zero is written with its sign. -/
def finiteChars (style : FloatStyle) (x : Binary64.Finite) : List Char :=
  let magnitude :=
    if x.units = 0 then ['0', '.', '0'] else style.decimalChars (Decimal.shortest style.tie x)
  if x.negative then '-' :: magnitude else magnitude

end FloatStyle

end ConfigRules
