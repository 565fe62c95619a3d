import ConfigRules.Json.Real
import ConfigRules.Text.Hex

/-!
The tokens of JSON text. Each step reads one token and says how many characters it takes after its
first, so that what is left is always shorter.
-/

namespace ConfigRules.Json

inductive Token where
  | openArray | closeArray
  | openObject | closeObject
  | colon | comma
  | string (s : String)
  /-- A number or one of the words `null`, `true` and `false`. -/
  | atom (v : Json)

namespace Token

/-- Only these four characters may stand between tokens. -/
def isSpace (c : Char) : Bool := c == ' ' || c == '\t' || c == '\n' || c == '\r'

def isHighSurrogate (n : Nat) : Bool := 0xd800 ≤ n && n < 0xdc00
def isLowSurrogate (n : Nat) : Bool := 0xdc00 ≤ n && n < 0xe000

/-- The character of the code units after `\u`, and how many characters they take. A surrogate must
come with its other half. -/
def unicodeEscape? (cs : List Char) : Option (Char × Nat) := do
  let unit ← Text.hexFront? 4 cs
  if isHighSurrogate unit then
    match cs.drop 4 with
    | '\\' :: 'u' :: more =>
      let low ← Text.hexFront? 4 more
      if isLowSurrogate low then
        some (Char.ofNat (0x10000 + (unit - 0xd800) * 0x400 + (low - 0xdc00)), 10)
      else none
    | _ => none
  else if isLowSurrogate unit then none
  else some (Char.ofNat unit, 4)

/-- The character that an escape stands for, and how many characters follow the backslash. -/
def escape? : List Char → Option (Char × Nat)
  | [] => none
  | c :: cs =>
    match c with
    | '"' => some ('"', 1)
    | '\\' => some ('\\', 1)
    | '/' => some ('/', 1)
    | 'b' => some ('\x08', 1)
    | 'f' => some ('\x0c', 1)
    | 'n' => some ('\n', 1)
    | 'r' => some ('\r', 1)
    | 't' => some ('\t', 1)
    | 'u' => (unicodeEscape? cs).map fun (ch, n) => (ch, n + 1)
    | _ => none

/-- The characters of a string up to its closing quote, and how many characters they and the quote
take. Control characters must be escaped. -/
def stringBody? : List Char → Option (List Char × Nat)
  | [] => none
  | c :: cs =>
    if c = '"' then some ([], 1)
    else if c = '\\' then do
      let (ch, n) ← escape? cs
      let (body, m) ← stringBody? (cs.drop n)
      return (ch :: body, 1 + n + m)
    else if c.toNat < 32 then none
    else do
      let (body, m) ← stringBody? cs
      return (c :: body, m + 1)
termination_by cs => cs.length
decreasing_by all_goals simp only [List.length_drop, List.length_cons]; omega

/-- The digits of a whole number, without a needless zero in front. -/
def wholePart (cs : List Char) : List Char :=
  match (Numeral.splitDigits cs).1 with
  | '0' :: _ => ['0']
  | digits => digits

/-- A point with at least one digit. -/
def fractionPart : List Char → List Char
  | '.' :: cs =>
    let digits := (Numeral.splitDigits cs).1
    if digits.isEmpty then [] else '.' :: digits
  | _ => []

/-- The number of a numeral without its sign, with a way to read floats. Whole numbers beyond 64 bits
and the negative zero are floats. -/
def numberBy? (real? : Bool → List Char → List Char → List Char → Option Binary64.Finite)
    (negative : Bool) (whole fraction exponent : List Char) : Option Json :=
  let n : Int := Numeral.applySign (if negative then ['-'] else []) (Numeral.value whole)
  if h : fraction = [] ∧ exponent = [] ∧ (-2 ^ 63 ≤ n ∧ n < 2 ^ 64) ∧ ¬(negative ∧ n = 0) then
    some (.number (.integer n h.2.2.1))
  else (real? negative whole fraction exponent).map fun x => .number (.real x)

def number? : Bool → List Char → List Char → List Char → Option Json := numberBy? Real.read?

/-- The number at the front of a text, and how many characters it takes. -/
def numberAt? (negative : Bool) (cs : List Char) : Option (Json × Nat) :=
  let whole := wholePart cs
  let afterWhole := cs.drop whole.length
  let fraction := fractionPart afterWhole
  let exponent := Numeral.exponentPart (afterWhole.drop fraction.length)
  if whole.isEmpty then none
  else (number? negative whole fraction exponent).map fun v =>
    (v, whole.length + fraction.length + exponent.length)

/-- The token that a text begins with, and how many characters it takes after its first. -/
def first? (c : Char) (cs : List Char) : Option (Token × Nat) :=
  match c with
  | '[' => some (openArray, 0)
  | ']' => some (closeArray, 0)
  | '\x7b' => some (openObject, 0)
  | '\x7d' => some (closeObject, 0)
  | ':' => some (colon, 0)
  | ',' => some (comma, 0)
  | '"' => (stringBody? cs).map fun (body, n) => (string (String.ofList body), n)
  | 'n' => if "ull".toList.isPrefixOf cs then some (atom .null, 3) else none
  | 't' => if "rue".toList.isPrefixOf cs then some (atom (.bool true), 3) else none
  | 'f' => if "alse".toList.isPrefixOf cs then some (atom (.bool false), 4) else none
  | '-' => (numberAt? true cs).map fun (v, n) => (atom v, n)
  | _ => if c.isDigit then (numberAt? false (c :: cs)).map fun (v, n) => (atom v, n - 1) else none

/-- The tokens of a text. -/
def all? : List Char → Option (List Token)
  | [] => some []
  | c :: cs =>
    if isSpace c then all? cs
    else do
      let (token, n) ← first? c cs
      return token :: (← all? (cs.drop n))
termination_by cs => cs.length
decreasing_by all_goals simp only [List.length_drop, List.length_cons]; omega

end Token

end ConfigRules.Json
