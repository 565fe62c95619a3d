import ConfigRules.Json.Piece
import ConfigRules.Text.Alphabetic
import ConfigRules.Text.Blank
import ConfigRules.Text.Numeric

/-!
JSON5: JSON with comments, keys without quotes, texts in single quotes, and more ways to write
numbers.
-/

namespace ConfigRules.Json5

def isLineEnd (c : Char) : Bool := c == '\n' || c == '\r' || c == '\u2028' || c == '\u2029'

def isSpace (c : Char) : Bool := c == '\ufeff' || (Text.isBlank c && c != '\u0085')

def isWordStart (c : Char) : Bool := Text.isAlphabetic c || c == '_' || c == '$'

def isWordChar (c : Char) : Bool :=
  Text.isAlphanumeric c || c == '_' || c == '$' || c == '\u200c' || c == '\u200d'

/-- How many characters a comment takes up to the end of `*/`. -/
def blockEnd? : List Char → Option Nat
  | [] => none
  | '*' :: '/' :: _ => some 2
  | _ :: cs => (blockEnd? cs).map (· + 1)

/-- How many characters a comment takes after its first slash. -/
def comment? : List Char → Option Nat
  | '/' :: cs => some (1 + (cs.takeWhile (!isLineEnd ·)).length)
  | '*' :: cs => (blockEnd? cs).map (· + 1)
  | _ => none

/-- What an escape stands for, and how many characters follow the backslash. A line that ends there
goes on in the next one. -/
def escape? : List Char → Option (List Char × Nat)
  | [] => none
  | '\r' :: '\n' :: _ => some ([], 2)
  | c :: cs =>
    match c with
    | 'b' => some (['\x08'], 1)
    | 'f' => some (['\x0c'], 1)
    | 'n' => some (['\n'], 1)
    | 'r' => some (['\r'], 1)
    | 't' => some (['\t'], 1)
    | 'v' => some (['\x0b'], 1)
    | '0' => if cs.head?.any Char.isDigit then none else some (['\x00'], 1)
    | 'x' => (Text.hexFront? 2 cs).map fun n => ([Char.ofNat n], 3)
    | 'u' => (Json.Token.unicodeEscape? cs).map fun (d, n) => ([d], n + 1)
    | _ => if isLineEnd c then some ([], 1) else if c.isDigit then none else some ([c], 1)

/-- The text up to its closing quote, and how many characters it takes with the quote. -/
def body? (quote : Char) : List Char → Option (List Char × Nat)
  | [] => none
  | c :: cs =>
    if c = quote then some ([], 1)
    else if c = '\\' then do
      let (front, n) ← escape? cs
      let (body, m) ← body? quote (cs.drop n)
      return (front ++ body, 1 + n + m)
    else if isLineEnd c then none
    else do
      let (body, m) ← body? quote cs
      return (c :: body, m + 1)
termination_by cs => cs.length
decreasing_by all_goals simp only [List.length_drop, List.length_cons]; omega

/-- The number at the front of a text, and how many characters it takes. -/
def numberAt? (negative : Bool) (cs : List Char) : Option (Json × Nat) :=
  if "0x".toList.isPrefixOf cs || "0X".toList.isPrefixOf cs then do
    let digits := (cs.drop 2).takeWhile fun c => (Text.hexDigit? c).isSome
    let n ← Text.hexFront? digits.length digits
    if digits.isEmpty then none
    else do return (← Json.Token.nearestNumber? negative (Nat.toDigits 10 n) [] [], 2 + digits.length)
  else
    let whole := Json.Token.wholePart cs
    let afterWhole := cs.drop whole.length
    let fraction :=
      match afterWhole with
      | '.' :: rest => '.' :: (Numeral.splitDigits rest).1
      | _ => []
    let exponent := Numeral.exponentPart (afterWhole.drop fraction.length)
    if whole.isEmpty && fraction.length < 2 then none
    else (Json.Token.nearestNumber? negative whole fraction exponent).map fun v =>
      (v, whole.length + fraction.length + exponent.length)

/-- The piece that a text begins with, and how many characters it takes after its first. -/
def first? (c : Char) (cs : List Char) : Option (Json.Piece × Nat) :=
  match c with
  | '[' => some (.token .openArray, 0)
  | ']' => some (.token .closeArray, 0)
  | '\x7b' => some (.token .openObject, 0)
  | '\x7d' => some (.token .closeObject, 0)
  | ':' => some (.token .colon, 0)
  | ',' => some (.token .comma, 0)
  | '"' | '\'' => (body? c cs).map fun (body, n) => (.token (.string (String.ofList body)), n)
  | '-' => (numberAt? true cs).map fun (v, n) => (.token (.atom v), n)
  | '+' => (numberAt? false cs).map fun (v, n) => (.token (.atom v), n)
  | _ =>
    if isWordStart c then
      let tail := cs.takeWhile isWordChar
      some (.word (String.ofList (c :: tail)), tail.length)
    else (numberAt? false (c :: cs)).map fun (v, n) => (.token (.atom v), n - 1)

/-- The pieces of a text. Comments do not count. -/
def pieces? : List Char → Option (List Json.Piece)
  | [] => some []
  | c :: cs =>
    if isSpace c then pieces? cs
    else if c = '/' then do pieces? (cs.drop (← comment? cs))
    else do
      let (piece, n) ← first? c cs
      return piece :: (← pieces? (cs.drop n))
termination_by cs => cs.length
decreasing_by all_goals simp only [List.length_drop, List.length_cons]; omega

def wordValue? : String → Option Json
  | "true" => some (.bool true)
  | "false" => some (.bool false)
  | "null" => some .null
  | _ => none

/-- The value of a text. -/
def parse? (text : List Char) : Option Json := do Json.Piece.value? wordValue? (← pieces? text)

end ConfigRules.Json5
