import ConfigRules.Json.Piece
import ConfigRules.Text.Alphabetic
import ConfigRules.Text.Blank
import ConfigRules.Text.Numeric

/-!
RON documents as far as they hold what JSON holds: maps in braces, records in parentheses with words
for keys, lists, texts, numbers, truth values and `None`.
-/

namespace ConfigRules.Ron

def isWordStart (c : Char) : Bool := Text.isAlphabetic c || c == '_'

def isWordChar (c : Char) : Bool := Text.isAlphanumeric c || c == '_'

/-- How many characters a comment takes up to its end, with as many comments open around it. -/
def blockEnd? : Nat → List Char → Option Nat
  | 0, '*' :: '/' :: _ => some 2
  | depth + 1, '*' :: '/' :: cs => (blockEnd? depth cs).map (· + 2)
  | depth, '/' :: '*' :: cs => (blockEnd? (depth + 1) cs).map (· + 2)
  | depth, _ :: cs => (blockEnd? depth cs).map (· + 1)
  | _, [] => none

/-- How many characters a comment takes after its first slash. -/
def comment? : List Char → Option Nat
  | '/' :: cs => some (1 + (cs.takeWhile (· != '\n')).length)
  | '*' :: cs => (blockEnd? 0 cs).map (· + 1)
  | _ => none

/-- The character that an escape stands for, and how many characters follow the backslash. -/
def escape? : List Char → Option (Char × Nat)
  | [] => none
  | c :: cs =>
    match c with
    | '"' | '\'' | '\\' => some (c, 1)
    | 'n' => some ('\n', 1)
    | 'r' => some ('\r', 1)
    | 't' => some ('\t', 1)
    | '0' => some ('\x00', 1)
    | 'x' => (Text.hexFront? 2 cs).map fun n => (Char.ofNat n, 3)
    | 'u' => do
      let digits := (cs.drop 1).takeWhile fun c => (Text.hexDigit? c).isSome
      let n ← Text.hexFront? digits.length digits
      if cs.head? = some '\x7b' ∧ (cs.drop (digits.length + 1)).head? = some '\x7d' ∧
          digits.length ∈ [1, 2, 3, 4, 5, 6] ∧ n.isValidChar then
        some (Char.ofNat n, digits.length + 3)
      else none
    | _ => none

/-- The text up to its closing quote, and how many characters it takes with the quote. -/
def body? : List Char → Option (List Char × Nat)
  | [] => none
  | c :: cs =>
    if c = '"' then some ([], 1)
    else if c = '\\' then do
      let (front, n) ← escape? cs
      let (body, m) ← body? (cs.drop n)
      return (front :: body, 1 + n + m)
    else do
      let (body, m) ← body? cs
      return (c :: body, m + 1)
termination_by cs => cs.length
decreasing_by all_goals simp only [List.length_drop, List.length_cons]; omega

/-- The text up to a quote with so many signs behind it, and how many characters they take. -/
def rawBody? (signs : Nat) : List Char → Option (List Char × Nat)
  | [] => none
  | c :: cs =>
    if c = '"' ∧ (List.replicate signs '#').isPrefixOf cs then some ([], signs + 1)
    else (rawBody? signs cs).map fun (body, n) => (c :: body, n + 1)

/-- A text without escapes, between quotes with signs around them, after its `r`. -/
def raw? (cs : List Char) : Option (String × Nat) :=
  let signs := (cs.takeWhile (· == '#')).length
  if (cs.drop signs).head? = some '"' then
    (rawBody? signs (cs.drop (signs + 1))).map fun (body, n) =>
      (String.ofList body, signs + 1 + n)
  else none

/-- The number that a text is, with or without a fraction and an exponent. -/
def number? (negative : Bool) (cs : List Char) : Option Json :=
  let digits := cs.filter (· != '_')
  let whole := (Numeral.splitDigits digits).1
  let afterWhole := digits.drop whole.length
  let fraction :=
    match afterWhole with
    | '.' :: rest => '.' :: (Numeral.splitDigits rest).1
    | _ => []
  let exponent := Numeral.exponentPart (afterWhole.drop fraction.length)
  if (whole.isEmpty && fraction.length < 2) ||
      whole.length + fraction.length + exponent.length ≠ digits.length then none
  else Json.Token.nearestNumber? negative whole fraction exponent

/-- How many characters the number at the front of a text takes. -/
def numberLength : List Char → Nat
  | 'e' :: '-' :: cs | 'e' :: '+' :: cs | 'E' :: '-' :: cs | 'E' :: '+' :: cs =>
    numberLength cs + 2
  | c :: cs => if c.isAlphanum || c == '_' || c == '.' then numberLength cs + 1 else 0
  | [] => 0

def numberAt? (negative : Bool) (cs : List Char) : Option (Json.Piece × Nat) :=
  let length := numberLength cs
  (number? negative (cs.take length)).map fun v => (.token (.atom v), length)

/-- The piece that a text begins with, and how many characters it takes after its first. Parentheses
around nothing hold no value; a word before a parenthesis only names a record. -/
def first? (c : Char) (cs : List Char) : Option (List Json.Piece × Nat) :=
  match c with
  | '(' =>
    let space := cs.takeWhile Text.isBlank
    if (cs.drop space.length).head? = some ')' then
      some ([.token (.atom .null)], space.length + 1)
    else some ([.token .openObject], 0)
  | ')' | '\x7d' => some ([.token .closeObject], 0)
  | '\x7b' => some ([.token .openObject], 0)
  | '[' => some ([.token .openArray], 0)
  | ']' => some ([.token .closeArray], 0)
  | ':' => some ([.token .colon], 0)
  | ',' => some ([.token .comma], 0)
  | '"' => (body? cs).map fun (body, n) => ([.token (.string (String.ofList body))], n)
  | '-' => (numberAt? true cs).map fun (p, n) => ([p], n)
  | '+' => (numberAt? false cs).map fun (p, n) => ([p], n)
  | _ =>
    if c = 'r' ∧ (raw? cs).isSome then
      (raw? cs).map fun (s, n) => ([.token (.string s)], n)
    else if isWordStart c then
      let tail := cs.takeWhile isWordChar
      let after := (cs.drop tail.length).dropWhile Text.isBlank
      some (if after.head? = some '(' then [] else [.word (String.ofList (c :: tail))], tail.length)
    else (numberAt? false (c :: cs)).map fun (p, n) => ([p], n - 1)

/-- The bracket that closes one. -/
def closing? : Char → Option Char
  | '(' => some ')'
  | '[' => some ']'
  | '\x7b' => some '\x7d'
  | _ => none

/-- The pieces of a text within some open brackets, given by those that close them. Comments do not
count. -/
def pieces? (brackets : List Char) : List Char → Option (List Json.Piece)
  | [] => some []
  | c :: cs =>
    if Text.isBlank c then pieces? brackets cs
    else if c = '/' then do pieces? brackets (cs.drop (← comment? cs))
    else do
      let (front, n) ← first? c cs
      let inner ←
        match closing? c with
        | some d => if n = 0 then some (d :: brackets) else some brackets
        | none =>
          if c ∈ [')', ']', '\x7d'] then
            if brackets.head? = some c then some brackets.tail else none
          else some brackets
      return front ++ (← pieces? inner (cs.drop n))
termination_by cs => cs.length
decreasing_by all_goals simp only [List.length_drop, List.length_cons]; omega

def wordValue? : String → Option Json
  | "true" => some (.bool true)
  | "false" => some (.bool false)
  | "None" => some .null
  | _ => none

/-- The value of a document. -/
def parse? (text : List Char) : Option Json := do
  Json.Piece.value? wordValue? (← pieces? [] text)

end ConfigRules.Ron
