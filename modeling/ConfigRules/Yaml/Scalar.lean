import ConfigRules.Scalar
import ConfigRules.Text.Blank
import ConfigRules.Text.Hex

/-!
Single YAML values: words without quotes, whose form says what they are, and texts in quotes.
-/

namespace ConfigRules.Yaml

/-- The number of a text in a base, up to the greatest integer of 64 bits. -/
def inBase? (base : Nat) (cs : List Char) : Option Int64 := do
  let n ← cs.foldlM (fun n c => do
    let d ← Text.hexDigit? c
    if d < base then some (base * n + d) else none) 0
  if cs.isEmpty then none else Numeral.int64? n

def integer? : List Char → Option Int64
  | '0' :: 'x' :: cs => inBase? 16 cs
  | '0' :: 'o' :: cs => inBase? 8 cs
  | cs => Numeral.readInt? cs

/-- A float has a digit, or it is one of the names of the infinities and of NaN. -/
def float? (s : String) : Option Binary64 :=
  if s ∈ [".inf", ".Inf", ".INF", "+.inf", "+.Inf", "+.INF"] then some (.infinite false)
  else if s ∈ ["-.inf", "-.Inf", "-.INF"] then some (.infinite true)
  else if s ∈ [".nan", ".NaN", ".NAN"] then some .nan
  else if s.toList.any Char.isDigit then Numeral.readFloat? s.toList
  else none

/-- What a word is. A float without a place among JSON's numbers is the text of its name. -/
def wordValue (s : String) : Json :=
  if s ∈ ["", "~", "null"] then .null
  else if s = "true" then .bool true
  else if s = "false" then .bool false
  else
    match integer? s.toList, float? s with
    | some n, _ => (Scalar.int n).toJson
    | none, some (.finite x) => (Scalar.float (.finite x)).toJson
    | none, some x => .string (String.ofList x.chars)
    | none, none => .string s

/-- The character that an escape stands for, and how many characters follow the backslash. -/
def escape? : List Char → Option (Char × Nat)
  | [] => none
  | c :: cs =>
    match c with
    | '0' => some ('\x00', 1)
    | 'a' => some ('\x07', 1)
    | 'b' => some ('\x08', 1)
    | 't' | '\t' => some ('\t', 1)
    | 'n' => some ('\n', 1)
    | 'v' => some ('\x0b', 1)
    | 'f' => some ('\x0c', 1)
    | 'r' => some ('\r', 1)
    | 'e' => some ('\x1b', 1)
    | ' ' | '"' | '/' | '\\' => some (c, 1)
    | 'N' => some ('\u0085', 1)
    | '_' => some ('\u00a0', 1)
    | 'L' => some ('\u2028', 1)
    | 'P' => some ('\u2029', 1)
    | 'x' => codePoint? 2 cs
    | 'u' => codePoint? 4 cs
    | 'U' => codePoint? 8 cs
    | _ => none
where
  codePoint? (digits : Nat) (cs : List Char) : Option (Char × Nat) := do
    let n ← Text.hexFront? digits cs
    if n.isValidChar then some (Char.ofNat n, digits + 1) else none

/-- The text up to its closing quote on one line, and how many characters it takes with the quote.
Double quotes know escapes; between single ones, a quote is written twice. -/
def body? (quote : Char) : List Char → Option (List Char × Nat)
  | [] => none
  | c :: cs =>
    if c = quote then
      if quote = '\'' ∧ cs.head? = some '\'' then do
        let (body, m) ← body? quote (cs.drop 1)
        return (quote :: body, m + 2)
      else some ([], 1)
    else if c = '\\' ∧ quote = '"' then do
      let (d, n) ← escape? cs
      let (body, m) ← body? quote (cs.drop n)
      return (d :: body, 1 + n + m)
    else if c = '\n' then none
    else do
      let (body, m) ← body? quote cs
      return (c :: body, m + 1)
termination_by cs => cs.length
decreasing_by all_goals simp only [List.length_drop, List.length_cons]; omega

def isSpace (c : Char) : Bool := c == ' ' || c == '\t'

/-- The brackets and the comma, with which words end inside brackets. -/
def isBracket (c : Char) : Bool := c ∈ [',', '[', ']', '\x7b', '\x7d']

/-- A sign counts when white space follows it, or the end of the text, or a bracket inside
others. -/
def endsSign (inBrackets : Bool) (cs : List Char) : Bool :=
  cs.head?.all fun c => isSpace c || c == '\n' || (inBrackets && isBracket c)

/-- The words at the front of a text, up to a comment, to the colon of a key or to what ends
words. -/
def words (inBrackets : Bool) : List Char → List Char
  | [] => []
  | c :: cs =>
    if c = '\n' ∨ (inBrackets ∧ isBracket c) ∨ (c = ':' ∧ endsSign inBrackets cs) ∨
        (isSpace c ∧ cs.head? = some '#') then []
    else c :: words inBrackets cs

/-- Words cannot begin with a sign that has a meaning. -/
def beginsWords (inBrackets : Bool) (c : Char) (cs : List Char) : Bool :=
  if c ∈ ['-', '?', ':'] then !endsSign inBrackets cs
  else !isBracket c && c ∉ ['#', '&', '*', '!', '|', '>', '\'', '"', '%', '@', Char.ofNat 96]

end ConfigRules.Yaml
