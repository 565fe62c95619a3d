import ConfigRules.Text.Hex

/-!
The tokens of TOML text. Each step reads one token and says how many characters it takes after its
first.
-/

namespace ConfigRules.Toml

inductive Token where
  | openBracket | closeBracket
  | openBrace | closeBrace
  | dot | comma | equals
  | newLine
  /-- Spaces and tabs. -/
  | blank
  /-- A key, a number or a truth value without quotes. -/
  | bare (s : String)
  | text (s : String)
  /-- A text between three quotes, which is no key. -/
  | longText (s : String)
deriving DecidableEq

namespace Token

def isBareChar (c : Char) : Bool := c.isAlphanum || c == '_' || c == '-' || c == '+'

/-- Control characters other than the tab stand nowhere in a line. -/
def isControl (c : Char) : Bool := (c.toNat < 32 && c != '\t') || c.toNat == 127

/-- The character of a code point in so many hexadecimal digits. -/
def codePoint? (digits : Nat) (cs : List Char) : Option (Char × Nat) := do
  let n ← Text.hexFront? digits cs
  if n.isValidChar then some (Char.ofNat n, digits + 1) else none

/-- The character that an escape stands for, and how many characters follow the backslash. -/
def escape? : List Char → Option (Char × Nat)
  | [] => none
  | c :: cs =>
    match c with
    | '"' => some ('"', 1)
    | '\\' => some ('\\', 1)
    | 'b' => some ('\x08', 1)
    | 'e' => some ('\x1b', 1)
    | 't' => some ('\t', 1)
    | 'n' => some ('\n', 1)
    | 'f' => some ('\x0c', 1)
    | 'r' => some ('\r', 1)
    | 'x' => codePoint? 2 cs
    | 'u' => codePoint? 4 cs
    | 'U' => codePoint? 8 cs
    | _ => none

/-- The text up to its closing quote, and how many characters it takes with the quote. Only double
quotes know escapes. -/
def body? (quote : Char) : List Char → Option (List Char × Nat)
  | [] => none
  | c :: cs =>
    if c = quote then some ([], 1)
    else if c = '\\' ∧ quote = '"' then do
      let (ch, n) ← escape? cs
      let (body, m) ← body? quote (cs.drop n)
      return (ch :: body, 1 + n + m)
    else if isControl c then none
    else do
      let (body, m) ← body? quote cs
      return (c :: body, m + 1)
termination_by cs => cs.length
decreasing_by all_goals simp only [List.length_drop, List.length_cons]; omega

/-- The white space after a backslash that ends a line. -/
def lineBreak (cs : List Char) : Nat :=
  let blanks := cs.takeWhile fun c => c == ' ' || c == '\t' || c == '\r' || c == '\n'
  if (blanks.dropWhile fun c => c == ' ' || c == '\t' || c == '\r').head? = some '\n' then
    blanks.length
  else 0

/-- The text up to its three closing quotes, and how many characters it takes with them. Up to two
more quotes may stand before them. -/
def longBody? (quote : Char) : List Char → Option (List Char × Nat)
  | [] => none
  | c :: cs =>
    let quotes := ((c :: cs).takeWhile (· == quote)).length
    if 3 ≤ quotes then
      if quotes ≤ 5 then some (List.replicate (quotes - 3) quote, quotes) else none
    else if c = '\\' ∧ quote = '"' then
      if 0 < lineBreak cs then do
        let (body, m) ← longBody? quote (cs.drop (lineBreak cs))
        return (body, 1 + lineBreak cs + m)
      else do
        let (ch, n) ← escape? cs
        let (body, m) ← longBody? quote (cs.drop n)
        return (ch :: body, 1 + n + m)
    else if isControl c ∧ c ≠ '\n' ∧ c ≠ '\r' then none
    else do
      let (body, m) ← longBody? quote cs
      return (c :: body, m + 1)
termination_by cs => cs.length
decreasing_by all_goals simp only [List.length_drop, List.length_cons]; omega

/-- A text between quotes. A new line right after three quotes does not count. -/
def quoted? (quote : Char) (cs : List Char) : Option (Token × Nat) :=
  if [quote, quote].isPrefixOf cs then
    let inner := cs.drop 2
    let skipped :=
      if inner.head? = some '\n' then 1 else if "\r\n".toList.isPrefixOf inner then 2 else 0
    (longBody? quote (inner.drop skipped)).map fun (body, n) =>
      (longText (String.ofList body), 2 + skipped + n)
  else (body? quote cs).map fun (body, n) => (text (String.ofList body), n)

/-- The token that a text begins with, and how many characters it takes after its first. -/
def first? (c : Char) (cs : List Char) : Option (Token × Nat) :=
  match c with
  | '[' => some (openBracket, 0)
  | ']' => some (closeBracket, 0)
  | '\x7b' => some (openBrace, 0)
  | '\x7d' => some (closeBrace, 0)
  | '.' => some (dot, 0)
  | ',' => some (comma, 0)
  | '=' => some (equals, 0)
  | '\n' => some (newLine, 0)
  | '\r' => if cs.head? = some '\n' then some (newLine, 1) else none
  | '"' => quoted? '"' cs
  | '\'' => quoted? '\'' cs
  | _ =>
    if isBareChar c then
      let tail := cs.takeWhile isBareChar
      some (bare (String.ofList (c :: tail)), tail.length)
    else none

/-- Spaces and tabs. -/
def isSpace (c : Char) : Bool := c == ' ' || c == '\t'

/-- The tokens of a text. Comments do not count. -/
def all? : List Char → Option (List Token)
  | [] => some []
  | c :: cs =>
    if isSpace c then do
      return blank :: (← all? (cs.dropWhile isSpace))
    else if c = '#' then
      let comment := cs.takeWhile fun d => d != '\n' && d != '\r'
      if comment.any isControl then none else all? (cs.drop comment.length)
    else do
      let (token, n) ← first? c cs
      return token :: (← all? (cs.drop n))
termination_by cs => cs.length
decreasing_by
  · exact Nat.lt_succ_of_le (List.dropWhile_sublist _).length_le
  all_goals simp only [List.length_drop, List.length_cons]; omega

end Token

end ConfigRules.Toml
