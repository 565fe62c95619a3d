import ConfigRules.Number
import ConfigRules.SyntaxFault
import ConfigRules.Text.Numeric

/-!
The tokens of conditions. Each step reads one token and says how many characters it takes after its
first, so that what is left is always shorter.
-/

namespace ConfigRules.Condition

/-- The relations that a condition can ask of two values. -/
inductive Relation where
  | eq | ne | lt | gt | le | ge
deriving DecidableEq

namespace Relation

def symbol : Relation → String
  | eq => "=="
  | ne => "!="
  | lt => "<"
  | gt => ">"
  | le => "<="
  | ge => ">="

/-- Only numbers stand in this relation. -/
def isOrdering : Relation → Bool
  | eq | ne => false
  | _ => true

end Relation

/-- What a token says. -/
inductive Lexeme where
  | truth (b : Bool)
  | number (n : Number)
  /-- A text in quotes, without its escapes. -/
  | text (s : String)
  /-- A path in braces. -/
  | item (path : String)
  | not | and | or | within
  | relation (r : Relation)
  | openParen | closeParen | comma
deriving DecidableEq

structure Token where
  lexeme : Lexeme
  text : String
  position : Nat
deriving DecidableEq

namespace Token

/-- Characters that go on with a word, or with a number that cannot be read. -/
def isWordChar (c : Char) : Bool :=
  Text.isAlphanumeric c || c == '_' || c == '.' || c == '+' || c == '-'

/-- The character that an escaped one stands for. -/
def unescape (c : Char) : Char :=
  if c = 'n' then '\n' else if c = 't' then '\t' else c

/-- The text up to its closing quote, and how many characters it takes with the quote. -/
def quotedBody? (quote : Char) : List Char → Option (List Char × Nat)
  | [] => none
  | c :: cs =>
    if c = quote then some ([], 1)
    else if c = '\\' then
      match cs with
      | [] => none
      | d :: cs => (quotedBody? quote cs).map fun (body, n) => (unescape d :: body, n + 2)
    else (quotedBody? quote cs).map fun (body, n) => (c :: body, n + 1)

def keyword? (word : String) : Option Lexeme :=
  match word with
  | "True" => some (.truth true)
  | "False" => some (.truth false)
  | "not" => some .not
  | "and" => some .and
  | "or" => some .or
  | "in" => some .within
  | _ => none

def word (c : Char) (cs : List Char) : Except Nat (Lexeme × Nat) :=
  let tail := cs.takeWhile isWordChar
  match keyword? (String.ofList (c :: tail)) with
  | some lexeme => .ok (lexeme, tail.length)
  | none => .error (tail.length + 1)

def number (c : Char) (cs : List Char) : Except Nat (Lexeme × Nat) :=
  match Number.atFront? (c :: cs) with
  | some (n, length) => .ok (.number n, length - 1)
  | none => .error ((cs.takeWhile isWordChar).length + 1)

def quotedText (quote : Char) (cs : List Char) : Except Nat (Lexeme × Nat) :=
  match quotedBody? quote cs with
  | some (body, n) => .ok (.text (String.ofList body), n)
  | none => .error (cs.length + 1)

/-- An item is whatever stands between an opening brace and the next closing one. -/
def item (cs : List Char) : Except Nat (Lexeme × Nat) :=
  let path := cs.takeWhile (· != '\x7d')
  if path.length = cs.length then .error (cs.length + 1)
  else if path.isEmpty then .error 2
  else .ok (.item (String.ofList path), path.length + 1)

def relation (c : Char) (cs : List Char) : Except Nat (Lexeme × Nat) :=
  match c, cs with
  | '=', '=' :: _ => .ok (.relation .eq, 1)
  | '!', '=' :: _ => .ok (.relation .ne, 1)
  | '<', '=' :: _ => .ok (.relation .le, 1)
  | '>', '=' :: _ => .ok (.relation .ge, 1)
  | '<', _ => .ok (.relation .lt, 0)
  | '>', _ => .ok (.relation .gt, 0)
  | _, _ => .error 1

/-- The token that a text begins with, and how many characters it takes after its first; or else how
many characters do not fit. -/
def first (c : Char) (cs : List Char) : Except Nat (Lexeme × Nat) :=
  if c = '(' then .ok (.openParen, 0)
  else if c = ')' then .ok (.closeParen, 0)
  else if c = ',' then .ok (.comma, 0)
  else if c = '\x7b' then item cs
  else if c = '"' ∨ c = '\'' then quotedText c cs
  else if c = '=' ∨ c = '!' ∨ c = '<' ∨ c = '>' then relation c cs
  else if c.isDigit then number c cs
  else if (c = '+' ∨ c = '-') ∧ cs.head?.any Char.isDigit then number c cs
  else if Text.isAlphabetic c ∨ c = '_' then word c cs
  else .error 1

/-- Where a text has no token, and how many characters do not fit. -/
structure Misfit where
  position : Nat
  length : Nat

/-- The tokens of a text that begins at a position. White space between them is skipped. -/
def allFrom (position : Nat) : List Char → Except Misfit (List Token)
  | [] => .ok []
  | c :: cs =>
    if Text.isBlank c then allFrom (position + 1) cs
    else
      match first c cs with
      | .error length => .error ⟨position, length⟩
      | .ok (lexeme, n) => do
        let rest ← allFrom (position + n + 1) (cs.drop n)
        return ⟨lexeme, String.ofList (c :: cs.take n), position⟩ :: rest
termination_by cs => cs.length
decreasing_by all_goals simp only [List.length_drop, List.length_cons]; omega

/-- The tokens of a condition. -/
def all (source : String) : Except SyntaxFault (List Token) :=
  match allFrom 0 source.toList with
  | .ok tokens => .ok tokens
  | .error ⟨position, length⟩ =>
    let token := String.ofList ((source.toList.drop position).take length)
    .error ⟨some token, source, position⟩

end Token

end ConfigRules.Condition
