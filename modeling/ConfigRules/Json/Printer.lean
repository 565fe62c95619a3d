import ConfigRules.Json.Basic
import ConfigRules.Decimal.Layout
import ConfigRules.Numeral

/-!
JSON text: on one line without spaces, or indented by two spaces a level.
-/

namespace ConfigRules.Json

/-- Floats are positional from `1e-5` to below `1e16` and always have a fraction there; an exponent
always has a sign. -/
def floatStyle : FloatStyle := ⟨-5, 15, true, .even⟩

def Number.chars : Number → List Char
  | .integer n _ => Numeral.ofInt n
  | .real x => floatStyle.finiteChars x

/-- Quotes, backslashes and control characters are escaped. -/
def escapeChar (c : Char) : List Char :=
  match c with
  | '"' => ['\\', '"']
  | '\\' => ['\\', '\\']
  | '\x08' => ['\\', 'b']
  | '\x0c' => ['\\', 'f']
  | '\n' => ['\\', 'n']
  | '\r' => ['\\', 'r']
  | '\t' => ['\\', 't']
  | _ =>
    if c.toNat < 32 then
      '\\' :: 'u' :: '0' :: '0' :: Nat.digitChar (c.toNat / 16) :: [Nat.digitChar (c.toNat % 16)]
    else [c]

def stringChars (s : String) : List Char := '"' :: s.toList.flatMap escapeChar ++ ['"']

/-- The text of a value that holds no others. -/
def atomChars : Json → List Char
  | bool true => "true".toList
  | bool false => "false".toList
  | number n => n.chars
  | string s => stringChars s
  | _ => "null".toList

mutual

/-- The text of a value on one line, with a text behind it. -/
def compactOnto (rest : List Char) : Json → List Char
  | array items => '[' :: itemsOnto (']' :: rest) items
  | object ms => '\x7b' :: membersOnto ('\x7d' :: rest) ms
  | v => atomChars v ++ rest

def itemsOnto (rest : List Char) : List Json → List Char
  | [] => rest
  | [v] => compactOnto rest v
  | v :: vs => compactOnto (',' :: itemsOnto rest vs) v

def membersOnto (rest : List Char) : List (String × Json) → List Char
  | [] => rest
  | [(k, v)] => stringChars k ++ ':' :: compactOnto rest v
  | (k, v) :: ms => stringChars k ++ ':' :: compactOnto (',' :: membersOnto rest ms) v

end

/-- The text of a value on one line. -/
def compactChars (v : Json) : List Char := compactOnto [] v

def compact (v : Json) : String := String.ofList (compactChars v)

mutual

/-- What is behind a text on one line has no part in it. -/
theorem compactOnto_eq (rest : List Char) :
    (v : Json) → compactOnto rest v = compactChars v ++ rest
  | array items => by
    simp [compactChars, compactOnto, itemsOnto_eq (']' :: rest) items, itemsOnto_eq [']'] items]
  | object ms => by
    simp [compactChars, compactOnto, membersOnto_eq ('\x7d' :: rest) ms,
      membersOnto_eq ['\x7d'] ms]
  | null | bool _ | number _ | string _ => by simp [compactChars, compactOnto]

theorem itemsOnto_eq (rest : List Char) :
    (vs : List Json) → itemsOnto rest vs = itemsOnto [] vs ++ rest
  | [] => by simp [itemsOnto]
  | [v] => by simp [itemsOnto, compactOnto_eq rest v, compactChars]
  | v :: w :: vs => by
    simp only [itemsOnto, compactOnto_eq (',' :: _) v, itemsOnto_eq rest (w :: vs),
      List.append_assoc, List.cons_append]

theorem membersOnto_eq (rest : List Char) :
    (ms : List (String × Json)) → membersOnto rest ms = membersOnto [] ms ++ rest
  | [] => by simp [membersOnto]
  | [(k, v)] => by simp [membersOnto, compactOnto_eq rest v, compactChars]
  | (k, v) :: m :: ms => by
    simp only [membersOnto, compactOnto_eq (',' :: _) v, membersOnto_eq rest (m :: ms),
      List.append_assoc, List.cons_append]

end

/-- A new line at a level of nesting. -/
def newLine (level : Nat) : List Char := '\n' :: List.replicate (2 * level) ' '

mutual

def prettyChars (level : Nat) : Json → List Char
  | array [] => ['[', ']']
  | array items => '[' :: prettyItems (level + 1) items ++ newLine level ++ [']']
  | object [] => ['\x7b', '\x7d']
  | object ms => '\x7b' :: prettyMembers (level + 1) ms ++ newLine level ++ ['\x7d']
  | v => atomChars v

def prettyItems (level : Nat) : List Json → List Char
  | [] => []
  | [v] => newLine level ++ prettyChars level v
  | v :: rest => newLine level ++ prettyChars level v ++ ',' :: prettyItems level rest

def prettyMembers (level : Nat) : List (String × Json) → List Char
  | [] => []
  | [(k, v)] => newLine level ++ stringChars k ++ ':' :: ' ' :: prettyChars level v
  | (k, v) :: rest =>
    newLine level ++ stringChars k ++ ':' :: ' ' :: prettyChars level v ++
      ',' :: prettyMembers level rest

end

/-- The indented text of a value. -/
def pretty (v : Json) : String := String.ofList (prettyChars 0 v)

end ConfigRules.Json
