import ConfigRules.Text.Visible

/-!
Quoted texts for messages: between double quotes, with escapes for whatever would not show.
-/

namespace ConfigRules.Text

/-- One character between the quotes: a short escape, the code point in hexadecimal, or itself. -/
def escapeChar (c : Char) : List Char :=
  match c with
  | '\x00' => ['\\', '0']
  | '\t' => ['\\', 't']
  | '\n' => ['\\', 'n']
  | '\r' => ['\\', 'r']
  | '"' => ['\\', '"']
  | '\\' => ['\\', '\\']
  | _ =>
    if isVisible c then [c]
    else '\\' :: 'u' :: '\x7b' :: Nat.toDigits 16 c.toNat ++ ['\x7d']

def quotedChars (cs : List Char) : List Char := '"' :: cs.flatMap escapeChar ++ ['"']

def quoted (s : String) : String := String.ofList (quotedChars s.toList)

end ConfigRules.Text
