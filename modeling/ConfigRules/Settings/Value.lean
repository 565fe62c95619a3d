import ConfigRules.Pass
import ConfigRules.Settings.Tree
import ConfigRules.Text.Lowercase

/-!
Single settings: how one is read from an environment variable, and what it counts for where a text,
a truth value or a mode is wanted.
-/

namespace ConfigRules.Settings

def lowercase (s : String) : String := String.ofList (Text.lowercase s.toList)

/-- The value of a variable: a truth value, an integer, a float, or else its text. -/
def ofVariable (s : String) : Tree :=
  if lowercase s = "true" then .bool true
  else if lowercase s = "false" then .bool false
  else
    match Numeral.readInt? s.toList with
    | some n => .integer n.toInt
    | none =>
      match Numeral.readFloat? s.toList with
      | some x => .float x
      | none => .text s

/-- Floats in settings are positional whatever their magnitude. -/
def plainStyle : FloatStyle := ⟨-400, 400, false, .up⟩

/-- The text of a float; a whole number has no fraction. -/
def floatText : Binary64 → String
  | .finite x =>
    let text := plainStyle.finiteChars x
    String.ofList (if x.IsWhole then text.takeWhile (· != '.') else text)
  | x => String.ofList x.chars

namespace Tree

def text? : Tree → Option String
  | bool b => some (if b then "true" else "false")
  | integer n => some (String.ofList (Numeral.ofInt n))
  | float x => some (floatText x)
  | text s => some s
  | list _ | table _ | missing => none

def truth? : Tree → Option Bool
  | bool b => some b
  | integer n => some (n != 0)
  | float x => some (x.compare? (.zero false) != some .eq)
  | text s =>
    if lowercase s ∈ ["1", "true", "on", "yes"] then some true
    else if lowercase s ∈ ["0", "false", "off", "no"] then some false
    else none
  | list _ | table _ | missing => none

def modeOf? (s : String) : Option Mode :=
  if s = "fail_fast" then some .failFast else if s = "collect_all" then some .collectAll else none

/-- A mode is named by a text, or by the only entry of a table. -/
def mode? : Tree → Option Mode
  | text s => modeOf? s
  | table [(key, _)] => modeOf? key
  | _ => none

end Tree

end ConfigRules.Settings
