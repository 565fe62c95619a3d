import ConfigRules.Condition.Token
import ConfigRules.Path
import ConfigRules.Text.Quoted

/-!
Formulas: what conditions say. Literals and items remember where they stand in the source.
-/

namespace ConfigRules.Condition

inductive Formula where
  | truth (b : Bool)
  | number (n : Number) (position : Nat)
  | text (s : String) (position : Nat)
  | item (path : Path) (position : Nat)
  | not (inner : Formula)
  | and (left right : Formula)
  | or (left right : Formula)
  | compare (relation : Relation) (left right : Formula)
  /-- The subject is, or is not, equal to one of the elements. -/
  | member (subject : Formula) (negated : Bool) (elements : List Formula)

namespace Formula

/-- The place of the leftmost operand that has one. -/
def position? : Formula → Option Nat
  | truth _ => none
  | number _ p | text _ p | item _ p => some p
  | not f => f.position?
  | and f _ | or f _ | compare _ f _ | member f _ _ => f.position?

/-- The place named in messages. -/
def place (f : Formula) : Nat := f.position?.getD 0

mutual

/-- The items of a formula in the order of its text. -/
def items : Formula → List Path
  | item path _ => [path]
  | not f => f.items
  | and f g | or f g | compare _ f g => f.items ++ g.items
  | member f _ elements => f.items ++ itemsOfAll elements
  | _ => []

def itemsOfAll : List Formula → List Path
  | [] => []
  | f :: fs => f.items ++ itemsOfAll fs

end

/-- An item in braces. -/
def bracedChars (path : Path) : List Char := '\x7b' :: path.text.toList ++ ['\x7d']

def braced (path : Path) : String := String.ofList (bracedChars path)

mutual

/-- The text of a formula, with all its parentheses and a text behind it. -/
def displayOnto (rest : List Char) : Formula → List Char
  | truth b => (if b then "True" else "False").toList ++ rest
  | number n _ => n.chars ++ rest
  | text s _ => Text.quotedChars s.toList ++ rest
  | item path _ => bracedChars path ++ rest
  | not f => "not (".toList ++ f.displayOnto (')' :: rest)
  | and f g => '(' :: f.displayOnto (" and ".toList ++ g.displayOnto (')' :: rest))
  | or f g => '(' :: f.displayOnto (" or ".toList ++ g.displayOnto (')' :: rest))
  | compare r f g =>
    '(' :: f.displayOnto (' ' :: r.symbol.toList ++ ' ' :: g.displayOnto (')' :: rest))
  | member f negated elements =>
    f.displayOnto ((if negated then " not in (" else " in (").toList ++
      listOnto (')' :: rest) elements)

/-- Formulas with commas between them, and a text behind them. -/
def listOnto (rest : List Char) : List Formula → List Char
  | [] => rest
  | [f] => f.displayOnto rest
  | f :: fs => f.displayOnto (", ".toList ++ listOnto rest fs)

end

/-- The text of a formula. -/
def displayChars (f : Formula) : List Char := f.displayOnto []

mutual

/-- What is behind the text of a formula has no part in it. -/
theorem displayOnto_eq (rest : List Char) :
    (f : Formula) → f.displayOnto rest = f.displayChars ++ rest
  | truth _ | number _ _ | text _ _ | item _ _ => by simp [displayChars, displayOnto]
  | not f => by
    simp [displayChars, displayOnto, displayOnto_eq (')' :: rest) f, displayOnto_eq [')'] f]
  | and f g | or f g => by
    simp only [displayChars, displayOnto, displayOnto_eq (_ ++ _) f, displayOnto_eq (_ :: _) g,
      List.append_assoc, List.cons_append, List.nil_append]
  | compare _ f g => by
    simp only [displayChars, displayOnto, displayOnto_eq (_ :: _) f, displayOnto_eq (_ :: _) g,
      List.append_assoc, List.cons_append, List.nil_append]
  | member f _ elements => by
    simp only [displayChars, displayOnto, displayOnto_eq (_ ++ _) f, listOnto_eq (_ :: _) elements,
      List.append_assoc, List.cons_append, List.nil_append]

theorem listOnto_eq (rest : List Char) :
    (fs : List Formula) → listOnto rest fs = listOnto [] fs ++ rest
  | [] => by simp [listOnto]
  | [f] => by simp [listOnto, displayOnto_eq rest f, displayChars]
  | f :: g :: fs => by
    simp only [listOnto, displayOnto_eq (_ ++ _) f, listOnto_eq rest (g :: fs),
      List.append_assoc]

end

def display (f : Formula) : String := String.ofList f.displayChars

end Formula

end ConfigRules.Condition
