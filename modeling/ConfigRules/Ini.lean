import ConfigRules.Json.Basic
import ConfigRules.Text.Blank
import ConfigRules.Text.Hex

/-!
INI documents: lines that give texts to keys, in sections that have a name. Keys before the first
section stand at the top.
-/

namespace ConfigRules.Ini

inductive Line where
  | header (name : String)
  | property (key value : String)

/-- What an escape stands for, and how many characters follow the backslash. A line that ends there
goes on in the next one. -/
def escape? : List Char → Option (List Char × Nat)
  | [] => none
  | c :: cs =>
    match c with
    | '0' => some (['\x00'], 1)
    | 'a' => some (['\x07'], 1)
    | 'b' => some (['\x08'], 1)
    | 't' => some (['\t'], 1)
    | 'r' => some (['\r'], 1)
    | 'n' => some (['\n'], 1)
    | '\n' => some ([], 1)
    | 'x' => do
      let n ← Text.hexFront? 4 cs
      if n.isValidChar then some ([Char.ofNat n], 5) else none
    | _ => some ([c], 1)

/-- The text before the first of some ends, and how many characters it takes. Only a text that may
be the last one needs no end. -/
def before? (ends : List Char) (mayBeLast : Bool) : List Char → Option (List Char × Nat)
  | [] => if mayBeLast then some ([], 0) else none
  | c :: cs =>
    if c ∈ ends then some ([], 0)
    else if c = '\\' then do
      let (front, n) ← escape? cs
      let (body, m) ← before? ends mayBeLast (cs.drop n)
      return (front ++ body, 1 + n + m)
    else do
      let (body, m) ← before? ends mayBeLast cs
      return (c :: body, m + 1)
termination_by cs => cs.length
decreasing_by all_goals simp only [List.length_drop, List.length_cons]; omega

def trimEnd (cs : List Char) : List Char := (cs.reverse.dropWhile Text.isBlank).reverse

/-- A value up to the end of its line, and how many characters it takes. Texts in quotes may stand
in front of the rest. -/
def value? (afterQuotes : Bool) : List Char → Option (List Char × Nat)
  | [] => some ([], 0)
  | c :: cs =>
    if c = '"' ∨ c = '\'' then do
      let (body, n) ← before? [c] false cs
      let (rest, m) ← value? true (cs.drop (n + 1))
      return (body ++ rest, 1 + (n + 1) + m)
    else do
      let (body, n) ← before? ['\n', '\r'] true (c :: cs)
      return (if afterQuotes then trimEnd body else Text.trimChars body, n)
termination_by cs => cs.length
decreasing_by simp only [List.length_drop, List.length_cons]; omega

/-- White space within a line. -/
def isLineSpace (c : Char) : Bool := Text.isBlank c && c != '\n' && c != '\r'

/-- A property after its key, from the sign on: its value, and how many characters they take after
the sign. -/
def valueAfterSign? (cs : List Char) : Option (List Char × Nat) :=
  let space := cs.takeWhile isLineSpace
  (value? false (cs.drop space.length)).map fun (value, n) => (value, space.length + n)

/-- The lines of a text. A comment may stand only in the first column, which `fresh` says. White
space behind the end of a line, which `indents` says, begins a key, whatever comes next; such a key
does not count if no sign follows. -/
def lines? (fresh indents : Bool) : List Char → Option (List Line)
  | [] => some []
  | c :: cs =>
    if Text.isBlank c ∧ ¬(indents ∧ (c = ' ' ∨ c = '\t')) then
      lines? (c == '\n') (c == '\n' || c == '\r') cs
    else if c = ';' ∨ c = '#' then
      if fresh then lines? true false (cs.drop ((cs.takeWhile (· != '\n')).length + 1)) else none
    else if c = '[' then do
      let (name, n) ← before? [']'] false cs
      let header := Line.header (String.ofList (Text.trimChars name))
      return header :: (← lines? false false (cs.drop (n + 1)))
    else
      match before? ['=', ':'] false (c :: cs) with
      | none => if Text.isBlank c then some [] else none
      | some (key, n) => do
        let key := Text.trimChars key
        let (value, m) ← valueAfterSign? ((c :: cs).drop (n + 1))
        if key.isEmpty then none
        else
          let line := Line.property (String.ofList key) (String.ofList value)
          return line :: (← lines? false false (cs.drop (n + m)))
termination_by cs => cs.length
decreasing_by all_goals simp only [List.length_drop, List.length_cons]; omega

/-- The entries of lines, with those before them and those of the section that they are in. The last
one of two sections of one name counts. -/
def entries (done : Json.Members) (current : Option (String × Json.Members)) :
    List Line → Json.Members
  | [] =>
    match current with
    | none => done
    | some (name, ms) => done.put name (.object ms)
  | .header name :: rest =>
    match current with
    | none => entries done (some (name, [])) rest
    | some (old, ms) => entries (done.put old (.object ms)) (some (name, [])) rest
  | .property key value :: rest =>
    match current with
    | none => entries (done.put key (.string value)) none rest
    | some (name, ms) => entries done (some (name, ms.put key (.string value))) rest

/-- The entries of a document. White space that it begins with does not count. -/
def parse? (text : List Char) : Option Json.Members :=
  let margin := text.takeWhile Text.isBlank
  (lines? (margin.getLast?.all (· == '\n')) false (text.drop margin.length)).map (entries [] none)

end ConfigRules.Ini
