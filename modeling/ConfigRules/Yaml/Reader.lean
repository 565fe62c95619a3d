import ConfigRules.Json.Piece
import ConfigRules.Yaml.Scalar

/-!
YAML documents as far as they hold what JSON holds: nested maps and lists, laid out by columns or
between brackets, of words and texts on one line.
-/

namespace ConfigRules.Yaml

inductive Piece where
  /-- The dash before an item of a list. -/
  | dash (column : Nat)
  | key (column : Nat) (name : String)
  /-- A single value, or one between brackets. -/
  | value (tokens : List Json.Token)
  /-- The line of dashes that may stand before a document. -/
  | start

/-- The pieces between brackets, of which so many are open, up to the end of the outermost one, and
how many characters they take. -/
def bracketed? (depth : Nat) : List Char → Option (List Json.Piece × Nat)
  | [] => none
  | c :: cs =>
    if isSpace c ∨ c = '\n' then skip 1 (bracketed? depth cs)
    else if c = '#' then
      let comment := cs.takeWhile (· != '\n')
      skip (1 + comment.length) (bracketed? depth (cs.drop comment.length))
    else if c = '[' then piece .openArray 1 (bracketed? (depth + 1) cs)
    else if c = '\x7b' then piece .openObject 1 (bracketed? (depth + 1) cs)
    else if c = ']' ∨ c = '\x7d' then
      let t : Json.Token := if c = ']' then .closeArray else .closeObject
      if depth = 1 then some ([.token t], 1) else piece t 1 (bracketed? (depth - 1) cs)
    else if c = ',' then piece .comma 1 (bracketed? depth cs)
    else if c = '"' ∨ c = '\'' then do
      let (body, n) ← body? c cs
      piece (.string (String.ofList body)) (n + 1) (bracketed? depth (cs.drop n))
    else if c = ':' then piece .colon 1 (bracketed? depth cs)
    else if beginsWords true c cs then do
      let tail := words true cs
      let s := String.ofList (Text.trimChars (c :: tail))
      let (rest, n) ← bracketed? depth (cs.drop tail.length)
      return (.word s :: rest, 1 + tail.length + n)
    else none
termination_by cs => cs.length
decreasing_by all_goals simp only [List.length_drop, List.length_cons]; omega
where
  skip (n : Nat) (found : Option (List Json.Piece × Nat)) : Option (List Json.Piece × Nat) :=
    found.map fun (pieces, m) => (pieces, n + m)
  piece (t : Json.Token) (n : Nat) (found : Option (List Json.Piece × Nat)) :
      Option (List Json.Piece × Nat) :=
    found.map fun (pieces, m) => (.token t :: pieces, n + m)

/-- The text in quotes or the words that a text begins with, as a key or as a value, and how many
characters they take after the first. -/
def scalar? (c : Char) (cs : List Char) : Option (String × Json.Token × Nat) :=
  if c = '"' ∨ c = '\'' then do
    let (body, n) ← body? c cs
    return (String.ofList body, .string (String.ofList body), n)
  else if beginsWords false c cs then
    let tail := words false cs
    let s := String.ofList (Text.trimChars (c :: tail))
    some (s, .atom (wordValue s), tail.length)
  else none

/-- The pieces of a text from a column on. Dashes and keys stand at the front of a line. -/
def pieces? (atFront : Bool) (column : Nat) : List Char → Option (List Piece)
  | [] => some []
  | c :: cs =>
    if c = '\n' then pieces? true 0 cs
    else if c = ' ' ∨ (c = '\t' ∧ !atFront) then pieces? atFront (column + 1) cs
    else if c = '#' then pieces? atFront column (cs.dropWhile (· != '\n'))
    else if atFront ∧ column = 0 ∧ (c :: cs).take 3 = "---".toList ∧ endsSign false (cs.drop 2) then
      do return .start :: (← pieces? false 3 (cs.drop 2))
    else if atFront ∧ c = '-' ∧ endsSign false cs then do
      return .dash column :: (← pieces? true (column + 1) cs)
    else if c = '[' ∨ c = '\x7b' then do
      let (inner, n) ← bracketed? 0 (c :: cs)
      let tokens ← Json.Piece.tokens? (fun s => some (wordValue s)) false inner
      return .value tokens :: (← pieces? false (column + n) (cs.drop (n - 1)))
    else do
      let (name, token, n) ← scalar? c cs
      let space := (cs.drop n).takeWhile isSpace
      let after := cs.drop (n + space.length)
      if atFront ∧ after.head? = some ':' ∧ endsSign false (after.drop 1) then
        return .key column name :: (← pieces? false 0 (cs.drop (n + space.length + 1)))
      else return .value [token] :: (← pieces? false 0 (cs.drop n))
termination_by cs => cs.length
decreasing_by
  · simp
  · simp
  · exact Nat.lt_succ_of_le (List.dropWhile_sublist _).length_le
  all_goals simp only [List.length_drop, List.length_cons]; omega

/-- A map or a list that is open, by the column of its keys or dashes. -/
structure Block where
  column : Nat
  /-- The keys so far; a list has none. -/
  keys : Option (List String)

structure Layout where
  /-- The open blocks from the inside. -/
  blocks : List Block
  /-- A value is awaited. -/
  awaits : Bool
  /-- The tokens so far, the last one first. -/
  tokens : List Json.Token

namespace Layout

def initial : Layout := ⟨[], true, []⟩

/-- A value that does not come is a null. -/
def filled (awaits : Bool) (tokens : List Json.Token) : List Json.Token :=
  if awaits then .atom .null :: tokens else tokens

/-- Closes blocks from the inside as long as they are among some. -/
def close (among : Block → Bool) (awaits : Bool) (tokens : List Json.Token) :
    List Block → Layout
  | [] => ⟨[], awaits, tokens⟩
  | b :: rest =>
    if among b then
      let t : Json.Token := if b.keys.isSome then .closeObject else .closeArray
      close among false (t :: filled awaits tokens) rest
    else ⟨b :: rest, awaits, tokens⟩

/-- A list begins with the dash of its first item. -/
def openList? (l : Layout) (column : Nat) : Option Layout :=
  if l.awaits then
    some { l with blocks := ⟨column, none⟩ :: l.blocks, tokens := .openArray :: l.tokens }
  else none

/-- A map begins with its first key. -/
def openMap? (l : Layout) (column : Nat) (name : String) : Option Layout :=
  if l.awaits then
    some { l with
      blocks := ⟨column, some [name]⟩ :: l.blocks
      tokens := .colon :: .string name :: .openObject :: l.tokens }
  else none

/-- Takes a dash: the next item of the list in its column, or the first one of a new list. -/
def dash? (l : Layout) (column : Nat) : Option Layout :=
  let l := close (column < ·.column) l.awaits l.tokens l.blocks
  match l.blocks with
  | ⟨c, none⟩ :: _ =>
    if c = column then some { l with awaits := true, tokens := .comma :: filled l.awaits l.tokens }
    else l.openList? column
  | _ => l.openList? column

/-- Takes a key: the next one of the map in its column, or the first one of a new map. A map has no
key twice. -/
def key? (l : Layout) (column : Nat) (name : String) : Option Layout :=
  let l := close (fun b => column < b.column || (b.column == column && b.keys.isNone))
    l.awaits l.tokens l.blocks
  match l.blocks with
  | ⟨c, some keys⟩ :: rest =>
    if c ≠ column then l.openMap? column name
    else if name ∈ keys then none
    else some {
      blocks := ⟨c, some (name :: keys)⟩ :: rest
      awaits := true
      tokens := .colon :: .string name :: .comma :: filled l.awaits l.tokens }
  | _ => l.openMap? column name

def step? (l : Layout) : Piece → Option Layout
  | .dash column => l.dash? column
  | .key column name => l.key? column name
  | .value tokens =>
    if l.awaits then some { l with awaits := false, tokens := tokens.reverse ++ l.tokens } else none
  | .start => if l.tokens.isEmpty then some l else none

/-- The tokens of a document that ends here. -/
def result (l : Layout) : List Json.Token :=
  let l := close (fun _ => true) l.awaits l.tokens l.blocks
  (filled l.awaits l.tokens).reverse

end Layout

/-- The entries of a document; one with nothing in it has none. -/
def parse? (text : List Char) : Option Json.Members := do
  let pieces ← pieces? true 0 (text.filter (· != '\r'))
  if pieces.isEmpty then some []
  else
    let layout ← pieces.foldlM Layout.step? .initial
    match ← Json.ofTokens? layout.result with
    | .object ms => some ms
    | _ => none

end ConfigRules.Yaml
