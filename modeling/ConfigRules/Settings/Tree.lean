import ConfigRules.Json.Basic

/-!
Settings as trees of named and numbered values, put together from several sources: a later source
has the last word on a value and adds to a table.
-/

namespace ConfigRules.Settings

inductive Tree where
  | bool (b : Bool)
  | integer (n : Int)
  | float (x : Binary64)
  | text (s : String)
  | list (items : List Tree)
  | table (entries : List (String × Tree))
  /-- A place that has no value yet. -/
  | missing

/-- One step into a tree. -/
inductive Step where
  | key (name : String)
  /-- The item of a list, counted from the end if negative. -/
  | item (index : Int64)
deriving DecidableEq

namespace Tree

abbrev Entries := Keyed String Tree

mutual

/-- The tree of a JSON value; a null is a place without a value. -/
def ofJson : Json → Tree
  | .null => missing
  | .bool b => bool b
  | .number (.integer n _) => integer n
  | .number (.real x) => float (.finite x)
  | .string s => text s
  | .array items => list (ofItems items)
  | .object ms => table (ofMembers ms)

def ofItems : List Json → List Tree
  | [] => []
  | v :: vs => ofJson v :: ofItems vs

def ofMembers : List (String × Json) → List (String × Tree)
  | [] => []
  | (key, v) :: rest => (key, ofJson v) :: ofMembers rest

end

/-- The entries of a table; any other value has none. -/
def entries : Tree → Entries
  | table es => es
  | _ => []

/-- The items of a list; any other value has none. -/
def items : Tree → List Tree
  | list vs => vs
  | _ => []

mutual

/-- What becomes of a value when another one comes to its place. A table adds its entries to those
already there. -/
def merge (old : Tree) : Tree → Tree
  | table es => table (mergeAll old.entries es)
  | v => v

def mergeAll (target : Entries) : List (String × Tree) → Entries
  | [] => target
  | (key, v) :: rest =>
    mergeAll (target.put key (merge ((target.get? key).getD missing) v)) rest

end

/-- Changes the item of a list at an index. Missing places are put in until the list has one. -/
def changeItem (change : Tree → Tree) (index : Int) (vs : List Tree) : List Tree :=
  if 0 ≤ index then
    (vs ++ List.replicate (index.toNat + 1 - vs.length) missing).modify index.toNat change
  else if 0 ≤ vs.length + index then vs.modify (vs.length + index).toNat change
  else (List.replicate (-index - vs.length).toNat missing ++ vs).modify 0 change

/-- Brings a value to a place, and makes tables and lists of whatever stands on the way. -/
def place (value : Tree) : List Step → Tree → Tree
  | [], old => merge old value
  | .key name :: steps, old =>
    table (old.entries.put name (place value steps ((old.entries.get? name).getD missing)))
  | .item index :: steps, old => list (changeItem (place value steps) index.toInt old.items)

/-- A part of a section: an entry of a table, or an item of a list that names no parts. -/
def part? (name : String) (position : Nat) : Tree → Option Tree
  | table es => Keyed.get? name es
  | list vs => vs[position]?
  | _ => none

end Tree

end ConfigRules.Settings
