import ConfigRules.Settings.Tree

/-!
The tables of a TOML document as they come about, line by line. A table remembers how it came about,
since that decides who may still add to it.
-/

namespace ConfigRules.Toml

/-- How a table came about. -/
inductive Origin where
  /-- On the way to a table with a header. -/
  | implied
  | headed
  /-- On the way along a key with dots. -/
  | dotted
  /-- Between braces, with all that it has. -/
  | closed
deriving DecidableEq

inductive Node where
  | leaf (v : Settings.Tree)
  /-- A list; a list of tables with headers is open to more of them. -/
  | list (isOpen : Bool) (items : List Node)
  | table (origin : Origin) (entries : List (String × Node))

namespace Node

mutual

/-- The tree of settings that a node holds. -/
def tree : Node → Settings.Tree
  | leaf v => v
  | list _ items => .list (treesOf items)
  | table _ es => .table (entryTrees es)

def treesOf : List Node → List Settings.Tree
  | [] => []
  | node :: rest => node.tree :: treesOf rest

def entryTrees : List (String × Node) → List (String × Settings.Tree)
  | [] => []
  | (key, node) :: rest => (key, node.tree) :: entryTrees rest

end

/-- A table with a header, before its first entry. -/
def fresh : Node := table .headed []

/-- What a header makes of the place that it names, which must not have been headed before. -/
def headed? : Option Node → Option Node
  | none => some fresh
  | some (table .implied es) => some (table .headed es)
  | _ => none

/-- What the header of one table of a list makes of the place that it names. -/
def listed? : Option Node → Option Node
  | none => some (list true [fresh])
  | some (list true items) => some (list true (items ++ [fresh]))
  | _ => none

/-- Changes the entries of a table, or of the last one of a list that is open. -/
def inside? (change : List (String × Node) → Option (List (String × Node))) : Node → Option Node
  | table .closed _ => none
  | table origin es => (change es).map (table origin)
  | list true items =>
    match items.getLast? with
    | some (table origin es) =>
      (change es).map fun es => list true (items.dropLast ++ [table origin es])
    | _ => none
  | _ => none

end Node

abbrev Entries := Keyed String Node

namespace Entries

/-- Gives a value to a key, which must have none. Dots lead through tables without a header, and
mark them; they also lead through the last table of an open list, but not into it alone. -/
def assign? (value : Node) : List String → Entries → Option Entries
  | [], _ => none
  | [key], es => if (es.get? key).isSome then none else some (es.put key value)
  | key :: keys, es =>
    match es.get? key with
    | none => do return es.put key (.table .dotted (← assign? value keys []))
    | some (.table .dotted inner) | some (.table .implied inner) => do
      return es.put key (.table .dotted (← assign? value keys inner))
    | some (.list true items) =>
      match keys, items.getLast? with
      | _ :: _ :: _, some (.table origin inner) => do
        let last := Node.table origin (← assign? value keys inner)
        return es.put key (.list true (items.dropLast ++ [last]))
      | _, _ => none
    | some _ => none

/-- Opens the place that a header names. -/
def head? (opened? : Option Node → Option Node) : List String → Entries → Option Entries
  | [], _ => none
  | [key], es => do return es.put key (← opened? (es.get? key))
  | key :: keys, es =>
    match es.get? key with
    | none => do return es.put key (.table .implied (← head? opened? keys []))
    | some node => do return es.put key (← node.inside? (head? opened? keys))

/-- Changes the entries of a table that is there. -/
def within? (change : Entries → Option Entries) : List String → Entries → Option Entries
  | [], es => change es
  | key :: keys, es => do
    return es.put key (← (← es.get? key).inside? (within? change keys))

end Entries

end ConfigRules.Toml
