/-!
Which of a number of things must come before which, an order that respects it, and a cycle where
there is no such order.
-/

namespace ConfigRules

/-- Things are numbered from zero. The first of each pair must come before the second. -/
structure Precedence where
  size : Nat
  edges : List (Nat × Nat)

namespace Precedence

/-- The things that one thing must come before, once for every edge. -/
def followers (g : Precedence) (i : Nat) : List Nat := (g.edges.filter (·.1 = i)).map (·.2)

/-- An order under way. -/
structure Progress where
  /-- The things that have come, in order. -/
  done : List Nat
  /-- The things that can come next. -/
  ready : List Nat
  /-- For each thing, how many edges lead to it from things that have not come. -/
  waiting : List Nat

namespace Progress

/-- Nothing has come, and what no edge leads to can. -/
def start (g : Precedence) : Progress :=
  let waiting := (List.range g.size).map fun i => g.edges.countP (·.2 = i)
  ⟨[], (List.range g.size).filter (waiting[·]? = some 0), waiting⟩

/-- One edge less leads to a thing. If it was the last one, the thing can come next. -/
def release (p : Progress) (i : Nat) : Progress where
  done := p.done
  ready := if p.waiting[i]? = some 1 then i :: p.ready else p.ready
  waiting := p.waiting.modify i (· - 1)

/-- A thing comes, and what it must come before waits for it no longer. -/
def place (g : Precedence) (p : Progress) (i : Nat) : Progress :=
  (g.followers i).foldl release { p with done := p.done ++ [i], ready := p.ready.erase i }

/-- Places the least thing that can come next, as long as there is one, up to a number of times. -/
def run (g : Precedence) : Nat → Progress → Progress
  | 0, p => p
  | count + 1, p =>
    match p.ready.min? with
    | none => p
    | some i => run g count (p.place g i)

end Progress

/-- As many of the things as can be put in order. -/
def sorted (g : Precedence) : List Nat := (Progress.run g g.size (.start g)).done

/-- The things that cannot be put in order: those on a cycle or behind one. -/
def stuck (g : Precedence) : List Nat := (List.range g.size).filter (· ∉ g.sorted)

/-- The thing must come before one of the others. -/
def Leads (g : Precedence) (others : List Nat) (i : Nat) : Prop := ∃ j ∈ others, (i, j) ∈ g.edges

instance (g : Precedence) (others : List Nat) (i : Nat) : Decidable (g.Leads others i) :=
  inferInstanceAs (Decidable (∃ j ∈ others, _))

/-- Those of some things that must come before another of them. -/
def leading (g : Precedence) (things : List Nat) : List Nat := things.filter (g.Leads things ·)

/-- What is left of some things when those that lead to no other one are taken away, again and
again. -/
def core (g : Precedence) (things : List Nat) : List Nat :=
  if (g.leading things).length < things.length then core g (g.leading things) else things
termination_by things.length

/-- Follows edges within some things, always to the least one, until a thing comes again. The answer
begins and ends with that thing. -/
def walk (g : Precedence) (things : List Nat) : Nat → List Nat → Nat → List Nat
  | 0, path, _ => path
  | count + 1, path, i =>
    match things.find? fun j => (i, j) ∈ g.edges with
    | none => path
    | some j =>
      if j ∈ path then path.dropWhile (· != j) ++ [j]
      else walk g things count (path ++ [j]) j

/-- A cycle among the things that cannot be put in order. -/
def cycle (g : Precedence) : List Nat :=
  match g.core g.stuck with
  | [] => []
  | i :: rest => g.walk (i :: rest) (rest.length + 1) [i] i

/-- All the things in order, or else a cycle. -/
def order (g : Precedence) : Except (List Nat) (List Nat) :=
  if g.sorted.length = g.size then .ok g.sorted else .error g.cycle

end Precedence

end ConfigRules
