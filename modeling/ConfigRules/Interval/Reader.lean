import ConfigRules.Interval.Basic

/-!
Reading intervals: a bracket, a bound, a comma, a bound and a bracket, with white space anywhere
between them. Every step gives what it read and what is left, or else what is left where it failed.
-/

namespace ConfigRules.Interval

/-- A step of reading. -/
abbrev Step (α : Type) := List Char → Except (List Char) (α × List Char)

def skipBlanks (cs : List Char) : List Char := cs.dropWhile Text.isBlank

/-- One of the given characters after white space. -/
def readOne (allowed : List Char) : Step Char := fun cs =>
  match skipBlanks cs with
  | c :: rest => if c ∈ allowed then .ok (c, rest) else .error (c :: rest)
  | [] => .error []

/-- A number after white space, or the mark of an unbounded side. -/
def readBound (unbounded : List Char) : Step (Option Number) := fun cs =>
  let cs := skipBlanks cs
  if unbounded.isPrefixOf cs then .ok (none, cs.drop unbounded.length)
  else
    match Number.atFront? cs with
    | some (n, length) => .ok (some n, cs.drop length)
    | none => .error cs

/-- The endpoints that make up a whole text. -/
def readEndpoints (cs : List Char) : Except (List Char) (Endpoint × Endpoint) := do
  let (left, cs) ← readOne ['[', ']'] cs
  let (low, cs) ← readBound "-inf".toList cs
  let (_, cs) ← readOne [','] cs
  let (high, cs) ← readBound "+inf".toList cs
  let (right, cs) ← readOne ['[', ']'] cs
  match skipBlanks cs with
  | [] => return (⟨low, left == ']'⟩, ⟨high, right == '['⟩)
  | rest => .error rest

/-- The interval that a text describes. -/
def parse (text : String) : Except IntervalError Interval :=
  match readEndpoints text.toList with
  | .ok (lower, upper) => between lower upper
  | .error rest => .error (.malformed (.atRest text rest))

end ConfigRules.Interval
