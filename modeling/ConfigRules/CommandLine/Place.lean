import ConfigRules.Text.Split

/-!
Places in a tree of directories, and the paths that lead to them from a working directory.
-/

namespace ConfigRules.CommandLine

/-- A directory from which places are named. -/
inductive Base where
  | working
  /-- A directory around the working directory, with so many directories between them. -/
  | around (between : Nat)
  | root
deriving DecidableEq

/-- The names that lead to a place. -/
structure Place where
  base : Base
  names : List String
deriving DecidableEq

namespace Place

def child (p : Place) (name : String) : Place := { p with names := p.names ++ [name] }

/-- The directory around a place; the root is around itself. -/
def parent : Place → Place
  | ⟨.working, []⟩ => ⟨.around 0, []⟩
  | ⟨.around n, []⟩ => ⟨.around (n + 1), []⟩
  | ⟨base, names⟩ => ⟨base, names.dropLast⟩

end Place

/-- The way that a path goes. -/
structure Route where
  start : Place
  /-- Names, and the dots for the same place and for its parent. -/
  parts : List String
  /-- The path ends in a slash, as only that of a directory may. -/
  endsInSlash : Bool

namespace Route

/-- Neighbouring slashes count as one. -/
def ofPath (path : String) : Route :=
  let cs := path.toList
  ⟨⟨if cs.head? = some '/' then .root else .working, []⟩,
    ((Text.split '/' cs).filter (!·.isEmpty)).map String.ofList, cs.getLast? = some '/'⟩

end Route

end ConfigRules.CommandLine
