import ConfigRules.Numeral
import ConfigRules.Settings.Tree

/-!
The names of settings: keys with dots between them, and indices of lists in brackets.
-/

namespace ConfigRules.Settings

def isKeyChar (c : Char) : Bool := c.isAlphanum || c == '_' || c == '-'

/-- The index of a list: digits with at most a minus sign, and spaces around them. -/
def index? (cs : List Char) : Option Int64 :=
  let isSpace (c : Char) : Bool := c == ' ' || c == '\t'
  let inner := ((cs.dropWhile isSpace).reverse.dropWhile isSpace).reverse
  if inner.head? = some '+' then none else Numeral.readInt? inner

/-- The steps after a first key, up to the end of the name. -/
def furtherSteps? : List Char → Option (List Step)
  | [] => some []
  | '.' :: cs =>
    let key := cs.takeWhile isKeyChar
    if key.isEmpty then none
    else do return .key (String.ofList key) :: (← furtherSteps? (cs.drop key.length))
  | '[' :: cs =>
    let inner := cs.takeWhile (· != ']')
    if inner.length = cs.length then none
    else do return .item (← index? inner) :: (← furtherSteps? (cs.drop (inner.length + 1)))
  | _ => none
termination_by cs => cs.length
decreasing_by all_goals simp only [List.length_drop, List.length_cons]; omega

/-- The steps of a name that begins with a key. -/
def steps? (cs : List Char) : Option (List Step) :=
  let key := cs.takeWhile isKeyChar
  if key.isEmpty then none
  else do return .key (String.ofList key) :: (← furtherSteps? (cs.drop key.length))

/-- The steps to a top entry. A name that cannot be read in this way is a single key. -/
def entrySteps (name : String) : List Step := (steps? name.toList).getD [.key name]

end ConfigRules.Settings
