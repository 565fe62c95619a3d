import ConfigRules.Json.Basic
import ConfigRules.Text.Split

/-!
Paths of configuration items. A bare name is a key at the top; a path that begins with a slash goes
from object to object along the parts between its slashes.
-/

namespace ConfigRules

/-- A configuration: the members of a JSON object. -/
abbrev Config := Json.Members

namespace Json

/-- The value along a list of keys; it is absent where a value on the way is no object. -/
def get? : List String → Json → Option Json
  | [], v => some v
  | key :: keys, v => (v.members.get? key).bind (get? keys)

/-- Writes a value along a list of keys. A value on the way that is no object, or that is absent,
gives way to a new object. -/
def set : List String → Json → Json → Json
  | [], value, _ => value
  | key :: keys, value, v =>
    object (v.members.put key (set keys value ((v.members.get? key).getD null)))

end Json

structure Path where
  text : String
deriving DecidableEq

namespace Path

/-- The keys that lead to the item. -/
def segments (p : Path) : List String :=
  match p.text.toList with
  | '/' :: cs => (Text.split '/' cs).map String.ofList
  | _ => [p.text]

/-- Both spellings `k` and `/k` name the same item. -/
def SameItem (p q : Path) : Prop := p.segments = q.segments

instance (p q : Path) : Decidable (SameItem p q) := inferInstanceAs (Decidable (_ = _))

/-- The value of the item. -/
def get? (p : Path) (config : Config) : Option Json := Json.get? p.segments (.object config)

/-- The configuration with the item set to a value. -/
def set (p : Path) (value : Json) (config : Config) : Config :=
  (Json.set p.segments value (.object config)).members

end Path

end ConfigRules
