import ConfigRules.Path

/-!
The items that the text of a condition refers to. A reference is an opening brace, at least one
character, and then the next closing brace, all on one line; references do not overlap.
-/

namespace ConfigRules.Reference

/-- What stands between the brace before a text and the brace that closes it. The first character
counts even if it is a brace. -/
def body? : List Char → Option (List Char)
  | [] => none
  | c :: cs =>
    let tail := cs.takeWhile fun d => d != '\x7d' && d != '\n'
    if c ≠ '\n' ∧ (cs.drop tail.length).head? = some '\x7d' then some (c :: tail) else none

/-- The bodies of the references in a text, from left to right. -/
def bodies : List Char → List (List Char)
  | [] => []
  | c :: cs =>
    if c = '\x7b' then
      match body? cs with
      | some body => body :: bodies (cs.drop (body.length + 1))
      | none => bodies cs
    else bodies cs
termination_by cs => cs.length
decreasing_by all_goals simp only [List.length_drop, List.length_cons]; omega

/-- The items that a text refers to, in order. -/
def paths (source : String) : List Path :=
  (bodies source.toList).map fun body => ⟨String.ofList body⟩

end ConfigRules.Reference
