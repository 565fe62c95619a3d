/-!
The parts of a list between separators.
-/

namespace ConfigRules.Text

/-- The parts between the occurrences of a separator; one more than there are occurrences. -/
def split [DecidableEq α] (separator : α) : List α → List (List α)
  | [] => [[]]
  | c :: cs =>
    if c = separator then [] :: split separator cs
    else
      match split separator cs with
      | part :: parts => (c :: part) :: parts
      | [] => [[c]]

end ConfigRules.Text
