/-!
The line under a quoted text that marks one of its characters.
-/

namespace ConfigRules.Text

/-- Dashes as long as the text, with a caret at a position. The position may lie past the end. -/
def caretLine (text : String) (position : Nat) : String :=
  String.ofList (List.replicate position '-' ++ '^' ::
    List.replicate (text.length - (position + 1)) '-')

end ConfigRules.Text
