/-!
The byte order mark that a text may begin with.
-/

namespace ConfigRules.Text

/-- A text without its first mark. -/
def dropMark : List Char → List Char
  | '\ufeff' :: cs => cs
  | cs => cs

end ConfigRules.Text
