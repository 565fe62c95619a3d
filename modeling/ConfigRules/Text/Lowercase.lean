/-!
Small letters as far as they are ASCII: those of the capital letters, and the `k` of the Kelvin
sign, the only other character that has one.
-/

namespace ConfigRules.Text

/-- The small letter of a character, if that is in ASCII; any other character stays. -/
def lowercaseChar (c : Char) : Char := if c = '\u212a' then 'k' else c.toLower

def lowercase (cs : List Char) : List Char := cs.map lowercaseChar

end ConfigRules.Text
