/-!
Numbers written in hexadecimal.
-/

namespace ConfigRules.Text

def hexDigit? (c : Char) : Option Nat :=
  if c.isDigit then some (c.toNat - '0'.toNat)
  else if 'a' ≤ c ∧ c ≤ 'f' then some (c.toNat - 'a'.toNat + 10)
  else if 'A' ≤ c ∧ c ≤ 'F' then some (c.toNat - 'A'.toNat + 10)
  else none

/-- The value of the hexadecimal digits at the front of a text, if it has that many. -/
def hexFront? (count : Nat) (cs : List Char) : Option Nat :=
  let digits := cs.take count
  if digits.length < count then none
  else digits.foldlM (fun n c => (hexDigit? c).map (16 * n + ·)) 0

end ConfigRules.Text
