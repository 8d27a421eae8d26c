/-!
# Characters by number

Escapes name a character by its number in hexadecimal digits.

## Main definitions

* `Text.hexValue?`: the value of a hexadecimal digit
* `Text.scalar?`: the character of a number
-/

namespace SealedTunnel.Text

/-- The value of a hexadecimal digit. -/
def hexValue? (c : Char) : Option Nat :=
  if c.isDigit then some (c.toNat - '0'.toNat)
  else if 'a' ≤ c ∧ c ≤ 'f' then some (c.toNat - 'a'.toNat + 10)
  else if 'A' ≤ c ∧ c ≤ 'F' then some (c.toNat - 'A'.toNat + 10)
  else none

/-- The character of a number that is a Unicode scalar value. -/
def scalar? (n : Nat) : Option Char :=
  if h : n.isValidChar then some (Char.ofNatAux n h) else none

end SealedTunnel.Text
