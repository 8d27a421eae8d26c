/-!
# White space

The characters with the Unicode property White_Space, and texts without such characters at their
ends.

## Main definitions

* `Text.isBlank`: the property
* `Text.trim`: a text without blanks at its ends
-/

namespace SealedTunnel.Text

/-- Whether a character has the property White_Space. -/
def isBlank (c : Char) : Bool :=
  (0x9 ≤ c.val && c.val ≤ 0xD) || c.val = 0x20 || c.val = 0x85 || c.val = 0xA0 ||
    c.val = 0x1680 || (0x2000 ≤ c.val && c.val ≤ 0x200A) || c.val = 0x2028 || c.val = 0x2029 ||
    c.val = 0x202F || c.val = 0x205F || c.val = 0x3000

/-- The characters without the blanks at the ends. -/
def trim (cs : List Char) : List Char :=
  ((cs.dropWhile isBlank).reverse.dropWhile isBlank).reverse

end SealedTunnel.Text
