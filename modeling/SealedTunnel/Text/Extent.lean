/-!
# Places in texts

Places in a text are counted in the bytes of UTF-8 that stand before them.

## Main definitions

* `Text.size`: how many bytes a text has
* `Text.between`: what stands between two places
-/

namespace SealedTunnel.Text

/-- The number of bytes of a text. -/
def size : List Char → Nat
  | [] => 0
  | c :: cs => c.utf8Size + size cs

/-- The characters that start at or after one place and before another. -/
def between (start stop : Nat) : List Char → List Char
  | [] => []
  | c :: cs =>
    let rest := between (start - c.utf8Size) (stop - c.utf8Size) cs
    if start = 0 && 0 < stop then c :: rest else rest

end SealedTunnel.Text
