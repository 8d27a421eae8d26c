import Std.Data.HashMap
import SealedTunnel.Snappy.Element

/-!
# Snappy blocks

Compression of one block: the contents are scanned from left to right, and wherever the next four
bytes have occurred before, the longest common continuation becomes a reference to that place.
Decompression expands the elements and checks the result against the declared length.

## Main definitions

* `Block.elements`: the elements that a byte string is written with
* `Block.compress`: the block of a byte string
* `Block.declaredLength?`, `Block.decompress?`: the length that a block declares, its contents
-/

namespace SealedTunnel.Snappy.Block

/-- The most groups of seven bits that the length in front of a block takes: as many as a number of
32 bits needs. More are refused, be they zero or not. -/
def lengthWidth : Nat := 5

/-! ## Compression -/

/-- Byte strings shorter than this hold no reference. -/
def shortest : Nat := 17

/-- The four bytes from position `i` on, as one word. -/
def wordAt (data : Array UInt8) (i : Nat) : UInt32 :=
  (data.getD i 0).toUInt32 ||| ((data.getD (i + 1) 0).toUInt32 <<< 8) |||
    ((data.getD (i + 2) 0).toUInt32 <<< 16) ||| ((data.getD (i + 3) 0).toUInt32 <<< 24)

/-- How many of the next `n` bytes at positions `i` and `j` agree; `seen` have been counted. -/
def commonLength (data : Array UInt8) : (n : Nat) → (i j seen : Nat) → Nat
  | 0, _, _, seen => seen
  | n + 1, i, j, seen =>
    if data.getD i 0 = data.getD j 0 then commonLength data n (i + 1) (j + 1) (seen + 1) else seen

/-- A reference of any length as elements of at most 64 bytes, none of them shorter than four. -/
def copies (offset : Nat) : (fuel : Nat) → (length : Nat) → List Element
  | 0, _ => []
  | fuel + 1, length =>
    if length ≤ 64 then [.copy offset length]
    else if length < 68 then [.copy offset 60, .copy offset (length - 60)]
    else .copy offset 64 :: copies offset fuel (length - 64)

/-- The bytes from `start` up to `stop`, as an element unless there are none. -/
def literals (data : Array UInt8) (start stop : Nat) : List Element :=
  if start < stop then [.literal (data.extract start stop).toList] else []

/-- The elements for the bytes from `start` on, of which those before `i` are known to hold no
reference. `seen` gives for a word of four bytes a place where it has occurred, and `found` is what
came before, the latest element first. -/
def scan (data : Array UInt8) :
    (fuel : Nat) → (seen : Std.HashMap UInt32 Nat) → (start i : Nat) → (found : List Element) →
      List Element
  | 0, _, start, _, found => found.reverse ++ literals data start data.size
  | fuel + 1, seen, start, i, found =>
    if data.size < i + 4 then found.reverse ++ literals data start data.size
    else
      let word := wordAt data i
      match seen[word]? with
      | none => scan data fuel (seen.insert word i) start (i + 1) found
      | some j =>
        let length := commonLength data (data.size - i) j i 0
        -- An element of three bytes reaches back less than 2^16, and saves room from four bytes on.
        if j < i ∧ 4 ≤ length ∧ i - j < 65536 then
          scan data fuel (seen.insert word i) (i + length) (i + length)
            ((copies (i - j) length length).reverse ++ ((literals data start i).reverse ++ found))
        else scan data fuel (seen.insert word i) start (i + 1) found

/-- The elements that a byte string is written with. -/
def elements (data : Bytes) : List Element :=
  let a := data.toArray
  if a.size < shortest then literals a 0 a.size else scan a (a.size + 1) ∅ 0 0 []

/-- The block of a byte string. -/
def compress (data : Bytes) : Bytes :=
  Length.bytes lengthWidth data.length ++ (elements data).flatMap Element.bytes

/-- How long a block may become for contents of `n` bytes. -/
def maxLength (n : Nat) : Nat := 32 + n + n / 6

/-! ## Decompression -/

/-- The most that a block may declare. -/
def maxDeclared : Nat := UInt32.size - 1

/-- The declared length and the elements' text of a block. -/
def header? (block : Bytes) : Option (Nat × Bytes) :=
  match Length.read? lengthWidth block with
  | some (n, text) => if n > maxDeclared then none else some (n, text)
  | none => none

example : header? [0x80, 0x80, 0x80, 0x80, 0x00] = some (0, []) := by decide

example : header? [0x80, 0x80, 0x80, 0x80, 0x80, 0x00] = none := by decide

/-- The length that a block declares; nothing declares zero. -/
def declaredLength? (block : Bytes) : Option Nat :=
  if block.isEmpty then some 0 else (header? block).map Prod.fst

/-- The contents of a block, which must have exactly the declared length. -/
def decompress? (block : Bytes) : Option Bytes := do
  let (n, text) ← header? block
  let elements ← Element.readAll? text.length text
  let out ← Element.expandAll? n #[] elements
  if out.size = n then some out.toList else none

end SealedTunnel.Snappy.Block
