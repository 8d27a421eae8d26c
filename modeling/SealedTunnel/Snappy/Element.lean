import SealedTunnel.Bytes

/-!
# The elements of a Snappy block

A block is the length of its contents and a sequence of elements. An element is either some bytes
of the contents themselves, or a reference back into what came before it. This module has the
elements, their meaning, and their written form in both directions.

## Main definitions

* `Element`: a literal or a copy
* `Element.expand?`: the contents after one more element
* `Element.bytes`, `Element.read?`: the written form, and reading it back
* `Length.bytes`, `Length.read?`: the length in front of a block
-/

namespace SealedTunnel.Snappy

/-- A piece of the contents, given outright or as a reference to `offset` bytes back. -/
inductive Element where
  | literal (data : Bytes)
  | copy (offset length : Nat)
  deriving DecidableEq, Repr

namespace Element

/-! ## Meaning -/

/-- `n` more bytes, each the one `offset` places before it. -/
def copyBack (offset : Nat) : (n : Nat) → Array UInt8 → Array UInt8
  | 0, out => out
  | n + 1, out => copyBack offset n (out.push (out.getD (out.size - offset) 0))

/-- The contents after an element. A copy must reach back to a byte that is there. -/
def expand? (out : Array UInt8) : Element → Option (Array UInt8)
  | .literal data => some (out ++ data)
  | .copy offset length =>
    if offset = 0 ∨ out.size < offset then none else some (copyBack offset length out)

/-- The contents after several elements, which must not become longer than `limit`. -/
def expandAll? (limit : Nat) : Array UInt8 → List Element → Option (Array UInt8)
  | out, [] => some out
  | out, e :: es =>
    match e.expand? out with
    | none => none
    | some out => if out.size > limit then none else expandAll? limit out es

/-! ## Written form -/

/-- A literal's tag: its length less one, in the tag itself or in up to four bytes after it. -/
def literalTag (length : Nat) : Bytes :=
  let n := length - 1
  if n < 60 then [(n * 4).toUInt8]
  else if n < 256 then (60 * 4) :: Bytes.littleEndian 1 n
  else if n < 65536 then (61 * 4) :: Bytes.littleEndian 2 n
  else (63 * 4) :: Bytes.littleEndian 4 n

/-- The written form of an element; near and short copies take two bytes, others three. -/
def bytes : Element → Bytes
  | .literal data => literalTag data.length ++ data
  | .copy offset length =>
    if 4 ≤ length ∧ length ≤ 11 ∧ offset < 2048 then
      [(offset / 256 * 32 + (length - 4) * 4 + 1).toUInt8, offset.toUInt8]
    else ((length - 1) * 4 + 2).toUInt8 :: Bytes.littleEndian 2 offset

/-- A literal of the given length at the start of the text, and what follows. -/
def readLiteral? (length : Nat) (text : Bytes) : Option (Element × Bytes) :=
  let data := text.take length
  if data.length = length then some (.literal data, text.drop length) else none

/-- A copy whose offset is written in `width` bytes at the start of the text, and what follows. -/
def readCopy? (width base length : Nat) (text : Bytes) : Option (Element × Bytes) :=
  let trailer := text.take width
  if trailer.length = width then
    some (.copy (base + Bytes.ofLittleEndian trailer) length, text.drop width)
  else none

/-- The element that a tag starts, and what follows it. The length of a long literal stands in the
one to four bytes after the tag, and the text may end right behind the literal. -/
def readTagged? (tag : UInt8) (text : Bytes) : Option (Element × Bytes) :=
  let high := tag.toNat / 4
  match tag.toNat % 4 with
  | 0 =>
    if high < 60 then readLiteral? (high + 1) text
    else
      let width := high - 59
      let trailer := text.take width
      if trailer.length = width then
        readLiteral? (Bytes.ofLittleEndian trailer + 1) (text.drop width)
      else none
  | 1 => readCopy? 1 (tag.toNat / 32 * 256) (high % 8 + 4) text
  | 2 => readCopy? 2 0 (high + 1) text
  | _ => readCopy? 4 0 (high + 1) text

/-- The elements that a text spells; `fuel` bounds their number. -/
def readAll? : (fuel : Nat) → Bytes → Option (List Element)
  | _, [] => some []
  | 0, _ => none
  | fuel + 1, tag :: text =>
    match readTagged? tag text with
    | none => none
    | some (e, rest) => (readAll? fuel rest).map (e :: ·)

end Element

/-! ## The length in front -/

namespace Length

/-- A number in groups of seven bits, the least significant first; every group but the last has
its top bit set. `width` bounds the number of groups. -/
def bytes : (width : Nat) → (n : Nat) → Bytes
  | 0, _ => []
  | width + 1, n =>
    if n < 128 then [n.toUInt8] else (n % 128 + 128).toUInt8 :: bytes width (n / 128)

/-- The number in front of a text, in at most `width` groups, and the rest of the text. -/
def read? : (width : Nat) → Bytes → Option (Nat × Bytes)
  | 0, _ => none
  | _, [] => none
  | width + 1, b :: rest =>
    if b < 128 then some (b.toNat, rest)
    else (read? width rest).map fun (n, rest) => (b.toNat % 128 + 128 * n, rest)

end Length

end SealedTunnel.Snappy
