/-!
# Byte strings

A byte string is a list of bytes: everything that is stored, framed, sealed or sent is one. This
module holds the few operations that the rest of the library shares: big-endian numbers, UTF-8,
writing over a part of a buffer, cutting into blocks and combining bit by bit.

## Main definitions

* `Bytes`: the type
* `Bytes.bigEndian`, `Bytes.ofBigEndian`: a number in a fixed number of bytes, and back
* `Bytes.overwrite`: a buffer with some of its bytes replaced
* `Bytes.blocks`: a byte string cut into blocks of equal size
* `Placed`: a byte string that was built in a scratch buffer, or apart from it
-/

namespace SealedTunnel

/-- A byte string. -/
abbrev Bytes := List UInt8

namespace Bytes

/-- The UTF-8 form of a text. -/
def ofString (s : String) : Bytes :=
  s.toUTF8.toList

/-- The text that a byte string spells in UTF-8, if it is valid. -/
def toString? (bs : Bytes) : Option String :=
  String.fromUTF8? bs.toByteArray

/-- The last `width` base-256 digits of `n`, the most significant first. -/
def bigEndian : (width : Nat) → (n : Nat) → Bytes
  | 0, _ => []
  | width + 1, n => bigEndian width (n / 256) ++ [n.toUInt8]

/-- The number whose base-256 digits these are, the most significant first. -/
def ofBigEndian (bs : Bytes) : Nat :=
  bs.foldl (fun n b => n * 256 + b.toNat) 0

/-- The last `width` base-256 digits of `n`, the least significant first. -/
def littleEndian : (width : Nat) → (n : Nat) → Bytes
  | 0, _ => []
  | width + 1, n => n.toUInt8 :: littleEndian width (n / 256)

/-- The number whose base-256 digits these are, the least significant first. -/
def ofLittleEndian (bs : Bytes) : Nat :=
  bs.foldr (fun b n => n * 256 + b.toNat) 0

/-- `n` zero bytes. -/
def zeros (n : Nat) : Bytes :=
  List.replicate n 0

/-- The buffer `buf` after `data` was written into it from position `start` on. -/
def overwrite (buf : Bytes) (start : Nat) (data : Bytes) : Bytes :=
  buf.take start ++ data ++ buf.drop (start + data.length)

/-- Bit-by-bit exclusive or; the longer one is cut. -/
def xor (a b : Bytes) : Bytes :=
  List.zipWith (· ^^^ ·) a b

/-- The byte string cut into blocks of `size` bytes; the last one may be shorter. -/
def blocks (size : Nat) (bs : Bytes) : List Bytes :=
  go (bs.length / size + 1) bs []
where
  /-- Cuts off at most `fuel` blocks; `done` holds the blocks so far, the last one first. -/
  go : (fuel : Nat) → Bytes → List Bytes → List Bytes
    | 0, _, done => done.reverse
    | fuel + 1, bs, done =>
      if bs.isEmpty then done.reverse
      else go fuel (bs.drop size) (bs.take size :: done)

/-! ## Small laws -/

@[simp] theorem length_bigEndian (width n : Nat) : (bigEndian width n).length = width := by
  induction width generalizing n with
  | zero => rfl
  | succ w ih => simp [bigEndian, ih]

@[simp] theorem length_littleEndian (width n : Nat) : (littleEndian width n).length = width := by
  induction width generalizing n with
  | zero => rfl
  | succ w ih => simp [littleEndian, ih]

@[simp] theorem length_zeros (n : Nat) : (zeros n).length = n := List.length_replicate

theorem ofBigEndian_append_singleton (bs : Bytes) (b : UInt8) :
    ofBigEndian (bs ++ [b]) = ofBigEndian bs * 256 + b.toNat := by
  simp [ofBigEndian]

/-- Writing inside a buffer keeps its length. -/
theorem length_overwrite (buf : Bytes) (start : Nat) (data : Bytes)
    (h : start + data.length ≤ buf.length) : (overwrite buf start data).length = buf.length := by
  simp only [overwrite, List.length_append, List.length_take, List.length_drop]
  omega

end Bytes

/-- A byte string that was built at the start of a scratch buffer, or apart from it because the
buffer was too small. -/
structure Placed where
  bytes : Bytes
  inScratch : Bool
  deriving DecidableEq, Repr, Inhabited

/-- Room for `length` bytes: the start of the scratch buffer, with what it holds, or zeros. -/
def Placed.room (scratch : Bytes) (length : Nat) : Placed :=
  let region := scratch.take length
  if region.length = length then ⟨region, true⟩ else ⟨Bytes.zeros length, false⟩

@[simp] theorem Placed.length_room (scratch : Bytes) (length : Nat) :
    (Placed.room scratch length).bytes.length = length := by
  by_cases h : (scratch.take length).length = length
  · simp only [Placed.room, h, ↓reduceIte]
  · simp only [Placed.room, h, ↓reduceIte, Bytes.length_zeros]

end SealedTunnel
