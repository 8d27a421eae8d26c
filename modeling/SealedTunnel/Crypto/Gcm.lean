import SealedTunnel.Crypto.Aes

/-!
# AES-256 in Galois/counter mode

The authenticated cipher with a 96-bit nonce, a 128-bit tag and no associated data: counter mode
from the second counter block on, and a tag that is a polynomial hash of the ciphertext, masked with
the first counter block.

## Main definitions

* `Gcm.keystream`: the bytes that a plaintext is combined with
* `Gcm.tag`: the tag of a ciphertext
-/

namespace SealedTunnel.Gcm

/-! ## The hash -/

/-- An element of the field of 2^128 elements; the most significant bit is the coefficient of 1. -/
structure Element where
  high : UInt64
  low : UInt64

/-- The sum of two elements. -/
def Element.add (x y : Element) : Element :=
  ⟨x.high ^^^ y.high, x.low ^^^ y.low⟩

/-- The element times the variable: a shift to the right, reduced. -/
def Element.shift (v : Element) : Element :=
  let low := (v.low >>> 1) ||| (v.high <<< 63)
  let high := v.high >>> 1
  if v.low &&& 1 = 1 then ⟨high ^^^ 0xe100000000000000, low⟩ else ⟨high, low⟩

/-- Adds to `sum` the multiples of `v` that the leading `n` bits of `x` select; gives the sum and
`v` shifted on. -/
def accumulate : (n : Nat) → (x : UInt64) → (v sum : Element) → Element × Element
  | 0, _, v, sum => (v, sum)
  | n + 1, x, v, sum =>
    accumulate n (x <<< 1) v.shift (if x >>> 63 = 1 then sum.add v else sum)

/-- The product of two elements. -/
def Element.mul (x y : Element) : Element :=
  -- Bit by bit from the coefficient of 1 on; `v` is `y` times the power reached.
  let (v, sum) := accumulate 64 x.high y ⟨0, 0⟩
  (accumulate 64 x.low v sum).2

/-- The element whose bits are those of a block; missing bytes count as zero. -/
def Element.ofBytes (block : Bytes) : Element :=
  let padded := block ++ Bytes.zeros (16 - block.length)
  ⟨UInt64.ofNat (Bytes.ofBigEndian (padded.take 8)),
   UInt64.ofNat (Bytes.ofBigEndian (padded.drop 8))⟩

/-- The 16 bytes of an element. -/
def Element.bytes (x : Element) : Bytes :=
  Bytes.bigEndian 8 x.high.toNat ++ Bytes.bigEndian 8 x.low.toNat

@[simp] theorem Element.length_bytes (x : Element) : x.bytes.length = 16 := by
  simp [Element.bytes]

/-- The polynomial hash of a ciphertext under the key `h`; the last term is the length in bits. -/
def hash (h : Element) (text : Bytes) : Element :=
  let term (y : Element) (block : Bytes) := (y.add (.ofBytes block)).mul h
  (((Bytes.blocks 16 text).foldl term ⟨0, 0⟩).add ⟨0, UInt64.ofNat (text.length * 8)⟩).mul h

/-! ## The cipher -/

/-- The counter block with the given number. -/
def counterBlock (nonce : Bytes) (counter : UInt32) : Aes.Columns :=
  { Aes.Columns.ofBytes nonce with c3 := counter }

/-- The first `length` bytes of the stream that encrypts under a key and a nonce. -/
def keystream (key nonce : Bytes) (length : Nat) : Bytes :=
  let keys := Aes.expandKey key
  let block (i : Nat) := (Aes.encryptBlock keys (counterBlock nonce (UInt32.ofNat (i + 2)))).bytes
  ((List.range ((length + 15) / 16)).flatMap block).take length

/-- The tag of a ciphertext. -/
def tag (key nonce text : Bytes) : Bytes :=
  let keys := Aes.expandKey key
  let h := Element.ofBytes (Aes.encryptBlock keys ⟨0, 0, 0, 0⟩).bytes
  Bytes.xor (hash h text).bytes (Aes.encryptBlock keys (counterBlock nonce 1)).bytes

@[simp] theorem length_tag (key nonce text : Bytes) : (tag key nonce text).length = 16 := by
  simp [tag, Bytes.xor]

end SealedTunnel.Gcm
