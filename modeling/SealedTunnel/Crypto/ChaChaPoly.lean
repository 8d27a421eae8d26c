import SealedTunnel.Bytes

/-!
# ChaCha20-Poly1305

The authenticated cipher of RFC 8439 with a 96-bit nonce and no associated data: the ChaCha20
stream from block 1 on, and the Poly1305 code of the padded ciphertext and the lengths, under a
one-time key that is the first half of block 0.

## Main definitions

* `ChaChaPoly.keystream`: the bytes that a plaintext is combined with
* `ChaChaPoly.tag`: the tag of a ciphertext
-/

namespace SealedTunnel.ChaChaPoly

/-! ## The stream -/

/-- The sixteen words of the state, in four rows of four. -/
abbrev State := Vector UInt32 16

/-- The word turned left by `n` bits. -/
def rotateLeft (x n : UInt32) : UInt32 :=
  (x <<< n) ||| (x >>> (32 - n))

/-- The quarter round on the words at four places. -/
def quarter (a b c d : Fin 16) (s : State) : State :=
  let xa := s.get a + s.get b
  let xd := rotateLeft (s.get d ^^^ xa) 16
  let xc := s.get c + xd
  let xb := rotateLeft (s.get b ^^^ xc) 12
  let xa := xa + xb
  let xd := rotateLeft (xd ^^^ xa) 8
  let xc := xc + xd
  let xb := rotateLeft (xb ^^^ xc) 7
  (((s.set a xa).set b xb).set c xc).set d xd

/-- A round on the columns, then one on the diagonals. -/
def doubleRound (s : State) : State :=
  let s := quarter 3 7 11 15 (quarter 2 6 10 14 (quarter 1 5 9 13 (quarter 0 4 8 12 s)))
  quarter 3 4 9 14 (quarter 2 7 8 13 (quarter 1 6 11 12 (quarter 0 5 10 15 s)))

/-- The word at the `i`-th place of a byte string, the first byte least significant. -/
def wordAt (bs : Bytes) (i : Nat) : UInt32 :=
  UInt32.ofNat (Bytes.ofLittleEndian ((bs.drop (4 * i)).take 4))

/-- The state before the rounds: constants, key, block counter and nonce. -/
def initial (key nonce : Bytes) (counter : UInt32) : State :=
  #v[0x61707865, 0x3320646e, 0x79622d32, 0x6b206574,
     wordAt key 0, wordAt key 1, wordAt key 2, wordAt key 3,
     wordAt key 4, wordAt key 5, wordAt key 6, wordAt key 7,
     counter, wordAt nonce 0, wordAt nonce 1, wordAt nonce 2]

/-- The 64 bytes of one block of the stream. -/
def block (start : State) : Bytes :=
  let mixed := Nat.repeat doubleRound 10 start
  (mixed.zipWith (· + ·) start).toList.flatMap fun (w : UInt32) =>
    [w.toUInt8, (w >>> 8).toUInt8, (w >>> 16).toUInt8, (w >>> 24).toUInt8]

/-- The example vector of the standard for the block function (section 2.3.2). -/
example : block (initial ((List.range 32).map Nat.toUInt8)
      [0, 0, 0, 0x09, 0, 0, 0, 0x4a, 0, 0, 0, 0] 1) =
    [0x10, 0xf1, 0xe7, 0xe4, 0xd1, 0x3b, 0x59, 0x15, 0x50, 0x0f, 0xdd, 0x1f, 0xa3, 0x20, 0x71, 0xc4,
     0xc7, 0xd1, 0xf4, 0xc7, 0x33, 0xc0, 0x68, 0x03, 0x04, 0x22, 0xaa, 0x9a, 0xc3, 0xd4, 0x6c, 0x4e,
     0xd2, 0x82, 0x64, 0x46, 0x07, 0x9f, 0xaa, 0x09, 0x14, 0xc2, 0xd7, 0x05, 0xd9, 0x8b, 0x02, 0xa2,
     0xb5, 0x12, 0x9c, 0xd1, 0xde, 0x16, 0x4e, 0xb9, 0xcb, 0xd0, 0x83, 0xe8, 0xa2, 0x50, 0x3c, 0x4e]
    := by
  decide +kernel

/-- The first `length` bytes of the stream that encrypts under a key and a nonce. -/
def keystream (key nonce : Bytes) (length : Nat) : Bytes :=
  let start := initial key nonce 0
  let nth (i : Nat) := block (start.set 12 (UInt32.ofNat (i + 1)))
  ((List.range ((length + 63) / 64)).flatMap nth).take length

/-! ## The code -/

/-- The prime that the code computes modulo. -/
def prime : Nat := 1 <<< 130 - 5

/-- The bits of the multiplier that may be set. -/
def clampMask : Nat := 0x0ffffffc0ffffffc0ffffffc0fffffff

/-- The Poly1305 code of a message under a one-time key of 32 bytes. -/
def poly1305 (key message : Bytes) : Bytes :=
  let r := Bytes.ofLittleEndian (key.take 16) &&& clampMask
  let s := Bytes.ofLittleEndian (key.drop 16)
  let term (acc : Nat) (b : Bytes) := (acc + Bytes.ofLittleEndian (b ++ [1])) * r % prime
  Bytes.littleEndian 16 ((Bytes.blocks 16 message).foldl term 0 + s)

/-- The message the code is taken of: the ciphertext, zeros up to a multiple of 16 bytes, and the
lengths of the (absent) associated data and of the ciphertext. -/
def codedMessage (text : Bytes) : Bytes :=
  text ++ Bytes.zeros ((16 - text.length % 16) % 16) ++
    Bytes.littleEndian 8 0 ++ Bytes.littleEndian 8 text.length

/-- The tag of a ciphertext. -/
def tag (key nonce text : Bytes) : Bytes :=
  poly1305 ((block (initial key nonce 0)).take 32) (codedMessage text)

@[simp] theorem length_tag (key nonce text : Bytes) : (tag key nonce text).length = 16 := by
  simp [tag, poly1305]

end SealedTunnel.ChaChaPoly
