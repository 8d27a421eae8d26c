import SealedTunnel.Bytes

/-!
# The AES-256 block cipher

The forward direction of FIPS 197 with a 256-bit key, which is all that counter mode needs. The
state is four columns, each a 32-bit word whose most significant byte is the first row.

## Main definitions

* `Aes.expandKey`: the sixty round-key words of a key
* `Aes.encryptBlock`: one block of 16 bytes
-/

namespace SealedTunnel.Aes

set_option maxRecDepth 4096 in
/-- The substitution box. -/
def sboxTable : Vector UInt8 256 := #v[
  0x63, 0x7c, 0x77, 0x7b, 0xf2, 0x6b, 0x6f, 0xc5, 0x30, 0x01, 0x67, 0x2b, 0xfe, 0xd7, 0xab, 0x76,
  0xca, 0x82, 0xc9, 0x7d, 0xfa, 0x59, 0x47, 0xf0, 0xad, 0xd4, 0xa2, 0xaf, 0x9c, 0xa4, 0x72, 0xc0,
  0xb7, 0xfd, 0x93, 0x26, 0x36, 0x3f, 0xf7, 0xcc, 0x34, 0xa5, 0xe5, 0xf1, 0x71, 0xd8, 0x31, 0x15,
  0x04, 0xc7, 0x23, 0xc3, 0x18, 0x96, 0x05, 0x9a, 0x07, 0x12, 0x80, 0xe2, 0xeb, 0x27, 0xb2, 0x75,
  0x09, 0x83, 0x2c, 0x1a, 0x1b, 0x6e, 0x5a, 0xa0, 0x52, 0x3b, 0xd6, 0xb3, 0x29, 0xe3, 0x2f, 0x84,
  0x53, 0xd1, 0x00, 0xed, 0x20, 0xfc, 0xb1, 0x5b, 0x6a, 0xcb, 0xbe, 0x39, 0x4a, 0x4c, 0x58, 0xcf,
  0xd0, 0xef, 0xaa, 0xfb, 0x43, 0x4d, 0x33, 0x85, 0x45, 0xf9, 0x02, 0x7f, 0x50, 0x3c, 0x9f, 0xa8,
  0x51, 0xa3, 0x40, 0x8f, 0x92, 0x9d, 0x38, 0xf5, 0xbc, 0xb6, 0xda, 0x21, 0x10, 0xff, 0xf3, 0xd2,
  0xcd, 0x0c, 0x13, 0xec, 0x5f, 0x97, 0x44, 0x17, 0xc4, 0xa7, 0x7e, 0x3d, 0x64, 0x5d, 0x19, 0x73,
  0x60, 0x81, 0x4f, 0xdc, 0x22, 0x2a, 0x90, 0x88, 0x46, 0xee, 0xb8, 0x14, 0xde, 0x5e, 0x0b, 0xdb,
  0xe0, 0x32, 0x3a, 0x0a, 0x49, 0x06, 0x24, 0x5c, 0xc2, 0xd3, 0xac, 0x62, 0x91, 0x95, 0xe4, 0x79,
  0xe7, 0xc8, 0x37, 0x6d, 0x8d, 0xd5, 0x4e, 0xa9, 0x6c, 0x56, 0xf4, 0xea, 0x65, 0x7a, 0xae, 0x08,
  0xba, 0x78, 0x25, 0x2e, 0x1c, 0xa6, 0xb4, 0xc6, 0xe8, 0xdd, 0x74, 0x1f, 0x4b, 0xbd, 0x8b, 0x8a,
  0x70, 0x3e, 0xb5, 0x66, 0x48, 0x03, 0xf6, 0x0e, 0x61, 0x35, 0x57, 0xb9, 0x86, 0xc1, 0x1d, 0x9e,
  0xe1, 0xf8, 0x98, 0x11, 0x69, 0xd9, 0x8e, 0x94, 0x9b, 0x1e, 0x87, 0xe9, 0xce, 0x55, 0x28, 0xdf,
  0x8c, 0xa1, 0x89, 0x0d, 0xbf, 0xe6, 0x42, 0x68, 0x41, 0x99, 0x2d, 0x0f, 0xb0, 0x54, 0xbb, 0x16]

/-- A byte substituted. -/
def sbox (b : UInt8) : UInt8 :=
  sboxTable.get b.toFin

/-- The word of four bytes, the first one most significant. -/
def pack (a b c d : UInt8) : UInt32 :=
  (a.toUInt32 <<< 24) ||| (b.toUInt32 <<< 16) ||| (c.toUInt32 <<< 8) ||| d.toUInt32

/-- Every byte of a word substituted. -/
def substitute (w : UInt32) : UInt32 :=
  pack (sbox (w >>> 24).toUInt8) (sbox (w >>> 16).toUInt8) (sbox (w >>> 8).toUInt8) (sbox w.toUInt8)

/-- The word turned left by `n` bits. -/
def rotateLeft (w n : UInt32) : UInt32 :=
  (w <<< n) ||| (w >>> (32 - n))

/-- Every byte of a word doubled in the field of 256 elements. -/
def double (w : UInt32) : UInt32 :=
  ((w <<< (1 : UInt32)) &&& 0xfefefefe) ^^^ (((w >>> (7 : UInt32)) &&& 0x01010101) * 0x1b)

/-- A column multiplied by the circulant matrix of 2, 3, 1, 1. -/
def mixColumn (w : UInt32) : UInt32 :=
  let t := double w
  t ^^^ rotateLeft (t ^^^ w) 8 ^^^ rotateLeft w 16 ^^^ rotateLeft w 24

/-- The four columns of the state, or of a round key. -/
structure Columns where
  c0 : UInt32
  c1 : UInt32
  c2 : UInt32
  c3 : UInt32

/-- A round key added. -/
def Columns.add (s k : Columns) : Columns :=
  ⟨s.c0 ^^^ k.c0, s.c1 ^^^ k.c1, s.c2 ^^^ k.c2, s.c3 ^^^ k.c3⟩

/-- Bytes substituted and rows shifted: row `r` of a column comes from `r` columns to the right. -/
def Columns.substituteShift (s : Columns) : Columns :=
  ⟨column s.c0 s.c1 s.c2 s.c3, column s.c1 s.c2 s.c3 s.c0,
   column s.c2 s.c3 s.c0 s.c1, column s.c3 s.c0 s.c1 s.c2⟩
where
  column (r0 r1 r2 r3 : UInt32) : UInt32 :=
    pack (sbox (r0 >>> 24).toUInt8) (sbox (r1 >>> 16).toUInt8) (sbox (r2 >>> 8).toUInt8)
      (sbox r3.toUInt8)

/-- A full round without the key. -/
def Columns.round (s : Columns) : Columns :=
  let t := s.substituteShift
  ⟨mixColumn t.c0, mixColumn t.c1, mixColumn t.c2, mixColumn t.c3⟩

/-- The columns of a block of 16 bytes; missing bytes count as zero. -/
def Columns.ofBytes (block : Bytes) : Columns :=
  let word (i : Nat) := UInt32.ofNat (Bytes.ofBigEndian ((block.drop (4 * i)).take 4))
  ⟨word 0, word 1, word 2, word 3⟩

/-- The 16 bytes of the state. -/
def Columns.bytes (s : Columns) : Bytes :=
  word s.c0 (word s.c1 (word s.c2 (word s.c3 [])))
where
  word (w : UInt32) (rest : Bytes) : Bytes :=
    (w >>> 24).toUInt8 :: (w >>> 16).toUInt8 :: (w >>> 8).toUInt8 :: w.toUInt8 :: rest

@[simp] theorem Columns.length_bytes (s : Columns) : s.bytes.length = 16 := rfl

/-! ## The key schedule -/

/-- The last `n` doublings of the schedule: from the eight latest words come the eight next. -/
def growKey : (n : Nat) → (constant : UInt32) → (last : List UInt32) → List UInt32
  | 0, _, _ => []
  | n + 1, constant, last =>
    let start := substitute (rotateLeft (last.getLastD 0) 8) ^^^ constant
    let first := chain start (last.take 4)
    let second := chain (substitute (first.getLastD 0)) (last.drop 4)
    first ++ second ++ growKey n (double (constant >>> 24) <<< 24) (first ++ second)
where
  /-- Each word is the one before it plus the one eight places earlier. -/
  chain (carry : UInt32) : List UInt32 → List UInt32
    | [] => []
    | w :: ws => (carry ^^^ w) :: chain (carry ^^^ w) ws

/-- Words grouped by four into round keys. -/
def roundKeys : List UInt32 → List Columns
  | a :: b :: c :: d :: rest => ⟨a, b, c, d⟩ :: roundKeys rest
  | _ => []

/-- The fifteen round keys of a key of 32 bytes. -/
def expandKey (key : Bytes) : List Columns :=
  let start := (Bytes.blocks 4 key).map fun w => UInt32.ofNat (Bytes.ofBigEndian w)
  roundKeys ((start ++ growKey 7 0x01000000 start).take 60)

/-- The rounds with the given keys; the last one mixes no columns. -/
def rounds (s : Columns) : List Columns → Columns
  | [] => s
  | [k] => s.substituteShift.add k
  | k :: ks => rounds (s.round.add k) ks

/-- One block under the round keys. -/
def encryptBlock (keys : List Columns) (s : Columns) : Columns :=
  match keys with
  | [] => s
  | k :: ks => rounds (s.add k) ks

/-- The example vector of the standard for a key of 256 bits (appendix C.3). -/
example : (encryptBlock (expandKey ((List.range 32).map Nat.toUInt8))
      ⟨0x00112233, 0x44556677, 0x8899aabb, 0xccddeeff⟩).bytes =
    [0x8e, 0xa2, 0xb7, 0xca, 0x51, 0x67, 0x45, 0xbf,
     0xea, 0xfc, 0x49, 0x90, 0x4b, 0x49, 0x60, 0x89] := by
  decide +kernel

end SealedTunnel.Aes
