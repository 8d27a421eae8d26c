import Mathlib.Data.List.GetD
import SealedTunnel.Proofs.Crypto.Hash
import SealedTunnel.Proofs.Sealing

/-!
# The two ciphers as their standards state them

The standards of both ciphers say byte by byte what a ciphertext is, and give the tag by a
polynomial. The definitions that run build a keystream as a list and hash bit by bit, or with a
remainder at each step; this module ties them to the statements of the standards, for a nonce of 96
bits and no associated data.

## Main definitions

* `Gcm.Standard`, `ChaChaPoly.Standard`: a ciphertext and a tag as the standards give them

## Main results

* `Cipher.standard`: what sealing writes behind the nonce
-/

namespace SealedTunnel

/-! ## Keystreams byte by byte -/

/-- Blocks of one length in a row: a byte lies in the block, and at the place in it, that its
position says. -/
theorem getD_flatMap_range {f : Nat → Bytes} {w : Nat} (hf : ∀ k, (f k).length = w)
    {count i : Nat} (hi : i < count * w) :
    ((List.range count).flatMap f).getD i 0 = (f (i / w)).getD (i % w) 0 := by
  induction count with
  | zero => omega
  | succ count ih =>
    have hlen : ((List.range count).flatMap f).length = count * w := by
      rw [length_flatMap_const hf, List.length_range]
    rw [List.range_succ, List.flatMap_append, List.flatMap_singleton]
    by_cases hin : i < count * w
    · rw [List.getD_append _ _ _ _ (hlen ▸ hin), ih hin]
    · have hge : count * w ≤ i := Nat.not_lt.1 hin
      have hdiv : i / w = count := Nat.div_eq_of_lt_le hge hi
      have hmod : i % w = i - count * w := by
        rw [← hdiv, Nat.mod_eq_sub_div_mul]
      rw [List.getD_append_right _ _ _ _ (hlen ▸ hge), hlen, hdiv, hmod]

theorem getD_take {l : Bytes} {n i : Nat} (hi : i < n) : (l.take n).getD i 0 = l.getD i 0 := by
  rw [List.getD_eq_getElem?_getD, List.getD_eq_getElem?_getD, List.getElem?_take_of_lt hi]

/-- A byte of a text combined with a keystream of its length. -/
theorem getD_xor {a b : Bytes} (h : a.length = b.length) (i : Nat) :
    (Bytes.xor a b).getD i 0 = a.getD i 0 ^^^ b.getD i 0 := by
  simp only [Bytes.xor, List.getD_eq_getElem?_getD, List.getElem?_zipWith]
  by_cases hi : i < a.length
  · rw [List.getElem?_eq_getElem hi, List.getElem?_eq_getElem (h ▸ hi)]
    rfl
  · rw [List.getElem?_eq_none (Nat.not_lt.1 hi), List.getElem?_eq_none (h ▸ Nat.not_lt.1 hi)]
    rfl

namespace Gcm

variable {key nonce plain : Bytes}

/-- The block cipher on a block of 16 bytes. -/
def encrypted (key block : Bytes) : Bytes :=
  (Aes.encryptBlock (Aes.expandKey key) (Aes.Columns.ofBytes block)).bytes

/-- A counter block is the nonce and a number of four bytes. -/
theorem counterBlock_eq (hn : nonce.length = 12) (n : Nat) :
    counterBlock nonce (UInt32.ofNat n) = Aes.Columns.ofBytes (nonce ++ Bytes.bigEndian 4 n) := by
  have hfront (i : Nat) (hi : 4 * i + 4 ≤ 12) :
      ((nonce ++ Bytes.bigEndian 4 n).drop (4 * i)).take 4 = (nonce.drop (4 * i)).take 4 := by
    rw [List.drop_append_of_le_length (by omega), List.take_append_of_le_length]
    rw [List.length_drop]
    omega
  have hback : ((nonce ++ Bytes.bigEndian 4 n).drop (4 * 3)).take 4 = Bytes.bigEndian 4 n := by
    rw [List.drop_left' hn, List.take_of_length_le (Nat.le_of_eq (Bytes.length_bigEndian 4 n))]
  have hnumber : UInt32.ofNat (Bytes.ofBigEndian (Bytes.bigEndian 4 n)) = UInt32.ofNat n := by
    rw [← UInt32.toNat_inj, UInt32.toNat_ofNat', UInt32.toNat_ofNat',
      Bytes.ofBigEndian_bigEndian_mod]
    exact Nat.mod_mod _ _
  simp only [counterBlock, Aes.Columns.ofBytes, hfront 0 (by decide), hfront 1 (by decide),
    hfront 2 (by decide), hback, hnumber]

/-- **Galois/counter mode as the standard states it.** A byte of the ciphertext is that of the
plaintext combined with one of an encrypted counter block; the counters start behind that of the
tag. The tag is the hash under the encrypted zero block, combined with the first of these blocks. -/
structure Standard (key nonce plain text tag : Bytes) : Prop where
  length_eq : text.length = plain.length
  text_byte : ∀ i < plain.length, text.getD i 0 = plain.getD i 0 ^^^
    (encrypted key (nonce ++ Bytes.bigEndian 4 (i / 16 + 2))).getD (i % 16) 0
  tag_eq : ∃ hashed h : Element, h = .ofBytes (encrypted key (Bytes.zeros 16)) ∧
    hashed.poly =
      (∑ i : Fin (terms text).length, (terms text)[i].poly * h.poly ^ ((terms text).length - i)) %ₘ
        modulus ∧
    tag = Bytes.xor hashed.bytes (encrypted key (nonce ++ Bytes.bigEndian 4 1))

theorem getD_keystream (hn : nonce.length = 12) {length i : Nat} (hi : i < length) :
    (keystream key nonce length).getD i 0 =
      (encrypted key (nonce ++ Bytes.bigEndian 4 (i / 16 + 2))).getD (i % 16) 0 := by
  unfold keystream
  dsimp only
  rw [getD_take hi, getD_flatMap_range (fun _ => Aes.Columns.length_bytes _) (by omega),
    counterBlock_eq hn, encrypted]

theorem standard (hn : nonce.length = 12) :
    Standard key nonce plain (Bytes.xor plain (keystream key nonce plain.length))
      (tag key nonce (Bytes.xor plain (keystream key nonce plain.length))) where
  length_eq := by rw [Bytes.length_xor, length_keystream, Nat.min_self]
  text_byte := by
    intro i hi
    rw [getD_xor (length_keystream ..).symm, getD_keystream hn hi]
  tag_eq := by
    generalize Bytes.xor plain (keystream key nonce plain.length) = text
    refine ⟨hash _ text, _, rfl, poly_hash _ text, ?_⟩
    have hfirst := counterBlock_eq hn 1
    rw [encrypted, encrypted, ← hfirst]
    rfl

end Gcm

namespace ChaChaPoly

variable {key nonce plain : Bytes}

/-- **ChaCha20-Poly1305 as the standard states it.** A byte of the ciphertext is that of the
plaintext combined with one of a block of the stream, from block 1 on. The tag is the code of the
ciphertext, padded and followed by the lengths, under the first half of block 0. -/
structure Standard (key nonce plain text tag : Bytes) : Prop where
  length_eq : text.length = plain.length
  text_byte : ∀ i < plain.length, text.getD i 0 = plain.getD i 0 ^^^
    (block (initial key nonce (UInt32.ofNat (i / 64 + 1)))).getD (i % 64) 0
  tag_eq : ∃ r s : Nat,
    r = Bytes.ofLittleEndian ((block (initial key nonce 0)).take 16) &&& clampMask ∧
    s = Bytes.ofLittleEndian (((block (initial key nonce 0)).drop 16).take 16) ∧
    tag = Bytes.littleEndian 16
      ((∑ i : Fin (numbers (codedMessage text)).length,
        (numbers (codedMessage text))[i] * r ^ ((numbers (codedMessage text)).length - i)) % prime +
          s)

theorem getD_keystream {length i : Nat} (hi : i < length) :
    (keystream key nonce length).getD i 0 =
      (block (initial key nonce (UInt32.ofNat (i / 64 + 1)))).getD (i % 64) 0 := by
  unfold keystream
  dsimp only
  rw [getD_take hi, getD_flatMap_range (fun _ => length_block _) (by omega)]
  rfl

theorem standard :
    Standard key nonce plain (Bytes.xor plain (keystream key nonce plain.length))
      (tag key nonce (Bytes.xor plain (keystream key nonce plain.length))) where
  length_eq := by rw [Bytes.length_xor, length_keystream, Nat.min_self]
  text_byte := by
    intro i hi
    rw [getD_xor (length_keystream ..).symm, getD_keystream hi]
  tag_eq := by
    refine ⟨_, _, rfl, rfl, ?_⟩
    rw [tag, poly1305_eq, List.take_take, List.drop_take]
    rfl

end ChaChaPoly

namespace Cipher

/-- A ciphertext and a tag as the standard of the algorithm gives them. -/
def Standard (c : Cipher) (nonce plain text tag : Bytes) : Prop :=
  match c.algorithm with
  | .aes256Gcm => Gcm.Standard c.key nonce plain text tag
  | .chaCha20Poly1305 => ChaChaPoly.Standard c.key nonce plain text tag

/-- **Sealing is standard**: what stands behind the nonce is the ciphertext and the tag of the
standard. -/
theorem standard (c : Cipher) {nonce : Bytes} (plain : Bytes) (hn : nonce.length = nonceLength) :
    c.Standard nonce plain (c.crypt nonce plain) (c.tag nonce (c.crypt nonce plain)) := by
  unfold Standard crypt tag keystream
  cases c.algorithm with
  | aes256Gcm => exact Gcm.standard hn
  | chaCha20Poly1305 => exact ChaChaPoly.standard

end Cipher

end SealedTunnel
