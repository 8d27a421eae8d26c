import SealedTunnel.Crypto.Sha256

/-!
# HMAC and HKDF over SHA-256

The keyed hash of RFC 2104 and the key derivation of RFC 5869: `extract` concentrates the entropy
of the input in one pseudorandom key, `expand` stretches it to the length asked for.

## Main definitions

* `Hmac.sign`: the message authentication code
* `Hkdf.extract`, `Hkdf.expand?`, `Hkdf.derive?`
-/

namespace SealedTunnel

namespace Hmac

/-- The key at block length: one that is too long is hashed first, then zeros follow. -/
def blockKey (key : Bytes) : Bytes :=
  let short := if key.length > Sha256.blockLength then Sha256.digest key else key
  short ++ Bytes.zeros (Sha256.blockLength - short.length)

/-- The authentication code of a message under a key. -/
def sign (key message : Bytes) : Bytes :=
  let k := blockKey key
  Sha256.digest (k.map (· ^^^ 0x5c) ++ Sha256.digest (k.map (· ^^^ 0x36) ++ message))

@[simp] theorem length_sign (key message : Bytes) :
    (sign key message).length = Sha256.digestLength := Sha256.length_digest _

end Hmac

namespace Hkdf

/-- The pseudorandom key: the input signed with the salt. -/
def extract (salt input : Bytes) : Bytes :=
  Hmac.sign salt input

/-- The most bytes that one expansion gives: 255 digests. -/
def maxLength : Nat := 255 * Sha256.digestLength

/-- The concatenation of `n` chained codes: each signs the one before it, the context and its
own number. -/
def chain (key info : Bytes) : (n : Nat) → (last : Bytes) → (counter : UInt8) → Bytes
  | 0, _, _ => []
  | n + 1, last, counter =>
    let block := Hmac.sign key (last ++ info ++ [counter])
    block ++ chain key info n block (counter + 1)

/-- `length` bytes of key material for the context `info`, if that many can be derived. -/
def expand? (key info : Bytes) (length : Nat) : Option Bytes :=
  if length ≤ maxLength then
    let count := (length + Sha256.digestLength - 1) / Sha256.digestLength
    some ((chain key info count [] 1).take length)
  else none

/-- Extraction, then expansion. -/
def derive? (salt input info : Bytes) (length : Nat) : Option Bytes :=
  expand? (extract salt input) info length

theorem length_chain (key info : Bytes) (n : Nat) (last : Bytes) (counter : UInt8) :
    (chain key info n last counter).length = n * Sha256.digestLength := by
  induction n generalizing last counter with
  | zero => simp [chain]
  | succ n ih => simp [chain, ih, Nat.succ_mul, Nat.add_comm]

/-- An expansion has the length asked for. -/
theorem length_of_expand? {key info okm : Bytes} {n : Nat} (h : expand? key info n = some okm) :
    okm.length = n := by
  unfold expand? at h
  split at h
  · obtain rfl := Option.some.inj h
    simp only [List.length_take, length_chain, Sha256.digestLength]
    omega
  · contradiction

end Hkdf

end SealedTunnel
