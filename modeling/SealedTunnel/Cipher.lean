import SealedTunnel.Crypto.Base64
import SealedTunnel.Crypto.ChaChaPoly
import SealedTunnel.Crypto.Gcm
import SealedTunnel.Crypto.Hkdf
import SealedTunnel.Random

/-!
# Sealing and opening

A cipher seals a plaintext under a nonce as `nonce ‖ ciphertext ‖ tag`. Both algorithms are the
exclusive or with a keystream, and a tag that is a function of key, nonce and ciphertext, so that
opening recomputes the tag and undoes the exclusive or.

## Main definitions

* `Cipher`: an algorithm and a key
* `Cipher.sealUnder`, `Cipher.sealOver`, `Cipher.sealInto`: sealing under a given nonce, and under a
  drawn one into a buffer
* `Cipher.openInPlace`, `Cipher.open?`: opening
* `Cipher.ofPsk`, `Psk.generate`: keys from pre-shared keys, and new pre-shared keys
-/

namespace SealedTunnel

/-- The two authenticated ciphers. -/
inductive Algorithm where
  | aes256Gcm
  | chaCha20Poly1305
  deriving DecidableEq, Repr, Inhabited

/-- The name in configurations. -/
def Algorithm.name : Algorithm → String
  | .aes256Gcm => "aes-256-gcm"
  | .chaCha20Poly1305 => "chacha20-poly1305"

/-- The name in descriptions of connections. -/
def Algorithm.label : Algorithm → String
  | .aes256Gcm => "Aes256Gcm"
  | .chaCha20Poly1305 => "ChaCha20Poly1305"

/-- The algorithm of a configuration name. -/
def Algorithm.ofName? : String → Option Algorithm
  | "aes-256-gcm" => some .aes256Gcm
  | "chacha20-poly1305" => some .chaCha20Poly1305
  | _ => none

/-- An algorithm with a key of 32 bytes. -/
structure Cipher where
  algorithm : Algorithm
  key : Bytes
  key_length : key.length = 32

namespace Cipher

/-- The number of bytes of a key. -/
def keyLength : Nat := 32

/-- The number of bytes of a nonce. -/
def nonceLength : Nat := 12

/-- The number of bytes of a tag. -/
def tagLength : Nat := 16

/-- By how many bytes sealing lengthens a text. -/
def overhead : Nat := nonceLength + tagLength

/-- The length of the sealed form of a text. -/
def sealedLength (length : Nat) : Nat := nonceLength + length + tagLength

/-- A cipher with the given key, which must have 32 bytes. -/
def ofKey (algorithm : Algorithm) (key : Bytes) : Except CryptoError Cipher :=
  if h : key.length = 32 then .ok ⟨algorithm, key, h⟩ else .error .keyLength

/-- The bytes that a text is combined with. -/
def keystream (c : Cipher) (nonce : Bytes) (length : Nat) : Bytes :=
  match c.algorithm with
  | .aes256Gcm => Gcm.keystream c.key nonce length
  | .chaCha20Poly1305 => ChaChaPoly.keystream c.key nonce length

/-- The tag of a ciphertext. -/
def tag (c : Cipher) (nonce text : Bytes) : Bytes :=
  match c.algorithm with
  | .aes256Gcm => Gcm.tag c.key nonce text
  | .chaCha20Poly1305 => ChaChaPoly.tag c.key nonce text

/-- The text combined with the keystream; the same operation encrypts and decrypts. -/
def crypt (c : Cipher) (nonce text : Bytes) : Bytes :=
  Bytes.xor text (c.keystream nonce text.length)

/-- The sealed form of a text under a nonce. -/
def sealUnder (c : Cipher) (nonce plain : Bytes) : Bytes :=
  let text := c.crypt nonce plain
  nonce ++ text ++ c.tag nonce text

/-- Seals a text over a buffer of exactly the sealed length, under a drawn nonce. The nonce, the
text and the tag are written one after the other, the text being encrypted where it stands. Gives
the buffer and the supply as they are afterwards, also where sealing fails. -/
def sealOver (c : Cipher) (plain out : Bytes) (e : Entropy) :
    Except CryptoError Unit × Bytes × Entropy :=
  if out.length ≠ sealedLength plain.length then
    (.error (.encryption
      s!"output buffer is {out.length} bytes, need {sealedLength plain.length}"), out, e)
  else
    match Draw.bytes nonceLength e with
    | .error err => (.error err, out, e)
    | .ok (nonce, e) =>
      let out := out.overwrite 0 nonce
      let out := Bytes.overwrite out nonceLength plain
      let text := c.crypt nonce plain
      let out := Bytes.overwrite out nonceLength text
      (.ok (), Bytes.overwrite out (nonceLength + plain.length) (c.tag nonce text), e)

/-- A text sealed under a drawn nonce into a buffer of exactly the sealed length. -/
def sealInto (c : Cipher) (plain out : Bytes) : Draw CryptoError Bytes := fun e =>
  match c.sealOver plain out e with
  | (.ok _, out, e) => .ok (out, e)
  | (.error err, _, _) => .error err

/-- A text sealed under a drawn nonce. -/
def encrypt (c : Cipher) (plain : Bytes) : Draw CryptoError Bytes :=
  c.sealInto plain (Bytes.zeros (sealedLength plain.length))

/-- Opens a sealed text where it stands: gives the text, and the buffer in which it has replaced
its encrypted form. Nothing is given unless the tag is right. -/
def openInPlace (c : Cipher) (buffer : Bytes) : Except CryptoError (Bytes × Bytes) :=
  if buffer.length < overhead then .error .notAuthentic
  else
    let nonce := buffer.take nonceLength
    let text := (buffer.drop nonceLength).take (buffer.length - overhead)
    let tag := buffer.drop (buffer.length - tagLength)
    if c.tag nonce text = tag then
      let plain := c.crypt nonce text
      .ok (plain, nonce ++ plain ++ tag)
    else .error .notAuthentic

/-- The text that a sealed one holds. -/
def open? (c : Cipher) (sealedText : Bytes) : Except CryptoError Bytes :=
  (c.openInPlace sealedText).map Prod.fst

end Cipher

/-! ## Pre-shared keys -/

namespace Psk

/-- The salt under which a pre-shared key is stretched. -/
def salt : Bytes := Bytes.ofString "veil_tunnel/psk/v1"

/-- The context for which the frame key is derived. -/
def frameKeyInfo : Bytes := Bytes.ofString "veil_tunnel_frame_key"

/-- Key material of any length, as far as one derivation goes. -/
def expand (salt input info : Bytes) (length : Nat) : Except CryptoError Bytes :=
  match Hkdf.derive? salt input info length with
  | some okm => .ok okm
  | none => .error (.keyDerivation "HKDF expand failed")

/-- The frame key of a pre-shared key, which must not be empty. -/
def deriveKey (psk : String) : Except CryptoError Bytes :=
  if psk.isEmpty then .error (.keyDerivation "empty pre-shared key")
  else expand salt (Bytes.ofString psk) frameKeyInfo Cipher.keyLength

/-- A new pre-shared key: 32 random bytes in base 64. -/
def generate : Draw CryptoError String := do
  let key ← Draw.bytes Cipher.keyLength
  return String.ofList (Base64.encode key)

end Psk

/-- The cipher that a pre-shared key gives. -/
def Cipher.ofPsk (algorithm : Algorithm) (psk : String) : Except CryptoError Cipher :=
  Psk.deriveKey psk >>= Cipher.ofKey algorithm

end SealedTunnel
