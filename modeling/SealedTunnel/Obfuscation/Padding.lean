import SealedTunnel.Obfuscation

/-!
# Padding

A padded text is its length in two bytes, the text, and padding of a random length in the range of
the settings. The padding is random bytes; when it is long enough, one of a few fragments of web
traffic may be laid over it at a random place, so that the tail does not look uniform.

## Main definitions

* `Padding.decoys`: the fragments
* `Padding.drawLength`: a random length of padding
* `Padding.encodeInto`, `Padding.encode`: a text padded, in a scratch buffer or not
* `Padding.decode`: the text that a padded one holds
-/

namespace SealedTunnel.Padding

/-- The number of bytes in which the length of the text is written. -/
def headerLength : Nat := 2

/-- The longest text that can be padded. -/
def maxPayload : Nat := 65535

/-- Padding up to this length holds no decoy. -/
def decoyThreshold : Nat := 12

/-- The texts that padding may hold. -/
def decoyTexts : List String :=
  ["User-Agent: ", "GET / HTTP/1.1", "POST / HTTP/1.1", "Host: ", "Accept: */*",
   "Content-Type: application/octet-stream", "Connection: keep-alive", "Cache-Control: no-cache"]

/-- The byte strings that padding may hold. -/
def decoys : List Bytes := decoyTexts.map Bytes.ofString

/-- A random length between the bounds of the settings, both included; the lower one where the
range is empty. -/
def drawLength (o : Obfuscation) : Draw CryptoError UInt64 := do
  let span := if o.maxPadding > o.minPadding then o.maxPadding - o.minPadding else 0
  if span = 0 then return o.minPadding
  return o.minPadding + (← Draw.below (span + 1))

/-- Random padding of the given length. -/
def drawPadding (length : Nat) : Draw CryptoError Bytes := do
  let noise ← Draw.bytes length
  if length ≤ decoyThreshold then return noise
  let choice ← Draw.below decoys.length.toUInt64
  let decoy := decoys.getD choice.toNat []
  if length ≤ decoy.length then return noise
  let offset ← Draw.below (length - decoy.length + 1).toUInt64
  return noise.overwrite offset.toNat decoy

/-- Writes the length, the text and random padding into a buffer of exactly the length of all
three. -/
def fill (data : Bytes) (pad : Nat) (out : Bytes) : Draw CryptoError Bytes := do
  let out := out.overwrite 0 (Bytes.bigEndian headerLength data.length)
  let out := Bytes.overwrite out headerLength data
  if pad = 0 then return out
  let padding ← drawPadding pad
  return Bytes.overwrite out (headerLength + data.length) padding

/-- A text padded in a scratch buffer if that is large enough, else apart from it. -/
def encodeInto (data : Bytes) (o : Obfuscation) (scratch : Bytes) : Draw TunnelError Placed := do
  if data.length > maxPayload then
    throw (.framing (.tooLongToPad data.length maxPayload))
  let pad ← (drawLength o).forTunnel
  let room := Placed.room scratch (headerLength + data.length + pad.toNat)
  return { room with bytes := ← (fill data pad.toNat room.bytes).forTunnel }

/-- A text padded. -/
def encode (data : Bytes) (o : Obfuscation) : Draw TunnelError Bytes :=
  Placed.bytes <$> encodeInto data o []

/-- The text that a padded one holds. -/
def decode (buf : Bytes) : Except TunnelError Bytes :=
  if buf.length < headerLength then .error (.framing (.paddedTooShort buf.length))
  else
    let declared := Bytes.ofBigEndian (buf.take headerLength)
    if headerLength + declared > buf.length then
      .error (.framing (.paddedOverrun declared (buf.length - headerLength)))
    else .ok ((buf.drop headerLength).take declared)

end SealedTunnel.Padding
