import SealedTunnel.Cipher
import SealedTunnel.Frame.Compression
import SealedTunnel.Frame.Header
import SealedTunnel.Obfuscation.Jitter
import SealedTunnel.Obfuscation.Padding
import SealedTunnel.Pool

/-!
# Frames of a connection

Both ends of a connection share settings: the cipher, the disguise and the compression. They fix how
a chunk of data becomes a frame, namely compressed, padded, sealed and put behind a header, and how
a payload is undone.

## Main definitions

* `Settings`: what the two ends of a connection agree on, and the size of the frames one sends
* `Settings.prepare`: the frame of a chunk, built in buffers of a pool
* `Settings.decode`: the data that a payload carries
-/

namespace SealedTunnel

/-- What a connection is wrapped with. -/
structure Settings where
  cipher : Option Cipher := none
  obfuscation : Obfuscation := {}
  compression : Compression := .none
  /-- How many bytes of data a frame carries, before it is brought into range. -/
  frameSize : UInt64 := 65535

/-- A frame that is ready to be sent. -/
structure Prepared where
  frame : Bytes
  /-- How many bytes of the data the frame carries. -/
  consumed : Nat
  /-- The buffers that are given back once it is sent, the one to go back first at the front. -/
  loans : List Buffer

/-- Why a frame could not be made, and the pool with the buffers for it back in it. -/
structure Unmade where
  error : TunnelError
  pool : Pool

/-- The same computation for someone who holds buffers: if it fails, they go back, the one at the
front first. What the computation itself had written by then is not kept. -/
def Draw.orGiveBack {α : Type} (draw : Draw TunnelError α) (loans : List Buffer) (pool : Pool) :
    Draw Unmade α :=
  fun e => (draw e).mapError fun error => ⟨error, pool.releaseAll loans⟩

namespace Settings

/-- How many bytes of data a frame carries at most: at least one, and no more than a payload
holds. -/
def maxPayload (s : Settings) : Nat :=
  max 1 (min s.frameSize.toNat maxFramePayload)

/-- How many bytes of data the next frame takes at most. -/
def chunkLimit (s : Settings) : Nat :=
  match s.compression with
  | .snappy => min s.maxPayload Body.maxChunk
  | .none => s.maxPayload

/-- The length of the sealed form of a text, where there is a cipher. -/
def sealedLength (s : Settings) (length : Nat) : Nat :=
  if s.cipher.isSome then Cipher.sealedLength length else length

/-- The longest payload that the other end can send. -/
def maxFrameLength (s : Settings) : Nat :=
  s.sealedLength <|
    if s.obfuscation.enabled then
      maxFramePayload + (Padding.headerLength + Obfuscation.paddingLimit.toNat)
    else maxFramePayload

/-- A connection with these settings in words. -/
def describe (s : Settings) : String :=
  "EncryptedConn \x7b cipher: " ++
    (match s.cipher with
      | some c => "Some(" ++ c.algorithm.label ++ ")"
      | none => "None") ++
    ", obfuscation: " ++ toString s.obfuscation.enabled ++
    ", compression: " ++ s.compression.label ++
    ", max_payload: " ++ toString s.maxPayload ++ " \x7d"

/-! ## Sending -/

/-- The body of a chunk. -/
def bodyInto (s : Settings) (chunk scratch : Bytes) : Except TunnelError Placed :=
  match s.compression with
  | .snappy => (Body.encodeInto chunk scratch).mapError .compression
  | .none => .ok ⟨chunk, false⟩

/-- The padded form of a body. -/
def paddedInto (s : Settings) (body scratch : Bytes) : Draw TunnelError Placed :=
  if s.obfuscation.enabled then Padding.encodeInto body s.obfuscation scratch
  else pure ⟨body, false⟩

/-- The sealed form of a text, written into a place of exactly its length. -/
def sealedInto (s : Settings) (plain place : Bytes) : Draw TunnelError Bytes :=
  match s.cipher with
  | some c => (c.sealInto plain place).forTunnel
  | none => pure plain

/-- The frame of a padded body: the header, and the sealed body behind it. -/
def frameInto (s : Settings) (plain scratch : Bytes) : Draw TunnelError Placed := do
  let length := s.sealedLength plain.length
  let room := Placed.room scratch (Header.size + length)
  let header ← ((Header.encode length).mapError .framing : Except TunnelError Bytes)
  let frame := room.bytes.overwrite 0 header
  let payload ← s.sealedInto plain (frame.drop Header.size)
  return { room with bytes := Bytes.overwrite frame Header.size payload }

/-- The frame of the first bytes of the data, built in three buffers of the pool. -/
def prepare (s : Settings) (data : Bytes) (pool : Pool) : Draw Unmade (Prepared × Pool) := do
  let chunk := data.take s.chunkLimit
  let (first, pool) := pool.acquire
  let body ← Draw.orGiveBack (s.bodyInto chunk first.bytes) [first] pool
  -- All three buffers are held until the frame is out, so they are three different ones.
  let (second, pool) := pool.acquire
  let padded ← (s.paddedInto body.bytes second.bytes).orGiveBack [second, first.keep body] pool
  let (third, pool) := pool.acquire
  let frame ← (s.frameInto padded.bytes third.bytes).orGiveBack
    [third, second.keep padded, first.keep body] pool
  return (⟨frame.bytes, chunk.length, [third.keep frame, second.keep padded, first.keep body]⟩,
    pool)

/-- The milliseconds to wait after a frame that carried `length` bytes of data. -/
def drawPause (s : Settings) (length : Nat) : Draw TunnelError (Option UInt64) :=
  if s.obfuscation.enabled then (Jitter.drawDelay s.obfuscation length).forTunnel else pure none

/-! ## Receiving -/

/-- The text that a payload seals, and the place where it stood afterwards. -/
def openPayload (s : Settings) (payload : Bytes) : Except TunnelError (Bytes × Bytes) :=
  match s.cipher with
  | some c => (c.openInPlace payload).mapError fun _ => .authentication
  | none => .ok (payload, payload)

/-- The body that an opened payload holds. -/
def unpad (s : Settings) (text : Bytes) : Except TunnelError Bytes :=
  if s.obfuscation.enabled then Padding.decode text else .ok text

/-- The data of a body; an empty body carries none. -/
def expand (s : Settings) (body : Bytes) : Except TunnelError Bytes :=
  match s.compression with
  | .snappy => if body.isEmpty then .ok [] else (Body.decode body).mapError .compression
  | .none => .ok body

/-- The data that an opened payload carries. -/
def decodeText (s : Settings) (text : Bytes) : Except TunnelError Bytes := do
  s.expand (← s.unpad text)

/-- The data that a payload carries; there may be none. -/
def decode (s : Settings) (payload : Bytes) : Except TunnelError Bytes := do
  s.decodeText (← s.openPayload payload).1

end Settings

end SealedTunnel
