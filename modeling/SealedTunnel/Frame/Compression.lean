import SealedTunnel.Error
import SealedTunnel.Snappy.Block

/-!
# Compressed bodies

Where compression is on, the body of a frame is a marker byte and the chunk: as it is, or as a
Snappy block if that is shorter. So a body is at most one byte longer than its chunk.

## Main definitions

* `Compression`: whether bodies are compressed
* `BlockCoder`, `Snappy.coder`: what a compression library does, and the one in use
* `Body.encodeWith`, `Body.encodeInto`: the body of a chunk, built in a scratch buffer or not, by
  any coder and by that one
* `Body.decodeWith`, `Body.decode`: the chunk of a body
-/

namespace SealedTunnel

/-- Whether the bodies of frames are compressed. -/
inductive Compression where
  | none
  | snappy
  deriving DecidableEq, Repr, Inhabited

/-- The name in configurations. -/
def Compression.name : Compression → String
  | .none => "none"
  | .snappy => "snappy"

/-- The name in descriptions of connections. -/
def Compression.label : Compression → String
  | .none => "None"
  | .snappy => "Snappy"

/-- The mode of a configuration name. -/
def Compression.ofName? : String → Option Compression
  | "none" => some .none
  | "snappy" => some .snappy
  | _ => .none

/-- The most bytes of data that one frame carries. -/
def maxFramePayload : Nat := 65535

/-- The work of a compression library: a block is written over a buffer, and expanded. -/
structure BlockCoder where
  /-- How long the block of so many bytes may become. -/
  maxLength : Nat → Nat
  /-- Writes the block of some data over a buffer that must be as long as it may become. Gives the
  buffer and the length of the block, or the wording of an error. -/
  compressOver : (data out : Bytes) → Except String (Bytes × Nat)
  /-- The length that a block declares. -/
  declaredLength? : Bytes → Option Nat
  /-- The contents of a block. -/
  decompress? : Bytes → Option Bytes

/-- The coder of Snappy blocks. -/
def Snappy.coder : BlockCoder where
  maxLength := Block.maxLength
  compressOver data out :=
    let least := Block.maxLength data.length
    if out.length < least then
      .error (s!"snappy: output buffer (size = {out.length}) is smaller than required " ++
        s!"(size = {least})")
    else
      let block := Block.compress data
      .ok (out.overwrite 0 block, block.length)
  declaredLength? := Block.declaredLength?
  decompress? := Block.decompress?

namespace Body

/-- The number of bytes of the marker. -/
def markerLength : Nat := 1

/-- The marker of a chunk that stands as it is. -/
def storedMarker : UInt8 := 0

/-- The marker of a chunk that is a block. -/
def snappyMarker : UInt8 := 1

/-- The longest chunk whose body is sure to fit in a frame. -/
def maxChunk : Nat := maxFramePayload - markerLength

/-- Writes the body of a chunk into a buffer that has room for both forms. The block is tried
first; where it is not shorter, the chunk itself is written over it. -/
def fill (k : BlockCoder) (data out : Bytes) : Except CompressionFault Bytes :=
  match k.compressOver data (out.drop markerLength) with
  | .error why => .error (.other why)
  | .ok (behind, length) =>
    let out := out.take markerLength ++ behind
    if length < data.length then
      .ok ((Bytes.overwrite out 0 [snappyMarker]).take (markerLength + length))
    else
      .ok ((Bytes.overwrite (Bytes.overwrite out 0 [storedMarker]) markerLength data).take
        (markerLength + data.length))

/-- The body of a chunk by any coder, built in a scratch buffer if that is large enough, else apart
from it. -/
def encodeWith (k : BlockCoder) (data scratch : Bytes) : Except CompressionFault Placed :=
  if data.length > maxChunk then .error (.chunkTooLong data.length maxChunk)
  else
    let room := Placed.room scratch (markerLength + max (k.maxLength data.length) data.length)
    (fill k data room.bytes).map fun body => { room with bytes := body }

/-- The body of a chunk. -/
def encodeInto (data scratch : Bytes) : Except CompressionFault Placed :=
  encodeWith Snappy.coder data scratch

/-- The chunk of a body by any coder. A block that declares more than a frame carries is refused
before it is expanded. -/
def decodeWith (k : BlockCoder) : Bytes → Except CompressionFault Bytes
  | [] => .error .emptyBody
  | marker :: rest =>
    if marker = storedMarker then .ok rest
    else if marker = snappyMarker then
      match k.declaredLength? rest with
      | none => .error .badBlock
      | some n =>
        -- The declared length is checked before a byte of the output exists.
        if n > maxFramePayload then .error (.expandsTooFar n maxFramePayload)
        else
          match k.decompress? rest with
          | none => .error .badBlock
          | some data => .ok data
    else .error (.unknownMarker marker)

/-- The chunk of a body whose block is expanded by `expand?`. -/
def decodeVia (expand? : Bytes → Option Bytes) (body : Bytes) : Except CompressionFault Bytes :=
  decodeWith { Snappy.coder with decompress? := expand? } body

/-- The chunk of a body. -/
def decode (body : Bytes) : Except CompressionFault Bytes :=
  decodeWith Snappy.coder body

end Body

end SealedTunnel
