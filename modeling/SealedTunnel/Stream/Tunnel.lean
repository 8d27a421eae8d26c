import SealedTunnel.Error
import SealedTunnel.Stream.Talk

/-!
# Transfers over a tunnel stream

A tunnel stream is a stream whose failures are tunnel errors. Reading exactly and writing all are
the two simplest conversations over it; the stream-open header, which names the target of a freshly
opened stream, is another.

## Main definitions

* `Tunnel.readExact`, `Tunnel.writeAll`
* `Target.send`, `Target.receive`: the two sides of the stream-open header
-/

namespace SealedTunnel

namespace Tunnel

/-- The failure of a read that was to give `n` bytes. -/
def readStop (n : Nat) : Interruption TunnelError → TunnelError
  | .ended got => .framing (.endInsideRead got n)
  | .broken e => e

/-- The failure of a write. -/
def writeStop : Interruption TunnelError → TunnelError
  | .ended _ => .closed
  | .broken e => e

/-- Reads exactly `n` bytes. -/
def readExact (n : Nat) : Talk TunnelError TunnelError Bytes :=
  .need n (readStop n) .done

/-- Writes all of the bytes. -/
def writeAll (data : Bytes) : Talk TunnelError TunnelError Unit :=
  .send data writeStop (.done ())

end Tunnel

namespace Target

/-- What every target starts with. -/
def scheme : String := "tcp://"

/-- The most bytes of a target with its scheme. -/
def maxLength : Nat := 4096

/-- The number of bytes in which the length is written. -/
def lengthSize : Nat := 2

/-- The header that names a target. -/
def header (target : String) : Bytes :=
  let text := Bytes.ofString (scheme ++ target)
  Bytes.bigEndian lengthSize text.length ++ text

/-- Whether a target with its scheme may have this length. -/
def lengthOk (length : Nat) : Bool :=
  0 < length && length ≤ maxLength

/-- Names the target on a fresh stream. -/
def send (target : String) : Talk TunnelError TunnelError Unit :=
  let length := (Bytes.ofString (scheme ++ target)).length
  if target.isEmpty || !lengthOk length then .fail (.framing (.targetLength length))
  else Tunnel.writeAll (header target)

/-- The target that a text names. -/
def ofText (text : String) : Except FramingFault String :=
  match scheme.toList.isPrefixOf? text.toList with
  | some (c :: rest) => .ok (String.ofList (c :: rest))
  | _ => .error (.targetScheme text)

/-- Reads which target a fresh stream is for. -/
def receive : Talk TunnelError TunnelError String := do
  let length := Bytes.ofBigEndian (← Tunnel.readExact lengthSize)
  if !lengthOk length then .fail (.framing (.targetLength length))
  else
    let raw ← Tunnel.readExact length
    match Bytes.toString? raw with
    | none => .fail (.framing .targetNotText)
    | some text =>
      match ofText text with
      | .ok target => .done target
      | .error fault => .fail (.framing fault)

end Target

end SealedTunnel
