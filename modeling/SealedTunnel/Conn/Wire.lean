import SealedTunnel.Conn.Settings

/-!
# Frames on the wire

What a sender has put on the stream, seen from outside: the byte string is cut into payloads, and
each payload is undone with the settings of the sender, layer by layer. Nothing here is incremental;
a connection that reads frame by frame has to agree with it.

## Main definitions

* `Wire.split`: the payloads in a byte string, and what follows the last whole frame
* `Wire.Content`, `Settings.undo`: what a payload is made of
-/

namespace SealedTunnel

namespace Wire

/-- The first payload of a byte string and what follows it, if a whole frame is there. A header that
no frame has is refused, whatever follows it. -/
def first? (bs : Bytes) : Except FramingFault (Option (Bytes × Bytes)) :=
  let header := bs.take Header.size
  if header.length < Header.size then .ok none
  else
    (Header.decode header).map fun length =>
      let payload := (bs.drop Header.size).take length
      if payload.length < length then none
      else some (payload, (bs.drop Header.size).drop length)

theorem length_of_first? {bs payload rest : Bytes} (h : first? bs = .ok (some (payload, rest))) :
    rest.length + Header.size ≤ bs.length := by
  simp only [first?] at h
  split at h
  · simp at h
  · rename_i whole
    cases hd : Header.decode (bs.take Header.size) with
    | error e => simp [hd, Except.map] at h
    | ok length =>
      simp only [hd, Except.map, Except.ok.injEq] at h
      split at h
      · contradiction
      · obtain ⟨-, rfl⟩ := Prod.mk.inj (Option.some.inj h)
        simp only [List.length_drop, List.length_take] at whole ⊢
        omega

/-- A byte string as frames. -/
structure Frames where
  payloads : List Bytes := []
  /-- What is wrong with the header that follows them. -/
  fault : Option FramingFault := none
  /-- The bytes after the last whole frame. -/
  rest : Bytes

/-- The frames of a byte string, in order; a header that no frame has is the last that is looked
at. -/
def split (bs : Bytes) : Frames :=
  match h : first? bs with
  | .error fault => { fault := some fault, rest := bs }
  | .ok none => { rest := bs }
  | .ok (some (payload, rest)) =>
    have : rest.length < bs.length := by
      have := length_of_first? h
      simp only [Header.size] at this
      omega
    let frames := split rest
    { frames with payloads := payload :: frames.payloads }
termination_by bs.length

/-- What a payload is made of. -/
structure Content where
  data : Bytes
  /-- The length of the padding, where there is any. -/
  padding : Option Nat
  /-- The marker of the body, where bodies are compressed. -/
  marker : Option UInt8
  deriving DecidableEq, Repr

end Wire

/-- Takes a payload apart: it is opened, its padding is taken off, its body is expanded. -/
def Settings.undo (s : Settings) (payload : Bytes) : Except TunnelError Wire.Content := do
  let text := (← s.openPayload payload).1
  let body ← s.unpad text
  let padding :=
    if s.obfuscation.enabled then some (text.length - (Padding.headerLength + body.length))
    else none
  match s.compression with
  | .none => .ok ⟨body, padding, none⟩
  | .snappy =>
    let data ← (Body.decode body).mapError .compression
    .ok ⟨data, padding, body.head?⟩

end SealedTunnel
