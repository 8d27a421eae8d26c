import SealedTunnel.Conn.Settings
import SealedTunnel.Stream.Talk

/-!
# The reading side of a connection

A read gives data of at most one frame. What the caller has no room for is kept for the next read;
frames that carry nothing are passed over. A frame is fetched in two conversations, one for its
length and one for its payload, so that a read that has to wait goes on where it stopped.

## Main definitions

* `Fetching`: a frame being fetched
* `Reader`: what was left over, and the frame being fetched
* `Reader.read`: the next data
-/

namespace SealedTunnel

/-- Why no frame could be fetched. -/
inductive FetchEnd where
  /-- The stream ended between two frames. -/
  | closed
  | failed (error : TunnelError)
  deriving DecidableEq, Repr

/-- How the header of a frame is cut short. -/
def FetchEnd.ofHeader : Interruption IoError → FetchEnd
  | .ended 0 => .closed
  | .ended got => .failed (.framing (.endInsideHeader got))
  | .broken e => .failed (.io e)

/-- How a payload is cut short. -/
def FetchEnd.ofPayload (length : Nat) : Interruption IoError → FetchEnd
  | .ended _ | .broken .endOfStream => .failed (.framing (.endInsideFrame length))
  | .broken e => .failed (.io e)

/-- Fetches one length: a header. -/
def Header.fetch : Talk IoError FetchEnd Nat :=
  .need Header.size .ofHeader fun header =>
    match Header.decode header with
    | .ok length => .done length
    | .error fault => .fail (.failed (.framing fault))

/-- Fetches the length of the next payload. One that is longer than the other end may send is
refused before any of it is read. -/
def Settings.fetchLength (s : Settings) : Talk IoError FetchEnd Nat := do
  let length ← Header.fetch
  if length > s.maxFrameLength then
    .fail (.failed (.framing (.frameOverLimit length s.maxFrameLength)))
  else return length

/-- Fetches a payload of that length. -/
def fetchPayload (length : Nat) : Talk IoError FetchEnd Bytes :=
  .need length (.ofPayload length) .done

/-- A frame that is being fetched. A buffer for the payload is held from the time when its length is
known. -/
inductive Fetching where
  | length (talk : Talk IoError FetchEnd Nat)
  | payload (buffer : Buffer) (talk : Talk IoError FetchEnd Bytes)

/-- What has come of fetching a frame. -/
inductive Fetched where
  | waiting (fetching : Fetching)
  | payload (buffer : Buffer) (payload : Bytes)
  | stopped (why : FetchEnd)

namespace Fetching

variable {τ : Type}

/-- A frame of which nothing is fetched yet. -/
def start (s : Settings) : Fetching :=
  .length s.fetchLength

/-- Fetching the payload as far as the stream lets it. If it stops, the buffer goes back; what was
read into it by then is not kept. -/
def advancePayload (d : Duplex IoError τ) (buffer : Buffer) (talk : Talk IoError FetchEnd Bytes)
    (pool : Pool) (source : τ) : Fetched × Pool × τ :=
  match talk.advance d source with
  | (.done bytes, source) => (.payload buffer bytes, pool, source)
  | (.fail why, source) => (.stopped why, pool.release buffer, source)
  | (talk, source) => (.waiting (.payload buffer talk), pool, source)

/-- Fetching as far as the stream lets it. -/
def advance (d : Duplex IoError τ) : Fetching → Pool → τ → Fetched × Pool × τ
  | .length talk, pool, source =>
    match talk.advance d source with
    | (.done n, source) =>
      let (buffer, pool) := pool.acquire
      advancePayload d buffer (fetchPayload n) pool source
    | (.fail why, source) => (.stopped why, pool, source)
    | (talk, source) => (.waiting (.length talk), pool, source)
  | .payload buffer talk, pool, source => advancePayload d buffer talk pool source

/-- The buffers that are held for the frame. -/
def loans : Fetching → List Buffer
  | .length _ => []
  | .payload buffer _ => [buffer]

end Fetching

/-- Undoes a payload in the buffer, or apart from it where that is too small. The buffer goes
back. -/
def Settings.decodeWith (s : Settings) (buffer : Buffer) (payload : Bytes) (pool : Pool) :
    Except TunnelError Bytes × Pool :=
  let room := Placed.room buffer.bytes payload.length
  let region := room.bytes.overwrite 0 payload
  match s.openPayload region with
  | .error e => (.error e, pool.release (buffer.keep { room with bytes := region }))
  | .ok (text, region) =>
    (s.decodeText text, pool.release (buffer.keep { room with bytes := region }))

/-- The reading side of a connection. -/
structure Reader where
  /-- Data that the last read had no room for. -/
  leftover : Bytes := []
  /-- The frame being fetched; none before its first byte was asked for. -/
  fetching : Option Fetching := none

/-- A read: what it gives, and everything it works on afterwards. -/
structure ReadStep (τ : Type) where
  outcome : Poll TunnelError Bytes
  reader : Reader
  pool : Pool
  source : τ

namespace Reader

variable {τ : Type}

/-- Fetches frames until one carries data, of which the first `n` bytes are given. `fuel` bounds
the number of frames. -/
def fetchData (s : Settings) (n : Nat) (d : Duplex IoError τ) :
    (fuel : Nat) → Fetching → Pool → τ → ReadStep τ
  | 0, fetching, pool, source => ⟨.waiting, ⟨[], some fetching⟩, pool, source⟩
  | fuel + 1, fetching, pool, source =>
    match fetching.advance d pool source with
    | (.waiting fetching, pool, source) => ⟨.waiting, ⟨[], some fetching⟩, pool, source⟩
    | (.stopped .closed, pool, source) => ⟨.ready [], {}, pool, source⟩
    | (.stopped (.failed e), pool, source) => ⟨.failed e, {}, pool, source⟩
    | (.payload buffer payload, pool, source) =>
      match s.decodeWith buffer payload pool with
      | (.error e, pool) => ⟨.failed e, {}, pool, source⟩
      -- An empty frame would look like the end to the caller, so it is passed over.
      | (.ok [], pool) => fetchData s n d fuel (.start s) pool source
      | (.ok data, pool) => ⟨.ready (data.take n), ⟨data.drop n, none⟩, pool, source⟩

/-- At most `n` bytes of data; none of them means that the other end has closed. `fuel` bounds the
number of frames that carry nothing. -/
def read (s : Settings) (n : Nat) (d : Duplex IoError τ) (fuel : Nat) (r : Reader) (pool : Pool)
    (source : τ) : ReadStep τ :=
  if r.leftover.isEmpty then
    fetchData s n d fuel (r.fetching.getD (.start s)) pool source
  else ⟨.ready (r.leftover.take n), { r with leftover := r.leftover.drop n }, pool, source⟩

/-- The reading side after a read that was given up: the bytes of the frame it was fetching are
lost. -/
def abandon (r : Reader) : Reader :=
  { r with fetching := none }

/-- The buffers that are held for the frame being fetched. -/
def loans (r : Reader) : List Buffer :=
  r.fetching.elim [] Fetching.loans

end Reader

end SealedTunnel
