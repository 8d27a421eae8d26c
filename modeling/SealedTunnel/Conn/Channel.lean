import SealedTunnel.Conn.Carrier
import SealedTunnel.Conn.Line
import SealedTunnel.Conn.Reader

/-!
# A connection that tasks share

The two lines of a connection, its reading side, and what its tasks work on: the pool of their
buffers, the supply of random bytes, and the stream underneath, which may be of any kind. What a
task does is cut into the steps between which other tasks may come: a frame is made, its task joins
the line, and whoever has the turn puts bytes on the stream.

## Main definitions

* `Channel`: the connection
* `Channel.read`: a read as far as it comes
* `Channel.make`, `Channel.join`, `Channel.push`: the steps of a write
* `Channel.write`, `Channel.close`: a write and a closing as far as they come
-/

namespace SealedTunnel

/-- A connection over a stream of state `τ`, as its tasks share it. -/
structure Channel (τ : Type) where
  reader : Reader := {}
  readLine : ReadLine := []
  writeLine : WriteLine := []
  pool : Pool
  entropy : Entropy
  stream : τ

namespace Channel

variable {τ : Type}

/-! ## Reading -/

/-- A task reads at most `n` bytes of data. It waits for its turn, and then for the data; while it
waits it stays in the line. -/
def read (s : Settings) (d : Duplex IoError τ) (fuel owner n : Nat) (ch : Channel τ) :
    Poll TunnelError Bytes × Channel τ :=
  if n = 0 then (.ready [], ch)
  else
    let line := ch.readLine.enter owner
    -- One reader at a time: a frame that one reader has begun is not shared with the next.
    if !line.isFirst owner then (.waiting, { ch with readLine := line })
    else
      let r := ch.reader.read s n d fuel ch.pool ch.stream
      let ch := { ch with reader := r.reader, pool := r.pool, stream := r.source }
      match r.outcome with
      | .waiting => (.waiting, { ch with readLine := line })
      | outcome => (outcome, { ch with readLine := line.leave owner })

/-- A task gives up its read. If it was its turn, the buffers for that go back. -/
def abandonRead (owner : Nat) (ch : Channel τ) : Channel τ :=
  let first := ch.readLine.isFirst owner
  { ch with
    reader := if first then ch.reader.abandon else ch.reader
    pool := if first then ch.pool.releaseAll ch.reader.loans else ch.pool
    readLine := ch.readLine.leave owner }

/-! ## Writing -/

/-- The frame of the first bytes of the data is made; it is not in the line yet. -/
def make (s : Settings) (data : Bytes) (ch : Channel τ) :
    Except TunnelError Prepared × Channel τ :=
  match s.prepare data ch.pool ch.entropy with
  | .ok ((p, pool), entropy) => (.ok p, { ch with pool, entropy })
  | .error unmade => (.error unmade.error, { ch with pool := unmade.pool })

/-- A task joins the line of writers with its frame. -/
def join (owner : Nat) (p : Prepared) (ch : Channel τ) : Channel τ :=
  { ch with writeLine := ch.writeLine.enter owner p }

/-- A task leaves the line of writers, and its buffers go back. -/
def leave (owner : Nat) (ch : Channel τ) : Channel τ :=
  { ch with
    pool := ch.pool.releaseAll (ch.writeLine.loansOf owner)
    writeLine := ch.writeLine.leave owner }

/-- A task puts the rest of its frame on the stream if it has the turn, and leaves the line once
all of it is out and flushed. Then it knows how many bytes of its data the frame carried. -/
def push (d : Carrier τ) (owner : Nat) (ch : Channel τ) :
    Poll TunnelError Nat × Channel τ :=
  match ch.writeLine.holder? with
  | none => (.waiting, ch)
  | some turn =>
    if turn.owner ≠ owner then (.waiting, ch)
    else
      match d.emit turn.rest ch.stream with
      | (.partway rest, stream) =>
        (.waiting, { ch with stream, writeLine := ch.writeLine.push rest })
      | (.stopped (.broken e), stream) => (.failed (.io e), { ch with stream }.leave owner)
      | (.stopped (.ended _), stream) =>
        (.failed (.io .nothingTaken), { ch with stream }.leave owner)
      | (.complete _, stream) => (.ready turn.consumed, { ch with stream }.leave owner)

/-- A task with a place in the line goes on with its frame. Once that is out, it draws the delay
after it. -/
def proceed (s : Settings) (d : Carrier τ) (owner : Nat) (ch : Channel τ) :
    Poll TunnelError (Nat × Option UInt64) × Channel τ :=
  match ch.push d owner with
  | (.ready n, ch) =>
    -- The turn has ended before the pause begins: whoever comes next need not wait for it.
    match s.drawPause n ch.entropy with
    | .error e => (.failed e, ch)
    | .ok (pause, entropy) => (.ready (n, pause), { ch with entropy })
  | (.failed e, ch) => (.failed e, ch)
  | (.waiting, ch) => (.waiting, ch)

/-- A task writes the first bytes of the data as one frame. The frame is made before the task joins
the line. -/
def write (s : Settings) (d : Carrier τ) (owner : Nat) (data : Bytes) (ch : Channel τ) :
    Poll TunnelError (Nat × Option UInt64) × Channel τ :=
  if ch.writeLine.has owner then ch.proceed s d owner
  else if data.isEmpty then (.ready (0, none), ch)
  else
    match ch.make s data with
    | (.error e, ch) => (.failed e, ch)
    | (.ok p, ch) => (ch.join owner p).proceed s d owner

/-- A task that has nothing to write takes its place in the line, unless it has one. -/
def lineUp (owner : Nat) (ch : Channel τ) : Channel τ :=
  if ch.writeLine.has owner then ch else ch.join owner ⟨[], 0, []⟩

/-- A task closes the writing side, once it is its turn. -/
def close (d : Carrier τ) (owner : Nat) (ch : Channel τ) : Poll TunnelError Unit × Channel τ :=
  -- Closing is an empty frame in the line, so it comes after the frames before it.
  let ch := ch.lineUp owner
  match ch.writeLine.holder? with
  | some turn =>
    if turn.owner = owner then
      match d.finish ch.stream with
      | (.waiting, stream) => (.waiting, { ch with stream })
      | (outcome, stream) => (outcome, { ch with stream }.leave owner)
    else (.waiting, ch)
  | none => (.waiting, ch)

/-- A connection as the stream that a task uses; delays pass at once. -/
def toDuplex (s : Settings) (d : Carrier τ) (fuel owner : Nat) :
    Duplex TunnelError (Channel τ) :=
  ⟨read s d fuel owner,
   fun data ch => let (r, ch) := ch.write s d owner data; (r.map id Prod.fst, ch)⟩

end Channel

end SealedTunnel
