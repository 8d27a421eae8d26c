import SealedTunnel.Conn.Channel
import SealedTunnel.Loopback.Pipe
import SealedTunnel.Relay
import SealedTunnel.Stats

/-!
# An in-memory world

Pipes, connections over them, the pools these draw buffers from, a clock, a supply of random bytes,
the counters and the log: all that the tasks of one process share. Every operation that moves bytes
or finishes something is counted, so that one can see when nothing moves any more.

## Main definitions

* `World`: the shared state
* `World.readConn`, `World.writeConn`, `World.closeConn`: what a task does on a connection
* `World.rawEnd`, `World.connEnd`: one end of a pipe, and a connection, as streams
-/

namespace SealedTunnel

/-- A connection over two pipes. -/
structure Conn where
  settings : Settings
  /-- The pipe it reads from, and the one it writes to. -/
  inbound : Nat
  outbound : Nat
  /-- The pool its buffers come from. -/
  pool : Nat
  reader : Reader := {}
  readLine : ReadLine := []
  writeLine : WriteLine := []
  /-- How many hold on to it; it vanishes with the last one. -/
  users : Nat := 1

/-- A writer that pauses after its frame. -/
structure Pause where
  owner : Nat
  /-- When it goes on. -/
  wakeAt : Nat
  consumed : Nat
  deriving DecidableEq, Repr

/-- What the tasks of one process share. -/
structure World where
  pipes : Array Pipe := #[]
  conns : Array Conn := #[]
  pools : Array Pool := #[]
  pauses : List Pause := []
  entropy : Entropy
  /-- The time in milliseconds. -/
  now : Nat := 0
  stats : Stats := {}
  /-- The log, the latest line first. -/
  log : List String := []
  /-- The targets to which streams were asked for, the latest first. -/
  targets : List String := []
  /-- How often something has moved. -/
  moves : Nat := 0

namespace World

/-- Something has moved. -/
def moved (w : World) : World :=
  { w with moves := w.moves + 1 }

/-- A line in the log. -/
def warn (w : World) (line : String) : World :=
  { w with log := line :: w.log }

/-- A stream to a target is asked for. -/
def askFor (w : World) (target : String) : World :=
  { w with targets := target :: w.targets }

/-! ## Pipes -/

/-- A new pipe; its number is the second part. -/
def addPipe (w : World) (capacity : Nat) : World × Nat :=
  ({ w with pipes := w.pipes.push { capacity } }, w.pipes.size)

/-- The pipe of a number; one that does not exist is closed. -/
def pipe (w : World) (i : Nat) : Pipe :=
  w.pipes.getD i { capacity := 0, closed := true }

/-- Another state for the pipe of a number. -/
def setPipe (w : World) (i : Nat) (p : Pipe) : World :=
  { w with pipes := w.pipes.setIfInBounds i p }

/-- Reads from a pipe. -/
def readPipe (i n : Nat) (w : World) : Poll IoError Bytes × World :=
  let (r, p) := (w.pipe i).read n
  match r with
  | .ready (b :: bs) => (.ready (b :: bs), (w.setPipe i p).moved)
  | r => (r, w)

/-- Writes into a pipe. -/
def writePipe (i : Nat) (bs : Bytes) (w : World) : Poll IoError Nat × World :=
  let (r, p) := (w.pipe i).write bs
  match r with
  | .ready n => (.ready n, (w.setPipe i p).moved)
  | r => (r, w)

/-- Puts into a pipe what there is room for. Without anything to put, the pipe is not asked. -/
def offer (i : Nat) (bs : Bytes) (w : World) : Poll IoError Nat × World :=
  if bs.isEmpty then (.ready 0, w) else w.writePipe i bs

/-- Closes a pipe. -/
def closePipe (i : Nat) (w : World) : World :=
  (w.setPipe i (w.pipe i).close).moved

/-- Takes everything out of a pipe. -/
def drainPipe (i : Nat) (w : World) : Bytes × World :=
  let (bs, p) := (w.pipe i).drain
  (bs, (w.setPipe i p).moved)

/-- One end of a two-way stream: the pipe to read from and the pipe to write to. -/
def rawEnd (inbound outbound : Nat) : Duplex IoError World :=
  ⟨readPipe inbound, writePipe outbound⟩

/-- The same end for users whose failures are tunnel errors. -/
def nearEnd (inbound outbound : Nat) : Duplex TunnelError World :=
  ⟨fun n w => let (r, w) := readPipe inbound n w; (r.map .io id, w),
   fun bs w => let (r, w) := writePipe outbound bs w; (r.map .io id, w)⟩

/-! ## Connections -/

/-- A new connection over two pipes; its number is the second part. -/
def addConn (w : World) (settings : Settings) (inbound outbound pool : Nat) : World × Nat :=
  ({ w with conns := w.conns.push { settings, inbound, outbound, pool } }, w.conns.size)

/-- The connection of a number; one that does not exist lies over no pipes. -/
def conn (w : World) (c : Nat) : Conn :=
  w.conns.getD c { settings := {}, inbound := w.pipes.size, outbound := w.pipes.size, pool := 0 }

/-- Changes the connection of a number. -/
def onConn (w : World) (c : Nat) (f : Conn → Conn) : World :=
  { w with conns := w.conns.modify c f }

/-- The pool of a number. -/
def poolOf (w : World) (i : Nat) : Pool :=
  w.pools.getD i .shared

/-- Another state for the pool of a number. -/
def setPool (w : World) (i : Nat) (p : Pool) : World :=
  { w with pools := w.pools.setIfInBounds i p }

/-- The connection of a number as its tasks share it; the world is the stream underneath. -/
def channel (c : Nat) (w : World) : Channel World :=
  let k := w.conn c
  { reader := k.reader, readLine := k.readLine, writeLine := k.writeLine, pool := w.poolOf k.pool,
    entropy := w.entropy, stream := w }

/-- The world after something was done on the connection of a number. -/
def putChannel (c : Nat) (ch : Channel World) : World :=
  let w := ch.stream
  let w := { w.setPool (w.conn c).pool ch.pool with entropy := ch.entropy }
  w.onConn c fun k =>
    { k with reader := ch.reader, readLine := ch.readLine, writeLine := ch.writeLine }

/-- The stream under the connection of a number. It holds nothing back. -/
def streamOf (c : Nat) (w : World) : Carrier World :=
  let k := w.conn c
  { rawEnd k.inbound k.outbound with
    flush := fun w => (.ready (), w)
    shut := fun w => (.ready (), w.closePipe k.outbound) }

/-- A task reads at most `n` bytes of data from a connection. -/
def readConn (c owner n : Nat) (w : World) : Poll TunnelError Bytes × World :=
  let k := w.conn c
  -- Every frame takes bytes out of the pipe, so there are no more frames than bytes.
  let fuel := (w.pipe k.inbound).queue.size + 1
  let (outcome, ch) := (w.channel c).read k.settings (w.streamOf c) fuel owner n
  let w := putChannel c ch
  match outcome with
  | .waiting => (.waiting, w)
  | .failed .authentication =>
    (outcome, (w.warn "Frame failed authentication, possible tampering").moved)
  | outcome => (outcome, w.moved)

/-- A task gives up its read. -/
def abandonRead (c owner : Nat) (w : World) : World :=
  putChannel c ((w.channel c).abandonRead owner)

/-- A task gives up its write; what is on the stream stays there. -/
def abandonWrite (c owner : Nat) (w : World) : World :=
  let w := putChannel c ((w.channel c).leave owner)
  { w with pauses := w.pauses.filter (·.owner ≠ owner) }

/-- A task writes the first bytes of the data as one frame, and then pauses if a delay is drawn. -/
def writeConn (c owner : Nat) (data : Bytes) (w : World) : Poll TunnelError Nat × World :=
  match w.pauses.find? (·.owner = owner) with
  | some pause =>
    if w.now < pause.wakeAt then (.waiting, w)
    else
      (.ready pause.consumed, { w with pauses := w.pauses.filter (·.owner ≠ owner) }.moved)
  | none =>
    let (outcome, ch) := (w.channel c).write (w.conn c).settings (w.streamOf c) owner data
    let w := putChannel c ch
    match outcome with
    | .waiting => (.waiting, w)
    | .failed e => (.failed e, w.moved)
    | .ready (n, none) => (.ready n, w.moved)
    | .ready (n, some delay) =>
      (.waiting, { w with pauses := ⟨owner, w.now + delay.toNat, n⟩ :: w.pauses }.moved)

/-- A task closes the writing side of a connection, once it is its turn. -/
def closeConn (c owner : Nat) (w : World) : Poll TunnelError Unit × World :=
  let (outcome, ch) := (w.channel c).close (w.streamOf c) owner
  (outcome, putChannel c ch)

/-- A connection as the stream that a task uses. -/
def connEnd (c owner : Nat) : Duplex TunnelError World :=
  ⟨readConn c owner, writeConn c owner⟩

/-- One more holds on to a connection. -/
def shareConn (c : Nat) (w : World) : World :=
  w.onConn c fun k => { k with users := k.users + 1 }

/-- One less holds on to a connection. With the last one it vanishes, and both pipes are closed. -/
def dropConn (c : Nat) (w : World) : World :=
  let w := w.onConn c fun k => { k with users := k.users - 1 }
  let k := w.conn c
  if k.users = 0 then (w.closePipe k.inbound).closePipe k.outbound else w

/-! ## Relays -/

/-- A relay starts to run. -/
def relayStarted (w : World) : World :=
  { w with stats := w.stats.relayStarted }

/-- A relay no longer runs. -/
def relayEnded (w : World) : World :=
  { w with stats := w.stats.relayEnded }

/-- Both ends of a relay of a task: a local stream and a connection. -/
def relayEnds (inbound outbound c owner : Nat) : Relay.Ends World where
  near := nearEnd inbound outbound
  tunnel := connEnd c owner
  started := relayStarted
  ended := relayEnded
  countUp n w := { w with stats := w.stats.addSent n }.moved
  countDown n w := { w with stats := w.stats.addReceived n }.moved
  abandon w := ((w.abandonRead c owner).abandonWrite c owner).moved
  closeTunnel := closeConn c owner
  closeNear w := w.closePipe outbound

/-- The earliest time at which a pausing writer goes on. -/
def nextWake? (w : World) : Option Nat :=
  (w.pauses.map (·.wakeAt)).min?

end World

end SealedTunnel
