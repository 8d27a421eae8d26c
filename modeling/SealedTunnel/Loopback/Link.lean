import SealedTunnel.Loopback.Scene

/-!
# A link in an in-memory world

Two ends of one two-way stream, each of them used as it is or through a connection. Calls on a
connection run as tasks; what is used as it is gives and takes bytes at once. A connection may relay
to a local stream, whose other end is used as it is.

## Main definitions

* `Link`: a link and its tasks, with `Link.make`
* `Link.call`, `Link.relay`: calls on a connection
* `Link.send`, `Link.receive`, `Link.close`: what is used as it is
-/

namespace SealedTunnel

/-- One of the two ends. -/
inductive Side where
  | left
  | right
  deriving DecidableEq, Repr

/-- What an end is used through: the pipes it reads from and writes to, or a connection over them,
and the pipes of the local stream to which the connection relays. -/
structure LinkEnd where
  inbound : Nat
  outbound : Nat
  conn : Option Nat
  settings : Settings
  localIn : Nat := 0
  localOut : Nat := 0

/-- A link and its tasks. -/
structure Link where
  scene : Scene Job Job.Result
  left : LinkEnd
  right : LinkEnd

namespace Link

/-- An end over two pipes. An end with settings is a connection, which may have a pool of its own;
the shared pool is the first. -/
def addEnd (w : World) (settings : Option (Settings × Option Pool)) (inbound outbound : Nat) :
    World × LinkEnd :=
  match settings with
  | none => (w, ⟨inbound, outbound, none, {}, 0, 0⟩)
  | some (s, pool) =>
    let (w, i) := match pool with
      | some p => ({ w with pools := w.pools.push p }, w.pools.size)
      | none => (w, 0)
    let (w, c) := w.addConn s inbound outbound i
    (w, ⟨inbound, outbound, some c, s, 0, 0⟩)

/-- A link whose pipes hold so many bytes each. -/
def make (entropy : Entropy) (capacity : Nat) (left right : Option (Settings × Option Pool)) :
    Link :=
  let w : World := { entropy, pools := #[.shared] }
  let (w, forth) := w.addPipe capacity
  let (w, back) := w.addPipe capacity
  let (w, left) := addEnd w left back forth
  let (w, right) := addEnd w right forth back
  { scene := { world := w }, left, right }

/-- The end of a side. -/
def endAt (l : Link) : Side → LinkEnd
  | .left => l.left
  | .right => l.right

/-- The settings with which the other side sends. -/
def peerSettings (l : Link) : Side → Settings
  | .left => l.right.settings
  | .right => l.left.settings

/-- Something is done to the world. -/
def onWorld (l : Link) (f : World → World) : Link :=
  { l with scene := l.scene.onWorld f }

/-- Bytes go into a pipe, as many as there is room for. -/
def send (l : Link) (pipe : Nat) (data : Bytes) : Poll IoError Nat × Link :=
  let (r, w) := l.scene.world.offer pipe data
  (r, l.onWorld fun _ => w)

/-- Everything is taken out of a pipe; the second part says whether it has ended. -/
def receive (l : Link) (pipe : Nat) : (Bytes × Bool) × Link :=
  let (bs, w) := l.scene.world.drainPipe pipe
  ((bs, (w.pipe pipe).atEnd), l.onWorld fun _ => w)

/-- Pipes are closed. -/
def close (l : Link) (pipes : List Nat) : Link :=
  l.onWorld fun w => pipes.foldl (fun w p => w.closePipe p) w

/-- An end vanishes; calls that still run on its connection hold on to that. -/
def drop (l : Link) (side : Side) : Link :=
  let e := l.endAt side
  match e.conn with
  | some c => l.onWorld (World.dropConn c)
  | none => l.close [e.inbound, e.outbound]

/-- A call on a connection starts; the number of its task is the second part. -/
def call (l : Link) (conn : Nat) (c : Call) : Link × Nat :=
  let (scene, task) := l.scene.call conn c
  ({ l with scene }, task)

/-- The connection of a side starts to relay to a new local stream. -/
def relay (l : Link) (side : Side) (conn capacity : Nat) : Link × Nat :=
  let (w, localIn) := l.scene.world.addPipe capacity
  let (w, localOut) := w.addPipe capacity
  let (scene, task) := (l.onWorld fun _ => w).scene.relay conn localIn localOut
  let e := { l.endAt side with localIn, localOut }
  match side with
  | .left => ({ l with scene, left := e }, task)
  | .right => ({ l with scene, right := e }, task)

/-- All tasks run until they can only wait; pauses pass. -/
def settle (l : Link) : Link :=
  { l with scene := l.scene.settle Job.poll true }

end Link

end SealedTunnel
