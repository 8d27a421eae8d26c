import SealedTunnel.Loopback.World

/-!
# Tasks in an in-memory world

Tasks run side by side in a world. They are polled in turn, each as far as it comes, until nothing
moves any more; then, if writers pause and the clock may run, it jumps to the next time at which one
of them goes on.

## Main definitions

* `Scene`: a world and its tasks
* `Scene.settle`: everything runs until it can only wait
* `Scene.stop`: everything that still runs is given up
* `Job`: the calls on connections that a task may make, with `Job.poll`
-/

namespace SealedTunnel

/-- A task: what it has still to do, or what it has given, and when it started and ended. -/
structure Task (ι ρ : Type) where
  state : ι ⊕ ρ
  started : Nat
  ended : Nat

/-- A world and its tasks. -/
structure Scene (ι ρ : Type) where
  world : World
  tasks : Array (Task ι ρ) := #[]

namespace Scene

variable {ι ρ : Type}

/-- A new task; its number is the second part. -/
def spawn (s : Scene ι ρ) (job : ι) : Scene ι ρ × Nat :=
  ({ s with tasks := s.tasks.push ⟨.inl job, s.world.now, s.world.now⟩ }, s.tasks.size)

/-- What a task has given. -/
def result? (s : Scene ι ρ) (i : Nat) : Option ρ :=
  match s.tasks[i]? with
  | some ⟨.inr r, _, _⟩ => some r
  | _ => none

/-- The world after something was done to it. -/
def onWorld (s : Scene ι ρ) (f : World → World) : Scene ι ρ :=
  { s with world := f s.world }

/-- The task of a number runs as far as it comes. -/
def pollTask (poll : Nat → ι → World → (ι ⊕ ρ) × World) (s : Scene ι ρ) (i : Nat) : Scene ι ρ :=
  match s.tasks[i]? with
  | some ⟨.inl job, started, _⟩ =>
    match poll i job s.world with
    | (.inl job, world) =>
      { world, tasks := s.tasks.setIfInBounds i ⟨.inl job, started, world.now⟩ }
    | (.inr r, world) =>
      { world := world.moved, tasks := s.tasks.setIfInBounds i ⟨.inr r, started, world.now⟩ }
  | _ => s

/-- Every task runs as far as it comes, one after the other. -/
def pass (poll : Nat → ι → World → (ι ⊕ ρ) × World) (s : Scene ι ρ) : Scene ι ρ :=
  (List.range s.tasks.size).foldl (pollTask poll) s

/-- Everything runs until it can only wait. `clock` says whether the clock runs meanwhile; `fuel`
bounds the number of rounds. -/
def settleWithin (poll : Nat → ι → World → (ι ⊕ ρ) × World) (clock : Bool) :
    (fuel : Nat) → Scene ι ρ → Scene ι ρ
  | 0, s => s
  | fuel + 1, s =>
    let t := s.pass poll
    if t.world.moves ≠ s.world.moves then settleWithin poll clock fuel t
    else
      -- Nothing moved: only the clock can help, and it goes no further than the next pause.
      match if clock then t.world.nextWake? else none with
      | some wake => settleWithin poll clock fuel (t.onWorld fun w => { w with now := wake }.moved)
      | none => t

/-- More rounds than it takes to move everything that fits in memory byte by byte. -/
def rounds : Nat := 1 <<< 48

/-- Everything runs until it can only wait. -/
def settle (poll : Nat → ι → World → (ι ⊕ ρ) × World) (clock : Bool) (s : Scene ι ρ) :
    Scene ι ρ :=
  s.settleWithin poll clock rounds

/-- Every task that still runs is given up. -/
def stop (abandon : Nat → ι → World → World) (s : Scene ι ρ) : World :=
  (List.range s.tasks.size).foldl
    (fun w i =>
      match (s.tasks[i]?).map Task.state with
      | some (.inl job) => abandon i job w
      | _ => w) s.world

end Scene

/-! ## Calls on connections -/

/-- What a call gives. -/
inductive Answer where
  | count (n : Nat)
  | done
  | data (bs : Bytes)
  | target (text : String)
  | relayed (sent received : UInt64)
  deriving DecidableEq, Repr

/-- A call on a connection. -/
inductive Call where
  | write (data : Bytes)
  | read (n : Nat)
  | close
  | talk (t : Talk TunnelError TunnelError Answer)
  /-- A relay to a local stream, of which the task has the given end. -/
  | relay (inbound outbound : Nat) (r : Relay)

/-- A call and the number of its connection. -/
structure Job where
  conn : Nat
  call : Call

namespace Job

/-- What a call gives, where it may fail. -/
abbrev Result := Except TunnelError Answer

/-- The outcome of an operation as that of the call that is made of it. -/
def finish {α : Type} (job : Job) (answer : α → Answer) :
    Poll TunnelError α × World → (Job ⊕ Result) × World
  | (.waiting, w) => (.inl job, w)
  | (.ready a, w) => (.inr (.ok (answer a)), w.dropConn job.conn)
  | (.failed e, w) => (.inr (.error e), w.dropConn job.conn)

/-- A call of the given task runs as far as it comes. -/
def poll (owner : Nat) (job : Job) (w : World) : (Job ⊕ Result) × World :=
  match job.call with
  | .write data => job.finish .count (w.writeConn job.conn owner data)
  | .read n => job.finish .data (w.readConn job.conn owner n)
  | .close => job.finish (fun _ => .done) (w.closeConn job.conn owner)
  | .talk t =>
    match t.advance (World.connEnd job.conn owner) w with
    | (.done a, w) => (.inr (.ok a), w.dropConn job.conn)
    | (.fail e, w) => (.inr (.error e), w.dropConn job.conn)
    | (t, w) => (.inl { job with call := .talk t }, w)
  | .relay inbound outbound r =>
    match r.step (World.relayEnds inbound outbound job.conn owner) w with
    | (.finished result, w) =>
      let w := (w.closePipe inbound).closePipe outbound
      (.inr (result.map fun (sent, received) => .relayed sent received), w.dropConn job.conn)
    | (r, w) => (.inl { job with call := .relay inbound outbound r }, w)

/-- A call of the given task is given up. A relay that is given up lets go of its local stream. -/
def abandon (owner : Nat) (job : Job) (w : World) : World :=
  let w := match job.call with
    | .relay inbound outbound r =>
      let w := r.drop (World.relayEnds inbound outbound job.conn owner) w
      (w.closePipe inbound).closePipe outbound
    | _ => (w.abandonRead job.conn owner).abandonWrite job.conn owner
  w.dropConn job.conn

end Job

namespace Scene

/-- A new task makes a call on a connection. -/
def call (s : Scene Job Job.Result) (conn : Nat) (c : Call) : Scene Job Job.Result × Nat :=
  (s.onWorld (·.shareConn conn)).spawn ⟨conn, c⟩

/-- A new task relays between a connection and a new local stream. Its own end of that is the given
one. -/
def relay (s : Scene Job Job.Result) (conn inbound outbound : Nat) :
    Scene Job Job.Result × Nat :=
  (s.onWorld World.relayStarted).call conn (.relay inbound outbound .start)

end Scene

end SealedTunnel
