import SealedTunnel.Error

/-!
# Admission

The far end serves a limited number of connections at a time. There is a permit for each; the loop
that accepts connections takes a permit first, waits for a connection while it holds it, and hands
it on to whoever serves the connection, who gives it back in the end. After a failed attempt to
accept the loop pauses and gives its permit back.

## Main definitions

* `Admission`: the permits and where the accepting loop stands
* `Admission.move?`: what the loop, and those it started, may do next
* `Admission.step`: what an event does, and the loop by itself behind it
-/

namespace SealedTunnel

/-- Where the loop that accepts connections stands. -/
inductive AcceptPhase where
  /-- It waits for a permit. -/
  | awaitPermit
  /-- It holds a permit and waits for a connection. -/
  | awaitConnection
  /-- It holds a permit and pauses after a failed attempt. -/
  | pausing
  /-- It has ended. -/
  | ended
  deriving DecidableEq, Repr

/-- The permits, and where the accepting loop stands. -/
structure Admission where
  /-- The permits that nobody holds. -/
  free : Nat
  /-- The connections that are being served, each with a permit, in the order in which they came. -/
  serving : List Nat := []
  /-- How many connections have come; also the number by which the next one is known. -/
  came : Nat := 0
  phase : AcceptPhase := .awaitPermit
  /-- Whether the end was asked for. -/
  stopping : Bool := false
  deriving DecidableEq, Repr

/-- How serving a connection comes to its end. -/
inductive Leaving where
  | finished
  | failed (error : TunnelError)
  /-- Whoever served it was given up. -/
  | dropped
  deriving DecidableEq, Repr

/-- What happens to the accepting loop and those it started. -/
inductive AdmissionEvent where
  | connectionCame
  | acceptFailed (error : IoError)
  | pauseOver
  | servingEnded (connection : Nat) (how : Leaving)
  | stopAsked
  deriving DecidableEq, Repr

/-- A step of the accepting loop, or of those it started. -/
inductive AdmissionMove where
  | event (e : AdmissionEvent)
  | takesPermit
  | ends
  deriving DecidableEq, Repr

namespace Admission

/-- The most permits that can be given out. -/
def permitLimit : Nat := (UInt64.size - 1) >>> 3

/-- How many permits there are for a configured limit: at least one. -/
def permits (maxConnections : Nat) : Nat :=
  max maxConnections 1

/-- The loop before its first step. -/
def initial (maxConnections : Nat) : Admission :=
  { free := permits maxConnections }

/-- What an event does, if it can happen in the present phase. -/
def event? (a : Admission) : AdmissionEvent → Option Admission
  | .connectionCame =>
    if a.phase = .awaitConnection then
      some { a with serving := a.serving ++ [a.came], came := a.came + 1, phase := .awaitPermit }
    else none
  | .acceptFailed _ =>
    if a.phase = .awaitConnection then some { a with phase := .pausing } else none
  | .pauseOver =>
    if a.phase = .pausing then some { a with free := a.free + 1, phase := .awaitPermit } else none
  | .servingEnded connection _ =>
    if a.serving.contains connection then
      some { a with serving := a.serving.erase connection, free := a.free + 1 }
    else none
  | .stopAsked => some { a with stopping := true }

/-- The loop takes a permit if it waits for one and one is free. -/
def takePermit? (a : Admission) : Option Admission :=
  if a.phase = .awaitPermit ∧ a.free ≠ 0 then
    some { a with free := a.free - 1, phase := .awaitConnection }
  else none

/-- The loop ends if that was asked for and it waits for something else; a permit that it holds goes
back. While it pauses it does not look. -/
def end? (a : Admission) : Option Admission :=
  if a.stopping then
    match a.phase with
    | .awaitPermit => some { a with phase := .ended }
    | .awaitConnection => some { a with free := a.free + 1, phase := .ended }
    | .pausing | .ended => none
  else none

/-- What comes of a step, if it can be made now. If the end was asked for and what the loop waits
for has come as well, it may see either of them first. -/
def move? (a : Admission) : AdmissionMove → Option Admission
  | .event e => a.event? e
  | .takesPermit => a.takePermit?
  | .ends => a.end?

/-- What comes of steps, one after the other. -/
def moves? : Admission → List AdmissionMove → Option Admission
  | a, [] => some a
  | a, m :: ms => (a.move? m).bind fun a => moves? a ms

/-- The loop goes on by itself: it ends if it can, and else takes a permit if it can. -/
def settle (a : Admission) : Admission :=
  (a.end?.or a.takePermit?).getD a

/-- The loop at its start. There is none for more permits than can be given out. -/
def start? (maxConnections : Nat) : Option Admission :=
  if permits maxConnections ≤ permitLimit then some (initial maxConnections).settle else none

/-- What an event does. One that cannot happen in the present phase does nothing. -/
def step (a : Admission) (event : AdmissionEvent) : Admission :=
  ((a.event? event).map settle).getD a

/-- The loop after a sequence of events. -/
def run (a : Admission) (events : List AdmissionEvent) : Admission :=
  events.foldl step a

end Admission

end SealedTunnel
