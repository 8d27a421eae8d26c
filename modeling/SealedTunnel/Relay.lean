import SealedTunnel.Stream.Tunnel

/-!
# Relaying

A relay copies both ways between a local stream and a tunnel stream, until either direction ends or
fails; then it closes both. Each direction is a lane: it reads a chunk, writes all of it, counts it,
and reads on. A lane can be put aside at any point.

## Main definitions

* `Lane`: one direction, with `Lane.step`
* `Relay`: both directions, and what is left to do once one of them has ended
* `Relay.step`, `Relay.drop`: a relay goes on, and is given up
-/

namespace SealedTunnel

/-- One direction of a relay. -/
structure Lane where
  /-- What is still to be written of the chunk in hand. -/
  unsent : Bytes := []
  /-- The length of the chunk in hand. -/
  chunk : Nat := 0
  /-- The bytes of all chunks that were written in full. -/
  moved : UInt64 := 0
  deriving DecidableEq, Repr, Inhabited

/-- Where a lane stands after a step. -/
inductive LaneState where
  /-- It has to wait, or may go on. -/
  | running (lane : Lane)
  /-- Its source has ended. -/
  | ended (lane : Lane)
  | failed (lane : Lane) (error : TunnelError)

namespace Lane

/-- The most bytes of a chunk. -/
def chunkLimit : Nat := 131072

/-- Writes what is left of the chunk in hand, and counts the chunk once that is done. -/
def write {σ : Type} (out : Duplex TunnelError σ) (stuck : TunnelError)
    (count : UInt64 → σ → σ) (l : Lane) (s : σ) : LaneState × σ :=
  match out.deliver l.unsent s with
  | (.complete _, s) =>
    (.running { unsent := [], chunk := 0, moved := l.moved + l.chunk.toUInt64 },
      count l.chunk.toUInt64 s)
  | (.partway rest, s) => (.running { l with unsent := rest }, s)
  | (.stopped (.ended _), s) => (.failed l stuck, s)
  | (.stopped (.broken e), s) => (.failed l e, s)

/-- One step of a lane: it goes on with the chunk in hand, or reads the next one and starts to
write it. -/
def step {σ : Type} (source out : Duplex TunnelError σ) (stuck : TunnelError)
    (count : UInt64 → σ → σ) (l : Lane) (s : σ) : LaneState × σ :=
  if l.unsent.isEmpty then
    match source.read chunkLimit s with
    | (.waiting, s) => (.running l, s)
    | (.failed e, s) => (.failed l e, s)
    | (.ready [], s) => (.ended l, s)
    | (.ready chunk, s) => write out stuck count { l with unsent := chunk, chunk := chunk.length } s
  else write out stuck count l s

end Lane

/-- How a relay ends: the bytes that went into the tunnel and those that came out of it, or the
failure of the lane that ended first. -/
abbrev RelayResult := Except TunnelError (UInt64 × UInt64)

/-- A relay. -/
inductive Relay where
  | copying (up down : Lane)
  /-- The tunnel stream is being closed. -/
  | closing (result : RelayResult)
  | finished (result : RelayResult)

namespace Relay

/-- A relay that has copied nothing. -/
def start : Relay := .copying {} {}

/-- What both ends of a relay offer to it, on a common state. -/
structure Ends (σ : Type) where
  near : Duplex TunnelError σ
  tunnel : Duplex TunnelError σ
  /-- Counts the relay as one that runs, and as one that no longer does. -/
  started : σ → σ
  ended : σ → σ
  /-- Counts bytes that went into the tunnel, and bytes that came out of it. -/
  countUp : UInt64 → σ → σ
  countDown : UInt64 → σ → σ
  /-- Gives up the read or the write of the lane that did not end first. -/
  abandon : σ → σ
  /-- Closes the tunnel stream; whether that went well does not matter. -/
  closeTunnel : σ → Poll TunnelError Unit × σ
  /-- Closes the local stream. -/
  closeNear : σ → σ

variable {σ : Type}

/-- A step of the lane into the tunnel. -/
def stepUp (e : Ends σ) (up down : Lane) (s : σ) : Relay × σ :=
  match up.step e.near e.tunnel .closed e.countUp s with
  | (.running up, s) => (.copying up down, s)
  | (.ended up, s) => (.closing (.ok (up.moved, down.moved)), e.abandon s)
  | (.failed _ error, s) => (.closing (.error error), e.abandon s)

/-- A step of the lane out of the tunnel. -/
def stepDown (e : Ends σ) (up down : Lane) (s : σ) : Relay × σ :=
  match down.step e.tunnel e.near (.io .nothingTaken) e.countDown s with
  | (.running down, s) => (.copying up down, s)
  | (.ended down, s) => (.closing (.ok (up.moved, down.moved)), e.abandon s)
  | (.failed _ error, s) => (.closing (.error error), e.abandon s)

/-- A step of the closing: the tunnel stream first, then the local one. -/
def stepClose (e : Ends σ) (result : RelayResult) (s : σ) : Relay × σ :=
  match e.closeTunnel s with
  | (.waiting, s) => (.closing result, s)
  | (_, s) => (.finished result, e.ended (e.closeNear s))

/-- One step of the relay, where the lane into the tunnel goes first. -/
def step (e : Ends σ) (r : Relay) (s : σ) : Relay × σ :=
  match r with
  | .copying up down =>
    match stepUp e up down s with
    | (.copying up down, s) => stepDown e up down s
    | ended => ended
  | .closing result => stepClose e result s
  | .finished result => (.finished result, s)

/-- The relay is given up. One that has not finished gives up what its lanes or its closing are at,
closes nothing, and no longer runs. -/
def drop (e : Ends σ) (r : Relay) (s : σ) : σ :=
  match r with
  | .copying _ _ | .closing _ => e.ended (e.abandon s)
  | .finished _ => s

end Relay

end SealedTunnel
