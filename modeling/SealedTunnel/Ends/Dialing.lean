import SealedTunnel.Opening
import SealedTunnel.Relay
import SealedTunnel.Stream.Tunnel

/-!
# Dialing through the tunnel

The near end of the tunnel opens a stream to a target by connecting to the far end and naming the
target there. Each stream has a connection of its own.

## Main definitions

* `Dialing.opener`: streams to targets by way of the far end
-/

namespace SealedTunnel

/-- What dialing works with. -/
structure Dialer (δ σ : Type) where
  /-- The address of the far end. -/
  far : String
  connector : Opener ConnectError δ σ
  /-- Wraps a raw stream in a connection. -/
  wrap : Nat → σ → Nat × σ
  /-- A connection as a stream. -/
  tunnel : Nat → Duplex TunnelError σ
  /-- Gives a connection up. -/
  discard : Nat → σ → σ
  /-- Counts a connection that could not be made. -/
  dialFailed : σ → σ

/-- How far dialing has come. -/
inductive Dialing (δ : Type) where
  | connecting (target : String) (progress : δ)
  /-- The target is being named. -/
  | naming (conn : Nat) (talk : Talk TunnelError TunnelError Unit)

namespace Dialing

variable {δ σ : Type}

/-- Names the target as far as the stream lets it. A connection on which that fails is given up. -/
def name (d : Dialer δ σ) (conn : Nat) (talk : Talk TunnelError TunnelError Unit) (s : σ) :
    Opening TunnelError (Dialing δ) × σ :=
  match talk.advance (d.tunnel conn) s with
  | (.done _, s) => (.opened conn, s)
  | (.fail e, s) => (.refused e, d.discard conn s)
  | (talk, s) => (.pending (.naming conn talk), s)

/-- Goes on with dialing. Only a connection that cannot be made is counted as a failed dial. -/
def resume (d : Dialer δ σ) (p : Dialing δ) (s : σ) : Opening TunnelError (Dialing δ) × σ :=
  match p with
  | .connecting target progress =>
    match d.connector.resume progress s with
    | (.pending progress, s) => (.pending (.connecting target progress), s)
    | (.refused e, s) => (.refused (.dial e.message), d.dialFailed s)
    | (.opened raw, s) =>
      let (conn, s) := d.wrap raw s
      name d conn (Target.send target) s
  | .naming conn talk => name d conn talk s

/-- Opens streams to targets by way of the far end. -/
def opener (d : Dialer δ σ) : Opener TunnelError (Dialing δ) σ where
  start target s :=
    let (progress, s) := d.connector.start d.far s
    (.connecting target progress, s)
  resume := resume d

end Dialing

end SealedTunnel
