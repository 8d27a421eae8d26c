import SealedTunnel.Opening
import SealedTunnel.Relay
import SealedTunnel.Stream.Tunnel

/-!
# Egress: serving one connection

The far end of the tunnel serves a connection in stages: it reads under a deadline which target the
stream is for, connects to it, and relays. Nothing is ever connected to but the target that a
complete and well-formed header names.

## Main definitions

* `Egress.Site`: what serving a connection works with
* `Egress`: the stages
* `Egress.serve`: serving goes on as far as it comes
-/

namespace SealedTunnel

namespace Egress

/-- The milliseconds in which a connection has to have named its target, where nothing else is
said. -/
def targetTimeoutMs : Nat := 10000

/-- What serving a connection works with. -/
structure Site (δ σ : Type) where
  /-- The connection. -/
  tunnel : Duplex TunnelError σ
  now : σ → Nat
  connector : Opener ConnectError δ σ
  /-- The two ends of a relay between a stream to the target and the connection. -/
  relayTo : Nat → Relay.Ends σ
  /-- Counts a connection that could not be made. -/
  dialFailed : σ → σ

end Egress

/-- The stages of serving a connection. -/
inductive Egress (δ : Type) where
  /-- The target is being read, until a deadline. -/
  | receiving (deadline : Nat) (talk : Talk TunnelError TunnelError String)
  | connecting (progress : δ)
  | relaying (stream : Nat) (relay : Relay)

namespace Egress

/-- Serving has come to its end, with what it gives, or has to wait in a stage. -/
abbrev Outcome (δ : Type) := Egress δ ⊕ Except TunnelError Unit

variable {δ σ : Type}

/-- The relay goes on. -/
def relayOn (site : Site δ σ) (stream : Nat) (relay : Relay) (s : σ) : Outcome δ × σ :=
  match relay.step (site.relayTo stream) s with
  | (.finished (.ok _), s) => (.inr (.ok ()), s)
  | (.finished (.error e), s) => (.inr (.error e), s)
  | (relay, s) => (.inl (.relaying stream relay), s)

/-- Connecting to the target goes on. -/
def connectOn (site : Site δ σ) (progress : δ) (s : σ) : Outcome δ × σ :=
  match site.connector.resume progress s with
  | (.pending progress, s) => (.inl (.connecting progress), s)
  | (.opened stream, s) => relayOn site stream .start ((site.relayTo stream).started s)
  | (.refused e, s) => (.inr (.error (.dial e.message)), site.dialFailed s)

/-- Reading the target goes on. A header that is complete counts even at the deadline. -/
def receive (site : Site δ σ) (deadline : Nat) (talk : Talk TunnelError TunnelError String)
    (s : σ) : Outcome δ × σ :=
  match talk.advance site.tunnel s with
  | (.done target, s) =>
    let (progress, s) := site.connector.start target s
    connectOn site progress s
  | (.fail e, s) => (.inr (.error e), s)
  | (talk, s) =>
    if deadline ≤ site.now s then (.inr (.error (.timeout "target header")), s)
    else (.inl (.receiving deadline talk), s)

/-- Serving goes on as far as it comes. -/
def serve (site : Site δ σ) (e : Egress δ) (s : σ) : Outcome δ × σ :=
  match e with
  | .receiving deadline talk => receive site deadline talk s
  | .connecting progress => connectOn site progress s
  | .relaying stream relay => relayOn site stream relay s

/-- A connection that has just come, to be served under a time limit. -/
def start (now timeoutMs : Nat) : Egress δ :=
  .receiving (now + timeoutMs) Target.receive

end Egress

end SealedTunnel
