import SealedTunnel.Opening
import SealedTunnel.Relay
import SealedTunnel.Socks.Session

/-!
# Ingress: serving one client

A client of the proxy is served in stages: greeting and request under a deadline, then opening a
stream to the target, then an answer, then a relay. Each stage can be put aside wherever it has to
wait. The stages know the client, the opener and the relay only through their operations.

## Main definitions

* `Ingress.Site`: what serving a client works with
* `Ingress`: the stages
* `Ingress.serve`: serving goes on as far as it comes
-/

namespace SealedTunnel

namespace Ingress

/-- The milliseconds in which a client has to have made its request, where nothing else is said. -/
def handshakeTimeoutMs : Nat := 5000

/-- What serving a client works with. -/
structure Site (δ σ : Type) where
  client : Duplex IoError σ
  now : σ → Nat
  opener : Opener TunnelError δ σ
  /-- The two ends of a relay between the client and an opened stream. -/
  relayTo : Nat → Relay.Ends σ
  warn : String → σ → σ

end Ingress

/-- The stages of serving a client. -/
inductive Ingress (δ : Type) where
  /-- Greeting and request, until a deadline. -/
  | greeting (deadline : Nat) (talk : Socks.Session.Call Address)
  | opening (session : Socks.Session) (target : String) (progress : δ)
  /-- The client is told that its target cannot be reached. -/
  | refusing (target : String) (why : TunnelError) (talk : Socks.Session.Call Unit)
  /-- The client is told that its target has been reached. -/
  | accepting (stream : Nat) (talk : Socks.Session.Call Unit)
  /-- The client could not be told; the stream is closed. -/
  | retreating (stream : Nat) (why : ProxyError)
  | relaying (stream : Nat) (relay : Relay)

namespace Ingress

/-- Serving has come to its end, with what it gives, or has to wait in a stage. -/
abbrev Outcome (δ : Type) := Ingress δ ⊕ Except ProxyError Unit

variable {δ σ : Type}

/-- The relay goes on. -/
def relayOn (site : Site δ σ) (stream : Nat) (relay : Relay) (s : σ) : Outcome δ × σ :=
  match relay.step (site.relayTo stream) s with
  | (.finished (.ok _), s) => (.inr (.ok ()), s)
  | (.finished (.error e), s) => (.inr (.error (.tunnel e)), s)
  | (relay, s) => (.inl (.relaying stream relay), s)

/-- Closing the stream goes on; how that ends does not matter. -/
def retreat (site : Site δ σ) (stream : Nat) (why : ProxyError) (s : σ) : Outcome δ × σ :=
  match (site.relayTo stream).closeTunnel s with
  | (.waiting, s) => (.inl (.retreating stream why), s)
  | (_, s) => (.inr (.error why), s)

/-- The answer "succeeded" goes on. -/
def accept (site : Site δ σ) (stream : Nat) (talk : Socks.Session.Call Unit) (s : σ) :
    Outcome δ × σ :=
  match talk.advance site.client s with
  | (.done _, s) => relayOn site stream .start ((site.relayTo stream).started s)
  | (.fail (why, _), s) => retreat site stream why s
  | (talk, s) => (.inl (.accepting stream talk), s)

/-- The answer "host unreachable" goes on. A client that cannot be told is the failure that
counts. -/
def refuse (site : Site δ σ) (target : String) (why : TunnelError)
    (talk : Socks.Session.Call Unit) (s : σ) : Outcome δ × σ :=
  match talk.advance site.client s with
  | (.done _, s) => (.inr (.error (.dial target why)), s)
  | (.fail (e, _), s) => (.inr (.error e), s)
  | (talk, s) => (.inl (.refusing target why talk), s)

/-- What is logged about a target that cannot be reached. -/
def warning (target : String) (why : TunnelError) : String :=
  (ProxyError.dial target why).message

/-- Opening a stream to the target goes on. -/
def openOn (site : Site δ σ) (session : Socks.Session) (target : String) (progress : δ) (s : σ) :
    Outcome δ × σ :=
  match site.opener.resume progress s with
  | (.pending progress, s) => (.inl (.opening session target progress), s)
  | (.opened stream, s) => accept site stream (session.reply .succeeded) s
  | (.refused why, s) =>
    refuse site target why (session.reply .hostUnreachable) (site.warn (warning target why) s)

/-- Greeting and request go on. A request that is complete counts even at the deadline. -/
def greet (site : Site δ σ) (deadline : Nat) (talk : Socks.Session.Call Address) (s : σ) :
    Outcome δ × σ :=
  match talk.advance site.client s with
  | (.done (address, session), s) =>
    let target := address.text
    let (progress, s) := site.opener.start target s
    openOn site session target progress s
  | (.fail (e, _), s) => (.inr (.error e), s)
  | (talk, s) =>
    -- Only a client that makes us wait can run out of time.
    if deadline ≤ site.now s then (.inr (.error .handshakeTimeout), s)
    else (.inl (.greeting deadline talk), s)

/-- Serving goes on as far as it comes. -/
def serve (site : Site δ σ) (i : Ingress δ) (s : σ) : Outcome δ × σ :=
  match i with
  | .greeting deadline talk => greet site deadline talk s
  | .opening session target progress => openOn site session target progress s
  | .refusing target why talk => refuse site target why talk s
  | .accepting stream talk => accept site stream talk s
  | .retreating stream why => retreat site stream why s
  | .relaying stream relay => relayOn site stream relay s

/-- A client that has just come, to be served under a time limit. -/
def start (now timeoutMs : Nat) : Ingress δ :=
  .greeting (now + timeoutMs) Socks.Session.handshake

end Ingress

end SealedTunnel
