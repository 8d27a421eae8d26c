import SealedTunnel.Ends.Ingress
import SealedTunnel.Loopback.Scene

/-!
# A proxy in an in-memory world

One client of the proxy, with an opener that takes a given time and then either fails or hands out a
plain connection whose far end can be used from outside.

## Main definitions

* `Proxy`: the client's pipes, and how the opener behaves
* `Proxy.make`: a client that has just come
* `Proxy.poll`: the task that serves the client
-/

namespace SealedTunnel

/-- The pipes of a client, those of a stream that an opener hands out, and how the opener
behaves. -/
structure Proxy where
  /-- From the client, and to it. -/
  inbound : Nat
  outbound : Nat
  /-- From the far end of the opened stream, and to it. -/
  farInbound : Nat
  farOutbound : Nat
  /-- How long opening a stream takes. -/
  dialMs : Nat
  /-- How opening a stream fails, if it does. -/
  dialError : Option TunnelError

/-- A client that is being served. -/
abbrev ProxyScene := Scene (Ingress Nat) (Except ProxyError Unit)

namespace Proxy

/-- How many bytes each direction of an opened stream holds. -/
def farCapacity : Nat := 4194304

/-- The settings of an opened stream: data go through as they are. -/
def plain : Settings :=
  { obfuscation := .disabled }

/-- The opener; its progress is the time at which it answers. -/
def opener (p : Proxy) : Opener TunnelError Nat World where
  start target w := (w.now + p.dialMs, w.askFor target)
  resume wake w :=
    if w.now < wake then (.pending wake, w)
    else
      match p.dialError with
      | some e => (.refused e, w)
      | none =>
        let (w, conn) := w.addConn plain p.farInbound p.farOutbound 0
        (.opened conn, w)

/-- What the task of the given number works with. -/
def site (p : Proxy) (owner : Nat) : Ingress.Site Nat World where
  client := World.rawEnd p.inbound p.outbound
  now := World.now
  opener := p.opener
  relayTo conn := World.relayEnds p.inbound p.outbound conn owner
  warn line w := w.warn line

/-- The client's pipes are closed and the opened stream is given up. -/
def leave (p : Proxy) (w : World) : World :=
  ((w.closePipe p.inbound).closePipe p.outbound).dropConn 0

/-- Serving the client goes on. -/
def poll (p : Proxy) (owner : Nat) (i : Ingress Nat) (w : World) :
    (Ingress Nat ⊕ Except ProxyError Unit) × World :=
  match i.serve (p.site owner) w with
  | (.inl i, w) => (.inl i, w)
  | (.inr r, w) => (.inr r, p.leave w)

/-- Serving the client is given up. -/
def abandon (p : Proxy) (owner : Nat) (i : Ingress Nat) (w : World) : World :=
  p.leave <| match i with
    | .relaying stream relay => relay.drop ((p.site owner).relayTo stream) w
    | _ => w

/-- A client that has just come, whose pipes hold so many bytes each, and is to be served under a
time limit. -/
def make (entropy : Entropy) (capacity timeoutMs dialMs : Nat) (dialError : Option TunnelError) :
    Proxy × ProxyScene :=
  let w : World := { entropy, pools := #[.shared] }
  let (w, inbound) := w.addPipe capacity
  let (w, outbound) := w.addPipe capacity
  let (w, farInbound) := w.addPipe farCapacity
  let (w, farOutbound) := w.addPipe farCapacity
  let scene : ProxyScene := { world := w }
  (⟨inbound, outbound, farInbound, farOutbound, dialMs, dialError⟩,
    (scene.spawn (Ingress.start w.now timeoutMs)).1)

end Proxy

end SealedTunnel
