import SealedTunnel.Conn.Channel
import SealedTunnel.Ends.Dialing
import SealedTunnel.Proofs.Ends.Egress
import SealedTunnel.Proofs.Ends.Ingress
import SealedTunnel.Proofs.Relay.Steps
import SealedTunnel.Stats

/-!
# The two ends of a tunnel

At either end of a tunnel a task serves someone: it has one connection through the tunnel, local
streams beside it, a clock, counters and a log. What it works with is made of these: a local stream
and the connection are the two ends of its relay, at the near end the connection is what dialing
names the target on, and at the far end it is what the target is read from.

## Main definitions

* `Post`: what a task works on, and `Station`: what it works with
* `Station.ingress`, `Station.egress`: serving at the near end and at the far end
* `Ingress.Site.acted`, `Egress.Site.acted`: the same, where the acts of relays are written down
-/

namespace SealedTunnel

variable {ε δ α σ τ : Type}

/-- What a task works on that serves someone at one end of a tunnel. -/
structure Post (α τ : Type) where
  conn : Channel τ
  /-- The time until which a write pauses whose frame is out, and the bytes that this carried. -/
  pause : Option (Nat × Nat) := none
  stats : Stats := {}
  log : List String := []
  /-- The local streams, and all else that is not of the tunnel. -/
  self : α

/-- What such a task works with. -/
structure Station (δ α τ : Type) where
  settings : Settings
  /-- The stream under the connection. -/
  link : Carrier τ
  /-- Drops that stream. -/
  drop : τ → τ
  /-- Bounds the number of frames that carry nothing in one read. -/
  fuel : τ → Nat
  now : α → Nat
  connector : Opener ConnectError δ α

/-! ## Local streams -/

/-- The same stream for users whose failures are tunnel errors. -/
def Duplex.asTunnel (d : Duplex IoError σ) : Duplex TunnelError σ where
  read n s := let (r, s') := d.read n s; (r.map .io id, s')
  write bs s := let (r, s') := d.write bs s; (r.map .io id, s')

namespace Post

/-- The connection lies over another state of the stream. -/
def withStream (p : Post α τ) (stream : τ) : Post α τ :=
  { p with conn := { p.conn with stream } }

/-- A local stream. -/
def stream (d : Duplex IoError α) : Duplex IoError (Post α τ) where
  read n p := let (r, self) := d.read n p.self; (r, { p with self })
  write bs p := let (r, self) := d.write bs p.self; (r, { p with self })

/-- Whoever opens local streams. -/
def opener (o : Opener ε δ α) : Opener ε δ (Post α τ) where
  start target p := let (progress, self) := o.start target p.self; (progress, { p with self })
  resume progress p := let (answer, self) := o.resume progress p.self; (answer, { p with self })

end Post

/-! ## The connection -/

namespace Station

/-- The line of the log about a frame that does not open. -/
def tampered : String := "Frame failed authentication, possible tampering"

/-- Reads at most `n` bytes of data. -/
def read (st : Station δ α τ) (n : Nat) (p : Post α τ) : Poll TunnelError Bytes × Post α τ :=
  match p.conn.read st.settings st.link (st.fuel p.conn.stream) 0 n with
  | (.failed .authentication, conn) =>
    (.failed .authentication, { p with conn, log := tampered :: p.log })
  | (r, conn) => (r, { p with conn })

/-- A write on the connection has come this far. It is over when its frame is out, and a pause if a
delay was drawn. -/
def wrote (st : Station δ α τ) (p : Post α τ) :
    Poll TunnelError (Nat × Option UInt64) × Channel τ → Poll TunnelError Nat × Post α τ
  | (.waiting, conn) => (.waiting, { p with conn })
  | (.failed e, conn) => (.failed e, { p with conn })
  | (.ready (n, none), conn) => (.ready n, { p with conn })
  | (.ready (n, some delay), conn) =>
    (.waiting, { p with conn, pause := some (st.now p.self + delay.toNat, n) })

/-- Writes the first bytes of the data as one frame, or goes on with that. -/
def write (st : Station δ α τ) (data : Bytes) (p : Post α τ) : Poll TunnelError Nat × Post α τ :=
  match p.pause with
  | some (wakeAt, n) =>
    if st.now p.self < wakeAt then (.waiting, p) else (.ready n, { p with pause := none })
  | none => st.wrote p (p.conn.write st.settings st.link 0 data)

/-- The connection as a stream. -/
def tunnel (st : Station δ α τ) : Duplex TunnelError (Post α τ) :=
  ⟨st.read, st.write⟩

/-- The two ends of a relay between a local stream and the connection. -/
def ends (st : Station δ α τ) (d : Duplex IoError α) (close : α → α) : Relay.Ends (Post α τ) where
  near := (Post.stream d).asTunnel
  tunnel := st.tunnel
  started p := { p with stats := p.stats.relayStarted }
  ended p := { p with stats := p.stats.relayEnded }
  countUp n p := { p with stats := p.stats.addSent n }
  countDown n p := { p with stats := p.stats.addReceived n }
  abandon p := { p with conn := (p.conn.abandonRead 0).leave 0, pause := none }
  closeTunnel p := let (r, conn) := p.conn.close st.link 0; (r, { p with conn })
  closeNear p := { p with self := close p.self }

/-- A task that has come to its end drops its connection, and whatever it was about there. -/
def leave (st : Station δ α τ) (p : Post α τ) : Post α τ :=
  { p with conn := (p.conn.abandonRead 0).leave 0 }.withStream (st.drop p.conn.stream)

/-! ## Serving -/

/-- What dialing the far end works with. -/
def dialer (st : Station δ α τ) (far : String) : Dialer δ (Post α τ) where
  far
  connector := Post.opener st.connector
  wrap raw p :=
    (raw, { p with conn := { pool := p.conn.pool, entropy := p.conn.entropy,
                             stream := p.conn.stream }, pause := none })
  tunnel _ := st.tunnel
  discard _ := st.leave
  dialFailed p := { p with stats := p.stats.dialFailed }

/-- What serving a client at the near end works with. -/
def ingress (st : Station δ α τ) (far : String) (client : Duplex IoError α) (close : α → α) :
    Ingress.Site (Dialing δ) (Post α τ) where
  client := Post.stream client
  now p := st.now p.self
  opener := Dialing.opener (st.dialer far)
  relayTo _ := st.ends client close
  warn line p := { p with log := line :: p.log }

/-- What serving a connection at the far end works with. -/
def egress (st : Station δ α τ) (target : Nat → Duplex IoError α) (close : Nat → α → α) :
    Egress.Site δ (Post α τ) where
  tunnel := st.tunnel
  now p := st.now p.self
  connector := Post.opener st.connector
  relayTo stream := st.ends (target stream) (close stream)
  dialFailed p := { p with stats := p.stats.dialFailed }

/-- Reading works on the connection alone, but for the log. -/
theorem read_eq (st : Station δ α τ) (n : Nat) (p : Post α τ) :
    let r := p.conn.read st.settings st.link (st.fuel p.conn.stream) 0 n
    ∃ log, st.read n p = (r.1, { p with conn := r.2, log }) := by
  unfold read
  split
  · rename_i hr
    rw [hr]
    exact ⟨_, rfl⟩
  · rename_i hr
    rw [hr]
    exact ⟨_, rfl⟩

end Station

/-! ## Acts -/

/-- What happens while a task serves someone, where the acts of relays are written down. -/
abbrev Post.Log (ε α τ : Type) : Type := List (Incident ε (Post α τ × List Relay.Act))

/-- Whoever opens streams, next to something that it leaves alone. -/
def Opener.beside (τ : Type) (o : Opener ε δ σ) : Opener ε δ (σ × τ) where
  start target s := let (progress, s') := o.start target s.1; (progress, s', s.2)
  resume progress s := let (answer, s') := o.resume progress s.1; (answer, s', s.2)

/-- The same site; the acts of relays are written down. -/
def Ingress.Site.acted (site : Site δ σ) : Site δ (σ × List Relay.Act) where
  client := site.client.beside _
  now s := site.now s.1
  opener := site.opener.beside _
  relayTo stream := (site.relayTo stream).recorded
  warn text s := (site.warn text s.1, s.2)

theorem Ingress.Site.within_acted (site : Site δ σ) : site.acted.Within Prod.fst site where
  client := site.client.within_beside
  now _ := rfl
  opener := ⟨fun _ _ => rfl, fun _ _ => rfl⟩
  relayTo stream := (site.relayTo stream).within_recorded
  warn _ _ := rfl

/-- The same site; the acts of relays are written down. -/
def Egress.Site.acted (site : Site δ σ) : Site δ (σ × List Relay.Act) where
  tunnel := site.tunnel.beside _
  now s := site.now s.1
  connector := site.connector.beside _
  relayTo stream := (site.relayTo stream).recorded
  dialFailed s := (site.dialFailed s.1, s.2)

theorem Egress.Site.within_acted (site : Site δ σ) : site.acted.Within Prod.fst site where
  tunnel := site.tunnel.within_beside
  now _ := rfl
  connector := ⟨fun _ _ => rfl, fun _ _ => rfl⟩
  relayTo stream := (site.relayTo stream).within_recorded
  dialFailed _ := rfl

end SealedTunnel
