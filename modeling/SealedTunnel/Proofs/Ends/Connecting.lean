import SealedTunnel.Ends.Dialing
import SealedTunnel.Ends.Egress
import SealedTunnel.Proofs.Relay.Counting

/-!
# What connecting counts

Both ends of the tunnel connect to a host: the near end to the far one, the far end to the target.
A connection that cannot be made is counted, once, and that is the end of the stream. Whatever else
goes wrong before there is a relay, and whatever goes well, leaves the counters alone.

## Main definitions

* `Opener.Leaves`, `Dialer.Counts`, `Egress.Site.Counts`: what dialing and serving work with, where
  they count on counters in their state
* `Dialing.answer?`, `Egress.answer?`: what the host answers, where it is asked

## Main results

* `Dialing.counts_resume`, `Egress.counts_serve`: what each poll counts
-/

namespace SealedTunnel

variable {δ ε σ κ α : Type}

/-- A conversation leaves alone what its stream leaves alone. -/
theorem Duplex.Leaves.advance {d : Duplex δ σ} {view : σ → κ} (h : d.Leaves view)
    (t : Talk δ ε α) (s : σ) : view (t.advance d s).2 = view s :=
  t.advance_keeps_both (P := fun s' => view s' = view s) (fun n _ hs => (h.read n _).trans hs)
    (fun bs _ hs => (h.write bs _).trans hs) rfl

/-- The opener leaves alone what `view` shows of the state. -/
structure Opener.Leaves (o : Opener ε δ σ) (view : σ → κ) : Prop where
  start : ∀ target s, view (o.start target s).2 = view s
  resume : ∀ progress s, view (o.resume progress s).2 = view s

/-! ## Dialing -/

/-- Dialing counts on the counters that `view` shows; what it works with leaves them alone. -/
structure Dialer.Counts (d : Dialer δ σ) (view : σ → Stats) : Prop where
  connector : d.connector.Leaves view
  wrap : ∀ raw s, view (d.wrap raw s).2 = view s
  tunnel : ∀ conn, (d.tunnel conn).Leaves view
  discard : ∀ conn s, view (d.discard conn s) = view s
  dialFailed : ∀ s, view (d.dialFailed s) = (view s).dialFailed

namespace Dialing

/-- What the far end answers, while the connection to it is being made. -/
def answer? (d : Dialer δ σ) : Dialing δ → σ → Option (Opening ConnectError δ × σ)
  | .connecting _ progress, s => some (d.connector.resume progress s)
  | .naming _ _, _ => none

/-- What a poll of dialing comes to, by what the far end answers in it. -/
def Polled (d : Dialer δ σ) (view : σ → Stats) (s : σ)
    (r : Opening TunnelError (Dialing δ) × σ) : Option (Opening ConnectError δ × σ) → Prop
  | some (.refused why, s') =>
    view (d.dialFailed s') = (view s).dialFailed ∧
      r = (.refused (.dial why.message), d.dialFailed s')
  | some (.pending _, _) | some (.opened _, _) | none => view r.2 = view s

variable {d : Dialer δ σ} {view : σ → Stats}

/-- Naming the target counts nothing, and neither does giving the connection up. -/
theorem counts_name (h : d.Counts view) (conn : Nat) (talk : Talk TunnelError TunnelError Unit)
    (s : σ) : view (name d conn talk s).2 = view s := by
  have htalk := (h.tunnel conn).advance talk s
  unfold name
  generalize talk.advance (d.tunnel conn) s = r at htalk
  obtain ⟨talk', s'⟩ := r
  cases talk' with
  | fail e => exact (h.discard conn s').trans htalk
  | done | need | send => exact htalk

/-- **Only a connection that cannot be made is counted**, once, and dialing has failed then. -/
theorem counts_resume (h : d.Counts view) (p : Dialing δ) (s : σ) :
    Polled d view s (p.resume d s) (p.answer? d s) := by
  cases p with
  | naming conn talk => exact counts_name h conn talk s
  | connecting target progress =>
    have hanswer := h.connector.resume progress s
    unfold answer? resume
    dsimp only
    generalize d.connector.resume progress s = r at hanswer
    obtain ⟨answer, s'⟩ := r
    cases answer with
    | pending => exact hanswer
    | refused why =>
      refine ⟨?_, rfl⟩
      rw [h.dialFailed, hanswer]
    | opened raw => exact (counts_name h _ _ _).trans ((h.wrap raw s').trans hanswer)

end Dialing

/-! ## Serving -/

namespace Egress

/-- Serving and its relays count on the counters that `view` shows; what else it works with leaves
them alone. -/
structure Site.Counts (site : Site δ σ) (view : σ → Stats) : Prop where
  tunnel : site.tunnel.Leaves view
  connector : site.connector.Leaves view
  relayTo : ∀ stream, (site.relayTo stream).Counts view
  dialFailed : ∀ s, view (site.dialFailed s) = (view s).dialFailed

/-- There is no relay yet. -/
def Early : Egress δ → Prop
  | .receiving _ _ | .connecting _ => True
  | .relaying _ _ => False

/-- What the target answers, where the connection to it is being made. -/
def answer? (site : Site δ σ) : Egress δ → σ → Option (Opening ConnectError δ × σ)
  | .receiving _ talk, s =>
    match talk.advance site.tunnel s with
    | (.done target, s) =>
      let (progress, s) := site.connector.start target s
      some (site.connector.resume progress s)
    | (_, _) => none
  | .connecting progress, s => some (site.connector.resume progress s)
  | .relaying _ _, _ => none

/-- What a poll before the relay comes to, by what the target answers in it. -/
def Polled (site : Site δ σ) (view : σ → Stats) (s : σ) (r : Outcome δ × σ) :
    Option (Opening ConnectError δ × σ) → Prop
  | some (.opened stream, s') =>
    view s' = view s ∧ r = relayOn site stream .start ((site.relayTo stream).started s')
  | some (.refused why, s') =>
    view (site.dialFailed s') = (view s).dialFailed ∧
      r = (.inr (.error (.dial why.message)), site.dialFailed s')
  | some (.pending progress, s') => view s' = view s ∧ r = (.inl (.connecting progress), s')
  | none => view r.2 = view s ∧ ∀ stream relay, r.1 ≠ .inl (.relaying stream relay)

variable {site : Site δ σ} {view : σ → Stats} {s : σ}

theorem polled_connectOn (h : site.Counts view) (progress : δ) {s' : σ} (hs : view s' = view s) :
    Polled site view s (connectOn site progress s') (some (site.connector.resume progress s')) := by
  have hanswer := (h.connector.resume progress s').trans hs
  unfold connectOn
  generalize site.connector.resume progress s' = r at hanswer
  obtain ⟨answer, s''⟩ := r
  cases answer with
  | pending | opened => exact ⟨hanswer, rfl⟩
  | refused why =>
    refine ⟨?_, rfl⟩
    rw [h.dialFailed, hanswer]

/-- **Before the relay, only a connection that cannot be made is counted**, once, and serving has
failed then. -/
theorem counts_serve (h : site.Counts view) {e : Egress δ} (he : e.Early) (s : σ) :
    Polled site view s (e.serve site s) (e.answer? site s) := by
  cases e with
  | relaying => exact he.elim
  | connecting progress => exact polled_connectOn h progress rfl
  | receiving deadline talk =>
    have htalk := h.tunnel.advance talk s
    unfold answer? serve receive
    dsimp only
    generalize talk.advance site.tunnel s = r at htalk
    obtain ⟨talk', s'⟩ := r
    cases talk' with
    | done target => exact polled_connectOn h _ ((h.connector.start target s').trans htalk)
    | fail e => exact ⟨htalk, nofun⟩
    | need | send =>
      dsimp only
      split
      · exact ⟨htalk, nofun⟩
      · exact ⟨htalk, nofun⟩

end Egress

end SealedTunnel
