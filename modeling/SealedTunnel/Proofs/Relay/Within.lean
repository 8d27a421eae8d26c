import SealedTunnel.Proofs.Stream.Within
import SealedTunnel.Relay

/-!
# Relays within a larger state

Where the ends of a relay do to one part of a larger state what other ends do to that part alone,
the relay takes the same course. What its ends leave alone, the relay leaves alone.

## Main definitions

* `Relay.Ends.Within`: the ends of a relay within a larger state
* `Relay.Ends.Keeps`: what the ends of a relay leave alone

## Main results

* `Relay.step_within`: a step of a relay within a larger state
* `Relay.step_keeps`: what is kept at both ends, a relay keeps
-/

namespace SealedTunnel

open Relay

variable {σ σ' : Type} {π : σ' → σ}

/-- The ends `e'` do to the part `π` of their state what `e` do. -/
structure Relay.Ends.Within (π : σ' → σ) (e' : Ends σ') (e : Ends σ) : Prop where
  near : e'.near.Within π e.near
  tunnel : e'.tunnel.Within π e.tunnel
  started : ∀ s, π (e'.started s) = e.started (π s)
  ended : ∀ s, π (e'.ended s) = e.ended (π s)
  countUp : ∀ n s, π (e'.countUp n s) = e.countUp n (π s)
  countDown : ∀ n s, π (e'.countDown n s) = e.countDown n (π s)
  abandon : ∀ s, π (e'.abandon s) = e.abandon (π s)
  closeTunnel : ∀ s, e.closeTunnel (π s) = Prod.map id π (e'.closeTunnel s)
  closeNear : ∀ s, π (e'.closeNear s) = e.closeNear (π s)

namespace Lane

variable {source' out' : Duplex TunnelError σ'} {source out : Duplex TunnelError σ}
  {count' : UInt64 → σ' → σ'} {count : UInt64 → σ → σ} {stuck : TunnelError}

theorem write_within (hout : out'.Within π out) (hcount : ∀ n s, π (count' n s) = count n (π s))
    (l : Lane) (s : σ') :
    l.write out stuck count (π s) = Prod.map id π (l.write out' stuck count' s) := by
  unfold write
  rw [hout.deliver]
  generalize out'.deliver l.unsent s = r
  obtain ⟨transfer, s'⟩ := r
  cases transfer with
  | complete =>
    dsimp only [Prod.map]
    rw [hcount]
    rfl
  | partway rest => rfl
  | stopped why => cases why <;> rfl

theorem step_within (hsource : source'.Within π source) (hout : out'.Within π out)
    (hcount : ∀ n s, π (count' n s) = count n (π s)) (l : Lane) (s : σ') :
    l.step source out stuck count (π s) = Prod.map id π (l.step source' out' stuck count' s) := by
  unfold step
  split
  · rw [hsource.read]
    generalize source'.read chunkLimit s = r
    obtain ⟨outcome, s'⟩ := r
    cases outcome with
    | ready bs =>
      cases bs with
      | nil => rfl
      | cons b bs => exact write_within hout hcount _ s'
    | failed | waiting => rfl
  · exact write_within hout hcount l s

end Lane

namespace Relay

variable {e' : Ends σ'} {e : Ends σ}

theorem stepUp_within (h : e'.Within π e) (up down : Lane) (s : σ') :
    stepUp e up down (π s) = Prod.map id π (stepUp e' up down s) := by
  unfold stepUp
  rw [Lane.step_within h.near h.tunnel h.countUp]
  generalize up.step e'.near e'.tunnel .closed e'.countUp s = r
  obtain ⟨state, s'⟩ := r
  cases state with
  | running => rfl
  | ended | failed => exact congrArg (Prod.mk _) (h.abandon s').symm

theorem stepDown_within (h : e'.Within π e) (up down : Lane) (s : σ') :
    stepDown e up down (π s) = Prod.map id π (stepDown e' up down s) := by
  unfold stepDown
  rw [Lane.step_within h.tunnel h.near h.countDown]
  generalize down.step e'.tunnel e'.near (.io .nothingTaken) e'.countDown s = r
  obtain ⟨state, s'⟩ := r
  cases state with
  | running => rfl
  | ended | failed => exact congrArg (Prod.mk _) (h.abandon s').symm

/-- **A relay takes the same course within a larger state.** -/
theorem step_within (h : e'.Within π e) (r : Relay) (s : σ') :
    r.step e (π s) = Prod.map id π (r.step e' s) := by
  cases r with
  | finished result => rfl
  | closing result =>
    show stepClose e result (π s) = Prod.map id π (stepClose e' result s)
    unfold stepClose
    rw [h.closeTunnel]
    generalize e'.closeTunnel s = c
    obtain ⟨outcome, s'⟩ := c
    cases outcome with
    | waiting => rfl
    | ready | failed =>
      show (finished result, e.ended (e.closeNear (π s'))) = _
      rw [← h.closeNear, ← h.ended]
      rfl
  | copying up down =>
    unfold step
    dsimp only
    rw [stepUp_within h]
    generalize stepUp e' up down s = r
    obtain ⟨r', s'⟩ := r
    cases r' with
    | copying up' down' => exact stepDown_within h up' down' s'
    | closing | finished => rfl

/-! ## What the ends keep -/

/-- What is done at the ends of a relay that runs keeps `P`. -/
structure Ends.Keeps (e : Ends σ) (P : σ → Prop) : Prop where
  readNear : ∀ n {s}, P s → P (e.near.read n s).2
  writeNear : ∀ bs {s}, P s → P (e.near.write bs s).2
  readTunnel : ∀ n {s}, P s → P (e.tunnel.read n s).2
  writeTunnel : ∀ bs {s}, P s → P (e.tunnel.write bs s).2
  ended : ∀ {s}, P s → P (e.ended s)
  countUp : ∀ n {s}, P s → P (e.countUp n s)
  countDown : ∀ n {s}, P s → P (e.countDown n s)
  abandon : ∀ {s}, P s → P (e.abandon s)
  closeTunnel : ∀ {s}, P s → P (e.closeTunnel s).2
  closeNear : ∀ {s}, P s → P (e.closeNear s)

end Relay

section Keeps

variable {source out : Duplex TunnelError σ} {count : UInt64 → σ → σ}
  {P : σ → Prop}

theorem Lane.write_keeps (hout : ∀ bs {s}, P s → P (out.write bs s).2)
    (hcount : ∀ n {s}, P s → P (count n s)) (stuck : TunnelError) (l : Lane) {s : σ}
    (hs : P s) : P (l.write out stuck count s).2 := by
  have hs' := out.deliver_keeps (fun _ => hout _) l.unsent hs
  unfold write
  generalize out.deliver l.unsent s = r at hs'
  obtain ⟨transfer, s'⟩ := r
  cases transfer with
  | complete => exact hcount _ hs'
  | partway => exact hs'
  | stopped why => cases why <;> exact hs'

theorem Lane.step_keeps (hsource : ∀ n {s}, P s → P (source.read n s).2)
    (hout : ∀ bs {s}, P s → P (out.write bs s).2) (hcount : ∀ n {s}, P s → P (count n s))
    (stuck : TunnelError) (l : Lane) {s : σ} (hs : P s) :
    P (l.step source out stuck count s).2 := by
  unfold step
  split
  · have hs' := hsource chunkLimit hs
    generalize source.read chunkLimit s = r at hs'
    obtain ⟨outcome, s'⟩ := r
    cases outcome with
    | ready bs =>
      cases bs with
      | nil => exact hs'
      | cons b bs => exact Lane.write_keeps hout hcount stuck _ hs'
    | failed | waiting => exact hs'
  · exact Lane.write_keeps hout hcount stuck l hs

/-- **What is kept at both ends, a relay keeps.** -/
theorem Relay.step_keeps {e : Relay.Ends σ} (h : e.Keeps P) (r : Relay) {s : σ} (hs : P s) :
    P (r.step e s).2 := by
  cases r with
  | finished result => exact hs
  | closing result =>
    have hs' := h.closeTunnel hs
    unfold step stepClose
    dsimp only
    generalize e.closeTunnel s = c at hs'
    obtain ⟨outcome, s'⟩ := c
    cases outcome with
    | waiting => exact hs'
    | ready | failed => exact h.ended (h.closeNear hs')
  | copying up down =>
    have hup := Lane.step_keeps h.readNear h.writeTunnel h.countUp .closed up hs
    unfold step stepUp
    dsimp only
    generalize up.step e.near e.tunnel .closed e.countUp s = r at hup
    obtain ⟨state, s'⟩ := r
    cases state with
    | ended | failed => exact h.abandon hup
    | running up' =>
      have hdown := Lane.step_keeps h.readTunnel h.writeNear h.countDown (.io .nothingTaken)
        down hup
      dsimp only
      unfold stepDown
      generalize down.step e.tunnel e.near (.io .nothingTaken) e.countDown s' = r at hdown
      obtain ⟨state', s''⟩ := r
      cases state' with
      | running => exact hdown
      | ended | failed => exact h.abandon hdown

end Keeps

end SealedTunnel
