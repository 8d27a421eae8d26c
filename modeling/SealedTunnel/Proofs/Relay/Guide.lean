import SealedTunnel.Proofs.Relay.Within

/-!
# What a relay is led by

What holds of a relay is mostly a matter between what a lane has still to write and the state of the
streams. It need only be shown of a single read, of a single write and of a count; then it holds
wherever the lane stops, and until one of the lanes stops both.

## Main definitions

* `Duplex.Guided`, `Lane.Guided`, `Relay.Guided`: what single operations keep
* `Relay.Holds`: what holds of a relay

## Main results

* `Duplex.Guided.deliver`, `Lane.Guided.step`, `Relay.Guided.step`: it holds after every step
-/

namespace SealedTunnel

variable {δ σ : Type}

/-- `Q` holds with what is still to be delivered, until a write fails or takes nothing; then `X`
does. -/
def Duplex.Guided (out : Duplex δ σ) (Q : Bytes → σ → Prop) (X : σ → Prop) : Prop :=
  ∀ data s, data ≠ [] → Q data s →
    match out.write data s with
    | (.waiting, s') => Q data s'
    | (.failed _, s') | (.ready 0, s') => X s'
    | (.ready (n + 1), s') => Q (data.drop (n + 1)) s'

theorem Duplex.Guided.deliver {out : Duplex δ σ} {Q : Bytes → σ → Prop} {X : σ → Prop}
    (h : out.Guided Q X) (data : Bytes) {s : σ} (hs : Q data s) :
    match out.deliver data s with
    | (.complete _, s') => Q [] s'
    | (.partway rest, s') => rest ≠ [] ∧ Q rest s'
    | (.stopped _, s') => X s' := by
  fun_induction out.deliver data s with
  | case1 s => exact hs
  | case2 s b bs s' hw | case3 s b bs e s' hw | case4 s b bs s' hw =>
    have hnext := h _ _ (List.cons_ne_nil b bs) hs
    rw [hw] at hnext
    first | exact hnext | exact ⟨List.cons_ne_nil b bs, hnext⟩
  | case5 s b bs n s' hw ih =>
    have hnext := h _ _ (List.cons_ne_nil b bs) hs
    rw [hw] at hnext
    exact ih hnext

/-- `Q` holds with what a lane has still to write, until it ends or fails; then `X` does. -/
structure Lane.Guided (source out : Duplex TunnelError σ) (count : UInt64 → σ → σ)
    (Q : Bytes → σ → Prop) (X : σ → Prop) : Prop where
  read : ∀ {s}, Q [] s →
    match source.read chunkLimit s with
    | (.waiting, s') => Q [] s'
    | (.failed _, s') | (.ready [], s') => X s'
    | (.ready (b :: bs), s') => Q (b :: bs) s'
  write : out.Guided Q X
  count : ∀ {s} n, Q [] s → Q [] (count n s)

/-- What holds of a lane after a step. -/
def LaneState.Holds (Q : Bytes → σ → Prop) (X : σ → Prop) : LaneState × σ → Prop
  | (.running l, s) => Q l.unsent s
  | (.ended _, s) | (.failed _ _, s) => X s

namespace Lane.Guided

variable {source out : Duplex TunnelError σ} {count : UInt64 → σ → σ} {Q : Bytes → σ → Prop}
  {X : σ → Prop} {s : σ}

theorem holds_write (h : Guided source out count Q X) (stuck : TunnelError) {l : Lane}
    (hs : Q l.unsent s) : LaneState.Holds Q X (l.write out stuck count s) := by
  have hd := h.write.deliver l.unsent hs
  unfold Lane.write
  generalize out.deliver l.unsent s = r at hd
  obtain ⟨transfer, s'⟩ := r
  cases transfer with
  | complete => exact h.count _ hd
  | partway => exact hd.2
  | stopped why => cases why <;> exact hd

theorem step (h : Guided source out count Q X) (stuck : TunnelError) {l : Lane}
    (hs : Q l.unsent s) : LaneState.Holds Q X (l.step source out stuck count s) := by
  unfold Lane.step
  split
  · rename_i hempty
    have hr := h.read (List.isEmpty_iff.1 hempty ▸ hs)
    generalize source.read chunkLimit s = r at hr
    obtain ⟨outcome, s'⟩ := r
    cases outcome with
    | waiting =>
      show Q l.unsent s'
      rw [List.isEmpty_iff.1 hempty]
      exact hr
    | failed => exact hr
    | ready bs =>
      cases bs with
      | nil => exact hr
      | cons b bs => exact h.holds_write stuck hr
  · exact h.holds_write stuck hs

end Lane.Guided

namespace Relay

/-- `Q` holds with what both lanes have still to write, then `C` while the streams are closed, and
then `O`. -/
structure Guided (e : Ends σ) (Q : Bytes → Bytes → σ → Prop) (C O : σ → Prop) : Prop where
  up : ∀ down, Lane.Guided e.near e.tunnel e.countUp (fun up => Q up down) fun s => C (e.abandon s)
  down : ∀ up, Lane.Guided e.tunnel e.near e.countDown (Q up) fun s => C (e.abandon s)
  close : ∀ {s}, C s →
    match e.closeTunnel s with
    | (.waiting, s') => C s'
    | (_, s') => O (e.ended (e.closeNear s'))

/-- What holds of a relay. -/
def Holds (Q : Bytes → Bytes → σ → Prop) (C O : σ → Prop) : Relay → σ → Prop
  | .copying up down, s => Q up.unsent down.unsent s
  | .closing _, s => C s
  | .finished _, s => O s

/-- **It holds after every step.** -/
theorem Guided.step {e : Ends σ} {Q : Bytes → Bytes → σ → Prop} {C O : σ → Prop}
    (h : Guided e Q C O) {r : Relay} {s : σ} (hs : r.Holds Q C O s) :
    (r.step e s).1.Holds Q C O (r.step e s).2 := by
  cases r with
  | finished result => exact hs
  | closing result =>
    have hclose := h.close hs
    unfold Relay.step stepClose
    dsimp only
    generalize e.closeTunnel s = c at hclose
    obtain ⟨outcome, s'⟩ := c
    cases outcome <;> exact hclose
  | copying up down =>
    have hup := (h.up down.unsent).step .closed hs
    unfold Relay.step stepUp
    dsimp only
    generalize up.step e.near e.tunnel .closed e.countUp s = r at hup
    obtain ⟨state, s'⟩ := r
    cases state with
    | ended | failed => exact hup
    | running up' =>
      have hdown := (h.down up'.unsent).step (.io .nothingTaken) hup
      dsimp only
      unfold stepDown
      generalize down.step e.tunnel e.near (.io .nothingTaken) e.countDown s' = r at hdown
      obtain ⟨state', s''⟩ := r
      cases state' <;> exact hdown

end Relay

end SealedTunnel
