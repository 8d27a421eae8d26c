import Mathlib.Algebra.BigOperators.Group.List.Basic
import SealedTunnel.Proofs.Relay.Tally
import SealedTunnel.Stats

/-!
# What a relay counts

Many relays count on the same counters. Counters that are counted on by several are the sum of what
each has counted, and a relay only ever changes its own share: whatever the others have counted, a
step of it adds to the counters what its record has grown by.

## Main definitions

* `Stats` as a commutative monoid
* `Duplex.Leaves`, `Relay.Ends.Counts`: ends at which a relay counts on counters in their state
* `Relay.share`: what a relay has counted, by its record

## Main results

* `Relay.Ends.Counts.act`, `Relay.Ends.Counts.drop`: a relay changes its own share, and no other
-/

namespace SealedTunnel

/-! ## Counters that several count on -/

namespace Stats

instance : Add Stats where
  add k l :=
    { activeRelays := k.activeRelays + l.activeRelays
      totalRelays := k.totalRelays + l.totalRelays
      bytesSent := k.bytesSent + l.bytesSent
      bytesReceived := k.bytesReceived + l.bytesReceived
      failedDials := k.failedDials + l.failedDials }

instance : Zero Stats where
  zero := {}

attribute [ext] Stats

instance : AddCommMonoid Stats where
  add_assoc _ _ _ := by
    ext1 <;> exact UInt64.add_assoc ..
  add_comm _ _ := by
    ext1 <;> exact UInt64.add_comm ..
  zero_add _ := by
    ext1 <;> exact UInt64.zero_add _
  add_zero _ := by
    ext1 <;> exact UInt64.add_zero _
  nsmul := nsmulRec

variable (k l : Stats)

/-- What one counts comes on top of what the others have counted. -/
theorem add_relayStarted : (k + l).relayStarted = k + l.relayStarted := by
  ext1
  · exact UInt64.add_assoc ..
  · exact UInt64.add_assoc ..
  all_goals rfl

theorem add_relayEnded : (k + l).relayEnded = k + l.relayEnded := by
  ext1
  · show k.activeRelays + l.activeRelays - 1 = k.activeRelays + (l.activeRelays - 1)
    rw [UInt64.sub_eq_add_neg, UInt64.sub_eq_add_neg, UInt64.add_assoc]
  all_goals rfl

theorem add_addSent (n : UInt64) : (k + l).addSent n = k + l.addSent n := by
  ext1
  case bytesSent => exact UInt64.add_assoc ..
  all_goals rfl

theorem add_addReceived (n : UInt64) : (k + l).addReceived n = k + l.addReceived n := by
  ext1
  case bytesReceived => exact UInt64.add_assoc ..
  all_goals rfl

theorem add_dialFailed : (k + l).dialFailed = k + l.dialFailed := by
  ext1
  case failedDials => exact UInt64.add_assoc ..
  all_goals rfl

end Stats

/-! ## Ends at which a relay counts -/

variable {δ σ κ : Type}

/-- The stream leaves alone what `view` shows of the state. -/
structure Duplex.Leaves (d : Duplex δ σ) (view : σ → κ) : Prop where
  read : ∀ n s, view (d.read n s).2 = view s
  write : ∀ bs s, view (d.write bs s).2 = view s

namespace Relay

/-- The ends count on the counters that `view` shows, and do nothing else to them. -/
structure Ends.Counts (e : Ends σ) (view : σ → Stats) : Prop where
  near : e.near.Leaves view
  tunnel : e.tunnel.Leaves view
  started : ∀ s, view (e.started s) = (view s).relayStarted
  ended : ∀ s, view (e.ended s) = (view s).relayEnded
  countUp : ∀ n s, view (e.countUp n s) = (view s).addSent n
  countDown : ∀ n s, view (e.countDown n s) = (view s).addReceived n
  abandon : ∀ s, view (e.abandon s) = view s
  closeTunnel : ∀ s, view (e.closeTunnel s).2 = view s
  closeNear : ∀ s, view (e.closeNear s) = view s

/-- Whether a relay has not finished. -/
def runs : Relay → Bool
  | .copying _ _ | .closing _ => true
  | .finished _ => false

/-- What a relay has counted, by its record. -/
def share (running : Bool) (log : List Act) : Stats where
  activeRelays := if running then 1 else 0
  totalRelays := 1
  bytesSent := counter .up log
  bytesReceived := counter .down log

section Share

variable {running : Bool} {log : List Act} {act : Act}

/-- An act that is no count changes no share. -/
theorem share_concat (h : ∀ w, act.count w = 0) :
    share running (log ++ [act]) = share running log := by
  rw [share, counter_concat, counter_concat, h, h, UInt64.add_zero, UInt64.add_zero, share]

theorem share_closing (h : act.way? = none) :
    share running (log ++ [act]) = share running log := by
  refine share_concat fun w => Act.count_of_ne ?_
  rw [h]
  nofun

theorem share_countUp (n : UInt64) :
    share running (log ++ [.counted .up n]) = (share running log).addSent n := by
  ext1
  case bytesSent => exact counter_concat
  case bytesReceived => exact counter_concat.trans (UInt64.add_zero _)
  all_goals rfl

theorem share_countDown (n : UInt64) :
    share running (log ++ [.counted .down n]) = (share running log).addReceived n := by
  ext1
  case bytesSent => exact counter_concat.trans (UInt64.add_zero _)
  case bytesReceived => exact counter_concat
  all_goals rfl

/-- The relay no longer runs. -/
theorem relayEnded_share : (share true log).relayEnded = share false log := by
  ext1
  case activeRelays => exact UInt64.sub_self 1
  all_goals rfl

/-- A relay that has just begun. -/
theorem relayStarted_zero : (0 : Stats).relayStarted = share true [] := rfl

end Share

/-- The counters are what a relay has counted, on top of what the others have. -/
def Tells (view : σ → Stats) (others : Stats) (running : Bool) (s : σ × List Act) : Prop :=
  view s.1 = others + share running s.2

variable {e : Ends σ} {view : σ → Stats} {others : Stats} {running : Bool} {s : σ × List Act}

theorem Tells.concat {s' : σ} {act : Act} (h : Tells view others running s)
    (hview : view s' = view s.1) (hact : ∀ w, act.count w = 0) :
    Tells view others running (s', s.2 ++ [act]) := by
  rw [Tells, share_concat hact, hview]
  exact h

namespace Ends.Counts

theorem tells_countUp (h : e.Counts view) (n : UInt64) (hs : Tells view others running s) :
    Tells view others running (e.recorded.countUp n s) := by
  show view (e.countUp n s.1) = others + share running (s.2 ++ [.counted .up n])
  rw [h.countUp, hs, share_countUp, Stats.add_addSent]

theorem tells_countDown (h : e.Counts view) (n : UInt64) (hs : Tells view others running s) :
    Tells view others running (e.recorded.countDown n s) := by
  show view (e.countDown n s.1) = others + share running (s.2 ++ [.counted .down n])
  rw [h.countDown, hs, share_countDown, Stats.add_addReceived]

theorem tells_abandon (h : e.Counts view) (hs : Tells view others running s) :
    Tells view others running (e.recorded.abandon s) :=
  hs.concat (h.abandon s.1) fun _ => rfl

theorem tells_ended (h : e.Counts view) (hs : Tells view others true s) :
    Tells view others false (e.recorded.ended s) := by
  show view (e.ended s.1) = others + share false (s.2 ++ [.ended])
  rw [h.ended, hs, share_closing rfl, Stats.add_relayEnded, relayEnded_share]

theorem tells_stepUp (h : e.Counts view) (up down : Lane) (hs : Tells view others true s) :
    let r := stepUp e.recorded up down s
    Tells view others r.1.runs r.2 := by
  have hlane : Tells view others true
      (up.step e.recorded.near e.recorded.tunnel .closed e.recorded.countUp s).2 :=
    Lane.step_keeps (fun _ _ hs => hs.concat (h.near.read ..) fun _ => rfl)
      (fun _ _ hs => hs.concat (h.tunnel.write ..) fun _ => rfl)
      (fun n _ hs => h.tells_countUp n hs) .closed up hs
  unfold stepUp
  generalize up.step e.recorded.near e.recorded.tunnel .closed e.recorded.countUp s = r at hlane
  obtain ⟨state, s'⟩ := r
  cases state with
  | running => exact hlane
  | ended | failed => exact h.tells_abandon hlane

theorem tells_stepDown (h : e.Counts view) (up down : Lane) (hs : Tells view others true s) :
    let r := stepDown e.recorded up down s
    Tells view others r.1.runs r.2 := by
  have hlane : Tells view others true
      (down.step e.recorded.tunnel e.recorded.near (.io .nothingTaken) e.recorded.countDown s).2 :=
    Lane.step_keeps (fun _ _ hs => hs.concat (h.tunnel.read ..) fun _ => rfl)
      (fun _ _ hs => hs.concat (h.near.write ..) fun _ => rfl)
      (fun n _ hs => h.tells_countDown n hs) (.io .nothingTaken) down hs
  unfold stepDown
  generalize down.step e.recorded.tunnel e.recorded.near (.io .nothingTaken) e.recorded.countDown s
    = r at hlane
  obtain ⟨state, s'⟩ := r
  cases state with
  | running => exact hlane
  | ended | failed => exact h.tells_abandon hlane

theorem tells_stepClose (h : e.Counts view) (result : RelayResult)
    (hs : Tells view others true s) :
    let r := stepClose e.recorded result s
    Tells view others r.1.runs r.2 := by
  have hclosed : Tells view others true (e.recorded.closeTunnel s).2 :=
    hs.concat (h.closeTunnel s.1) fun _ => rfl
  unfold stepClose
  generalize e.recorded.closeTunnel s = c at hclosed
  obtain ⟨outcome, s'⟩ := c
  cases outcome with
  | waiting => exact hclosed
  | ready | failed =>
    exact h.tells_ended (hclosed.concat (h.closeNear s'.1) fun _ => rfl)

/-- **A step of a relay changes its own share, and no other.** -/
theorem tells_act (h : e.Counts view) {m : Move σ}
    (hm : ∀ f, m = .others f → ∀ s, view (f s) = view s) {r : Relay × σ × List Act}
    (hr : Tells view others r.1.runs r.2) :
    Tells view others (act e r m).1.runs (act e r m).2 := by
  obtain ⟨r, s, log⟩ := r
  cases m with
  | others f =>
    have hf : view (f s) = others + share r.runs log := (hm f rfl s).trans hr
    cases r <;> exact hf
  | up =>
    cases r with
    | copying up down => exact h.tells_stepUp up down hr
    | closing | finished => exact hr
  | down =>
    cases r with
    | copying up down => exact h.tells_stepDown up down hr
    | closing | finished => exact hr
  | close =>
    cases r with
    | closing result => exact h.tells_stepClose result hr
    | copying | finished => exact hr

/-- **Giving a relay up takes it out of those that run**, if it ran. -/
theorem tells_drop (h : e.Counts view) (r : Relay) (hs : Tells view others r.runs s) :
    Tells view others false (r.drop e.recorded s) := by
  cases r with
  | copying | closing => exact h.tells_ended (h.tells_abandon hs)
  | finished => exact hs

end Ends.Counts

end Relay

end SealedTunnel
