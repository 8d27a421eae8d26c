import SealedTunnel.Proofs.Relay.Record
import SealedTunnel.Proofs.Relay.Within

/-!
# What a relay does

The steps of the two lanes may come in any order, others may do anything between them, and the
streams need not keep to anything. Whatever happens, the record of the relay is orderly. The first
lane that ends or fails stops both, wherever the other one is, and both streams are closed
afterwards, whatever comes of that.

## Main definitions

* `Relay.Ends.recorded`: the ends of a relay, which write down what is done at them
* `Lane.Stands`, `Relay.Fits`: where a lane and a relay stand, by their record
* `Relay.Move`, `Relay.run`: the steps of a relay in any order

## Main results

* `Lane.fits_step`, `Relay.fits_act`: every step keeps to the record
* `Relay.run_in_order`: whatever the order of the steps, nothing is lost, repeated or moved
* `Relay.step_eq_run`, `Relay.step_recorded`: the steps that a relay makes by itself are in one of
  the orders, and watching it changes nothing
-/

namespace SealedTunnel

namespace Relay

variable {σ : Type}

/-! ## Ends that are watched -/

namespace Ends

/-- The same ends; what is done at them is written down. -/
def recorded (e : Ends σ) : Ends (σ × List Act) where
  near := watched .up .down e.near
  tunnel := watched .down .up e.tunnel
  started s := (e.started s.1, s.2)
  ended s := (e.ended s.1, s.2 ++ [.ended])
  countUp n s := (e.countUp n s.1, s.2 ++ [.counted .up n])
  countDown n s := (e.countDown n s.1, s.2 ++ [.counted .down n])
  abandon s := (e.abandon s.1, s.2 ++ [.abandoned])
  closeTunnel s := let (r, s') := e.closeTunnel s.1; (r, s', s.2 ++ [.closedTunnel r])
  closeNear s := (e.closeNear s.1, s.2 ++ [.closedNear])
where
  /-- A stream that one lane reads from and the other one writes to. -/
  watched (source destination : Way) (d : Duplex TunnelError σ) :
      Duplex TunnelError (σ × List Act) :=
    ⟨fun n s => let (r, s') := d.read n s.1; (r, s', s.2 ++ [.read source r]),
      fun bs s => let (r, s') := d.write bs s.1; (r, s', s.2 ++ [.wrote destination bs r])⟩

theorem closeTunnel_recorded (e : Ends σ) (s : σ × List Act) :
    e.recorded.closeTunnel s = ((e.closeTunnel s.1).1, (e.closeTunnel s.1).2,
      s.2 ++ [.closedTunnel (e.closeTunnel s.1).1]) := rfl

end Ends

end Relay

/-! ## Lanes -/

open Relay

variable {w w' : Way} {log log' : List Act}

/-- Where a lane stands, by its record: it has still to write what was read and not written, and has
counted all but the chunk in hand. -/
structure Lane.Stands (w : Way) (l : Lane) (log : List Act) : Prop where
  unsent : took w log ++ l.unsent = gave w log
  moved : l.moved = counter w log
  chunk : l.moved + l.chunk.toUInt64 = .ofNat (gave w log).length
  resting : l.unsent = [] → l.chunk = 0

/-- How a step of a lane comes out, by its record. -/
def LaneState.Fits (w : Way) (log : List Act) : LaneState → Prop
  | .running l => Going log ∧ l.Stands w log
  | .ended l => l.Stands w log ∧ Finished (.ok (counter .up log, counter .down log)) log
  | .failed _ e => Finished (.error e) log

namespace Lane

variable {l : Lane}

theorem Stands.of_since (h : l.Stands w' log) (hs : Since w log log') (hw : w ≠ w') :
    l.Stands w' log' := by
  obtain ⟨hgave, htook, hcounter⟩ := hs.other hw
  refine ⟨?_, ?_, ?_, h.resting⟩
  · rw [hgave, htook]
    exact h.unsent
  · rw [hcounter]
    exact h.moved
  · rw [hgave]
    exact h.chunk

/-- A lane with nothing in hand has written and counted all that it has read. -/
theorem Stands.drained (h : l.Stands w log) (hnil : l.unsent = []) :
    took w log = gave w log ∧ counter w log = .ofNat (gave w log).length := by
  constructor
  · have hall := h.unsent
    rw [hnil, List.append_nil] at hall
    exact hall
  · have hcount := h.chunk
    rw [h.resting hnil, h.moved] at hcount
    exact (UInt64.add_zero _).symm.trans hcount

/-- A lane with nothing in hand takes the chunk that it reads in hand. -/
theorem Stands.take (h : l.Stands w log) (hnil : l.unsent = []) {chunk : Bytes}
    (hne : chunk ≠ []) :
    Stands w { l with unsent := chunk, chunk := chunk.length }
      (log ++ [.read w (.ready chunk)]) := by
  obtain ⟨hall, hcount⟩ := h.drained hnil
  refine ⟨?_, ?_, ?_, fun hnil => absurd hnil hne⟩
  · rw [took_concat, gave_concat, Act.took_read, Act.gave_read_ready, List.append_nil, hall]
  · rw [counter_concat, Act.count_read, UInt64.add_zero]
    exact h.moved
  · rw [gave_concat, Act.gave_read_ready, List.length_append, UInt64.ofNat_add, ← hcount, ← h.moved]

/-- The ends of a lane write down what it does. -/
structure Watched (w : Way) (source out : Duplex TunnelError (σ × List Act))
    (count : UInt64 → σ × List Act → σ × List Act) : Prop where
  read : ∀ n s, (source.read n s).2.2 = s.2 ++ [.read w (source.read n s).1]
  write : ∀ bs s, (out.write bs s).2.2 = s.2 ++ [.wrote w bs (out.write bs s).1]
  count : ∀ n s, (count n s).2 = s.2 ++ [.counted w n]

/-- How delivering what a lane has still to write comes out, by the record. -/
def Put (w : Way) (log : List Act) : Transfer TunnelError → Prop
  | .complete _ => Going log ∧ took w log = gave w log
  | .partway rest => Going log ∧ took w log ++ rest = gave w log ∧ rest ≠ []
  | .stopped (.ended _) => Finished (.error (stuck w)) log
  | .stopped (.broken e) => Finished (.error e) log

variable {source out : Duplex TunnelError (σ × List Act)}
  {count : UInt64 → σ × List Act → σ × List Act}

/-- Whatever comes of a write of what stands just behind what was taken, the source has given
nothing by it, and nothing is counted. -/
theorem wrote_concat {log : List Act} {data : Bytes} (outcome : Poll TunnelError Nat)
    (horderly : Orderly log) (hgoing : Going log) (hdata : took w log ++ data = gave w log) :
    let log' := log ++ [.wrote w data outcome]
    Orderly log' ∧ Since w log log' ∧ gave w log' = gave w log ∧
      counter w log' = counter w log := by
  refine ⟨.wrote outcome horderly hgoing hdata, .concat .refl rfl, ?_, ?_⟩
  · rw [gave_concat, Act.gave_wrote, List.append_nil]
  · rw [counter_concat, Act.count_wrote, UInt64.add_zero]

theorem put_deliver (h : Watched w source out count) (data : Bytes) (s : σ × List Act)
    (horderly : Orderly s.2) (hgoing : Going s.2) (hdata : took w s.2 ++ data = gave w s.2) :
    let r := out.deliver data s
    Orderly r.2.2 ∧ Since w s.2 r.2.2 ∧ gave w r.2.2 = gave w s.2 ∧
      counter w r.2.2 = counter w s.2 ∧ Put w r.2.2 r.1 := by
  -- Along the loop of the delivery, each write offers what is left of the data.
  fun_induction out.deliver data s with
  | case1 s =>
    rw [List.append_nil] at hdata
    exact ⟨horderly, .refl, rfl, rfl, hgoing, hdata⟩
  | case2 s b bs s' hw =>
    have hlog : s'.2 = s.2 ++ [.wrote w (b :: bs) .waiting] := by
      have := h.write (b :: bs) s
      rwa [hw] at this
    obtain ⟨ho, hs, hgave, hcounter⟩ := wrote_concat .waiting horderly hgoing hdata
    rw [← hlog] at ho hs hgave hcounter
    refine ⟨ho, hs, hgave, hcounter, ?_, ?_, List.cons_ne_nil _ _⟩
    · rw [hlog]
      exact going_concat hgoing rfl
    · rw [hgave, hlog, took_concat]
      exact (congrArg (· ++ b :: bs) (List.append_nil _)).trans hdata
  | case3 s b bs e s' hw =>
    have hlog : s'.2 = s.2 ++ [.wrote w (b :: bs) (.failed e)] := by
      have := h.write (b :: bs) s
      rwa [hw] at this
    obtain ⟨ho, hs, hgave, hcounter⟩ := wrote_concat (.failed e) horderly hgoing hdata
    rw [← hlog] at ho hs hgave hcounter
    refine ⟨ho, hs, hgave, hcounter, ?_⟩
    show Finished (.error e) s'.2
    rw [hlog]
    exact .writing hgoing
  | case4 s b bs s' hw =>
    have hlog : s'.2 = s.2 ++ [.wrote w (b :: bs) (.ready 0)] := by
      have := h.write (b :: bs) s
      rwa [hw] at this
    obtain ⟨ho, hs, hgave, hcounter⟩ := wrote_concat (.ready 0) horderly hgoing hdata
    rw [← hlog] at ho hs hgave hcounter
    refine ⟨ho, hs, hgave, hcounter, ?_⟩
    show Finished (.error (stuck w)) s'.2
    rw [hlog]
    exact .stuck hgoing
  | case5 s b bs n s' hw ih =>
    have hlog : s'.2 = s.2 ++ [.wrote w (b :: bs) (.ready (n + 1))] := by
      have := h.write (b :: bs) s
      rwa [hw] at this
    obtain ⟨ho, hs, hgave, hcounter⟩ := wrote_concat (.ready (n + 1)) horderly hgoing hdata
    rw [← hlog] at ho hs hgave hcounter
    have hgoing' : Going s'.2 := by
      rw [hlog]
      exact going_concat hgoing rfl
    have hrest : took w s'.2 ++ bs.drop n = gave w s'.2 := by
      rw [hgave, hlog, took_concat, Act.took_wrote_ready, List.append_assoc, List.take_succ_cons,
        List.cons_append, List.take_append_drop]
      exact hdata
    obtain ⟨ho', hs', hgave', hcounter', hput⟩ := ih ho hgoing' hrest
    exact ⟨ho', hs.trans hs', hgave'.trans hgave, hcounter'.trans hcounter, hput⟩

/-- **Writing keeps to the record.** -/
theorem fits_write (h : Watched w source out count) {s : σ × List Act} (horderly : Orderly s.2)
    (hgoing : Going s.2) (hl : l.Stands w s.2) :
    let r := l.write out (stuck w) count s
    Orderly r.2.2 ∧ Since w s.2 r.2.2 ∧ r.1.Fits w r.2.2 := by
  obtain ⟨ho, hs, hgave, hcounter, hput⟩ :=
    put_deliver h l.unsent s horderly hgoing hl.unsent
  unfold write
  generalize out.deliver l.unsent s = r at ho hs hgave hcounter hput
  obtain ⟨transfer, s'⟩ := r
  dsimp only at ho hs hgave hcounter
  have hchunk : counter w s'.2 + l.chunk.toUInt64 = .ofNat (gave w s'.2).length := by
    rw [hcounter, hgave, ← hl.moved]
    exact hl.chunk
  cases transfer with
  | complete =>
    obtain ⟨hgo, hall⟩ := hput
    dsimp only
    rw [h.count]
    refine ⟨.counted ho hgo hall hchunk, .concat hs rfl, going_concat hgo rfl, ?_, ?_, ?_,
      fun _ => rfl⟩
    · rw [took_concat, gave_concat, Act.took_counted, Act.gave_counted, List.append_nil,
        List.append_nil, List.append_nil]
      exact hall
    · rw [counter_concat, Act.count_counted, hcounter, hl.moved]
    · rw [gave_concat, Act.gave_counted, List.append_nil, hl.moved, ← hcounter]
      exact (UInt64.add_zero _).trans hchunk
  | partway rest =>
    obtain ⟨hgo, hrest, hne⟩ := hput
    refine ⟨ho, hs, hgo, hrest, ?_, ?_, fun hnil => absurd hnil hne⟩
    · rw [hcounter]
      exact hl.moved
    · rw [hgave]
      exact hl.chunk
  | stopped why =>
    cases why with
    | ended got => exact ⟨ho, hs, hput⟩
    | broken e => exact ⟨ho, hs, hput⟩

/-- **A step of a lane keeps to its record.** -/
theorem fits_step (h : Watched w source out count) {s : σ × List Act} (horderly : Orderly s.2)
    (hgoing : Going s.2) (hl : l.Stands w s.2) :
    let r := l.step source out (stuck w) count s
    Orderly r.2.2 ∧ Since w s.2 r.2.2 ∧ r.1.Fits w r.2.2 := by
  unfold step
  split
  · rename_i hempty
    have hnil := List.isEmpty_iff.1 hempty
    obtain ⟨hall, hcount⟩ := hl.drained hnil
    have hlog := h.read chunkLimit s
    generalize source.read chunkLimit s = r at hlog
    obtain ⟨outcome, s'⟩ := r
    dsimp only at hlog
    have ho : Orderly s'.2 := by
      rw [hlog]
      exact .read _ horderly hgoing hall hcount
    have hs : Since w s.2 s'.2 := by
      rw [hlog]
      exact .concat .refl rfl
    have hcounter (w' : Way) : counter w' s'.2 = counter w' s.2 := by
      rw [hlog, counter_concat, Act.count_read, UInt64.add_zero]
    have hstands (hgave : gave w s'.2 = gave w s.2) : l.Stands w s'.2 := by
      refine ⟨?_, ?_, ?_, hl.resting⟩
      · rw [hgave, hlog, took_concat, Act.took_read, List.append_nil]
        exact hl.unsent
      · rw [hcounter]
        exact hl.moved
      · rw [hgave]
        exact hl.chunk
    cases outcome with
    | waiting =>
      refine ⟨ho, hs, ?_, hstands ?_⟩
      · rw [hlog]
        exact going_concat hgoing rfl
      · rw [hlog, gave_concat]
        exact List.append_nil _
    | failed e =>
      refine ⟨ho, hs, ?_⟩
      show Finished (.error e) s'.2
      rw [hlog]
      exact .reading hgoing
    | ready bs =>
      cases bs with
      | nil =>
        refine ⟨ho, hs, hstands ?_, ?_⟩
        · rw [hlog, gave_concat, Act.gave_read_ready, List.append_nil]
        · dsimp only
          rw [hcounter, hcounter, hlog]
          exact .source hgoing hall hcount
      | cons b bs =>
        have hgo : Going s'.2 := by
          rw [hlog]
          exact going_concat hgoing rfl
        have hchunk : Stands w { l with unsent := b :: bs, chunk := (b :: bs).length } s'.2 := by
          rw [hlog]
          exact hl.take hnil (List.cons_ne_nil b bs)
        obtain ⟨ho', hs', hfits⟩ := fits_write h ho hgo hchunk
        exact ⟨ho', hs.trans hs', hfits⟩
  · exact fits_write h horderly hgoing hl

end Lane

namespace Relay

/-! ## Steps in any order -/

/-- Where a relay stands, by its record. Behind the act that ends it, the other lane is given up and
the tunnel stream is closed; once that no longer has to wait, whatever comes of it, the local stream
is closed as well. -/
def Fits : Relay → List Act → Prop
  | .copying up down, log => Going log ∧ up.Stands .up log ∧ down.Stands .down log
  | .closing result, log => ∃ before k, Finished result before ∧
      log = before ++ .abandoned :: List.replicate k (.closedTunnel .waiting)
  | .finished result, log => ∃ before k outcome, Finished result before ∧ outcome ≠ .waiting ∧
      log = before ++ .abandoned :: List.replicate k (.closedTunnel .waiting) ++
        [.closedTunnel outcome, .closedNear, .ended]

/-- A step of one of the lanes, of the closing, or of others. -/
inductive Move (σ : Type) where
  | up
  | down
  | close
  | others (f : σ → σ)

/-- A step of a relay that is watched. A step that is not its turn does nothing. -/
def act (e : Ends σ) : Relay × σ × List Act → Move σ → Relay × σ × List Act
  | (.copying up down, s), .up => stepUp e.recorded up down s
  | (.copying up down, s), .down => stepDown e.recorded up down s
  | (.closing result, s), .close => stepClose e.recorded result s
  | (r, s, log), .others f => (r, f s, log)
  | (r, s), _ => (r, s)

/-- Many steps. -/
def run (e : Ends σ) (moves : List (Move σ)) (r : Relay × σ × List Act) : Relay × σ × List Act :=
  moves.foldl (act e) r

theorem watched_up (e : Ends σ) :
    Lane.Watched .up e.recorded.near e.recorded.tunnel e.recorded.countUp :=
  ⟨fun _ _ => rfl, fun _ _ => rfl, fun _ _ => rfl⟩

theorem watched_down (e : Ends σ) :
    Lane.Watched .down e.recorded.tunnel e.recorded.near e.recorded.countDown :=
  ⟨fun _ _ => rfl, fun _ _ => rfl, fun _ _ => rfl⟩

variable {e : Ends σ}

/-- A lane that has ended or failed is the end of both. -/
theorem fits_abandoned {result : RelayResult} {s : σ × List Act} (horderly : Orderly s.2)
    (hfinished : Finished result s.2) :
    Orderly (e.recorded.abandon s).2 ∧ (Relay.closing result).Fits (e.recorded.abandon s).2 :=
  ⟨.closing horderly rfl, s.2, 0, hfinished, rfl⟩

theorem fits_stepUp {up down : Lane} {s : σ × List Act} (horderly : Orderly s.2)
    (hfits : (copying up down).Fits s.2) :
    let r := stepUp e.recorded up down s
    Orderly r.2.2 ∧ r.1.Fits r.2.2 := by
  obtain ⟨hgoing, hup, hdown⟩ := hfits
  obtain ⟨ho, hsince, hlane⟩ := Lane.fits_step (watched_up e) horderly hgoing hup
  unfold stepUp
  change Orderly (Lane.step _ _ .closed _ up s).2.2 at ho
  change Since _ _ (Lane.step _ _ .closed _ up s).2.2 at hsince
  change (Lane.step _ _ .closed _ up s).1.Fits .up (Lane.step _ _ .closed _ up s).2.2 at hlane
  generalize Lane.step e.recorded.near e.recorded.tunnel .closed e.recorded.countUp up s = r
    at ho hsince hlane
  obtain ⟨state, s'⟩ := r
  have hdown' : down.Stands .down s'.2 := hdown.of_since hsince nofun
  cases state with
  | running up' => exact ⟨ho, hlane.1, hlane.2, hdown'⟩
  | ended up' =>
    refine fits_abandoned ho ?_
    rw [hlane.1.moved, hdown'.moved]
    exact hlane.2
  | failed up' error => exact fits_abandoned ho hlane

theorem fits_stepDown {up down : Lane} {s : σ × List Act} (horderly : Orderly s.2)
    (hfits : (copying up down).Fits s.2) :
    let r := stepDown e.recorded up down s
    Orderly r.2.2 ∧ r.1.Fits r.2.2 := by
  obtain ⟨hgoing, hup, hdown⟩ := hfits
  obtain ⟨ho, hsince, hlane⟩ := Lane.fits_step (watched_down e) horderly hgoing hdown
  unfold stepDown
  change Orderly (Lane.step _ _ (.io .nothingTaken) _ down s).2.2 at ho
  change Since _ _ (Lane.step _ _ (.io .nothingTaken) _ down s).2.2 at hsince
  change (Lane.step _ _ (.io .nothingTaken) _ down s).1.Fits .down
    (Lane.step _ _ (.io .nothingTaken) _ down s).2.2 at hlane
  generalize Lane.step e.recorded.tunnel e.recorded.near (.io .nothingTaken) e.recorded.countDown
    down s = r at ho hsince hlane
  obtain ⟨state, s'⟩ := r
  have hup' : up.Stands .up s'.2 := hup.of_since hsince nofun
  cases state with
  | running down' => exact ⟨ho, hlane.1, hup', hlane.2⟩
  | ended down' =>
    refine fits_abandoned ho ?_
    rw [hup'.moved, hlane.1.moved]
    exact hlane.2
  | failed down' error => exact fits_abandoned ho hlane

theorem fits_stepClose {result : RelayResult} {s : σ × List Act} (horderly : Orderly s.2)
    (hfits : (closing result).Fits s.2) :
    let r := stepClose e.recorded result s
    Orderly r.2.2 ∧ r.1.Fits r.2.2 := by
  obtain ⟨before, k, hfinished, hlog⟩ := hfits
  obtain ⟨s, log⟩ := s
  dsimp only at horderly hlog
  subst hlog
  rw [stepClose, Ends.closeTunnel_recorded]
  generalize e.closeTunnel s = c
  obtain ⟨outcome, s'⟩ := c
  have hover (hne : outcome ≠ .waiting) :
      Orderly (before ++ Act.abandoned :: List.replicate k (.closedTunnel .waiting) ++
          [.closedTunnel outcome] ++ [.closedNear] ++ [.ended]) ∧
        (Relay.finished result).Fits (before ++ Act.abandoned ::
          List.replicate k (.closedTunnel .waiting) ++ [.closedTunnel outcome] ++ [.closedNear] ++
            [.ended]) := by
    refine ⟨.closing (.closing (.closing horderly rfl) rfl) rfl, before, k, outcome, hfinished, hne,
      ?_⟩
    rw [List.append_assoc, List.append_assoc]
    rfl
  cases outcome with
  | waiting =>
    refine ⟨.closing horderly rfl, before, k + 1, hfinished, ?_⟩
    rw [List.append_assoc, List.cons_append, ← List.replicate_succ']
  | ready | failed => exact hover nofun

/-- What acts of no lane keep, closing keeps. -/
theorem step_closing {P : List Act → Prop}
    (h : ∀ {acts act}, act.way? = none → P acts → P (acts ++ [act])) (e : Ends σ)
    (result : RelayResult) (s : σ) {acts : List Act} (hacts : P acts) :
    let r := step e.recorded (.closing result) (s, acts)
    (r.1 = .closing result ∨ r.1 = .finished result) ∧ P r.2.2 := by
  rw [show step e.recorded (.closing result) (s, acts) = stepClose e.recorded result (s, acts) from
    rfl, stepClose, Ends.closeTunnel_recorded]
  generalize e.closeTunnel s = c
  obtain ⟨outcome, s'⟩ := c
  have hclosed : P (acts ++ [.closedTunnel outcome]) := h rfl hacts
  have hover : P (acts ++ [.closedTunnel outcome] ++ [.closedNear] ++ [.ended]) :=
    h rfl (h rfl hclosed)
  cases outcome with
  | waiting => exact ⟨.inl rfl, hclosed⟩
  | ready | failed => exact ⟨.inr rfl, hover⟩

/-- **Every step keeps to the record.** -/
theorem fits_act (m : Move σ) {r : Relay × σ × List Act} (horderly : Orderly r.2.2)
    (hfits : r.1.Fits r.2.2) : Orderly (act e r m).2.2 ∧ (act e r m).1.Fits (act e r m).2.2 := by
  obtain ⟨r, s, log⟩ := r
  cases m with
  | others f => cases r <;> exact ⟨horderly, hfits⟩
  | up =>
    cases r with
    | copying up down => exact fits_stepUp horderly hfits
    | closing | finished => exact ⟨horderly, hfits⟩
  | down =>
    cases r with
    | copying up down => exact fits_stepDown horderly hfits
    | closing | finished => exact ⟨horderly, hfits⟩
  | close =>
    cases r with
    | closing result => exact fits_stepClose horderly hfits
    | copying | finished => exact ⟨horderly, hfits⟩

theorem fits_run (moves : List (Move σ)) {r : Relay × σ × List Act} (horderly : Orderly r.2.2)
    (hfits : r.1.Fits r.2.2) :
    Orderly (run e moves r).2.2 ∧ (run e moves r).1.Fits (run e moves r).2.2 := by
  induction moves generalizing r with
  | nil => exact ⟨horderly, hfits⟩
  | cons m moves ih =>
    obtain ⟨ho, hf⟩ := fits_act (e := e) m horderly hfits
    exact ih ho hf

theorem fits_start : start.Fits [] :=
  ⟨fun _ hact => absurd hact List.not_mem_nil, ⟨rfl, rfl, rfl, fun _ => rfl⟩,
    ⟨rfl, rfl, rfl, fun _ => rfl⟩⟩

/-- **Whatever the order of the steps, nothing is lost, repeated or moved**, whatever the streams
give and take and wherever the steps of either lane stop. What a lane has written is the first of
what it has read, and what it offers next stands just behind that; it has counted no more than it
has written. The lane that ends first decides: its end of stream gives the two counts, with all that
its source gave written and counted, and its failure is the relay's. After that nothing is read or
written any more, and both streams are closed, however closing the tunnel stream comes out. -/
theorem run_in_order (e : Ends σ) (moves : List (Move σ)) (s : σ) :
    let (r, s', log) := run e moves (start, s, [])
    (∀ w, took w log <+: gave w log ∧ (counter w log).toNat ≤ (took w log).length) ∧
      (∀ w before data outcome after, log = before ++ .wrote w data outcome :: after →
        took w before ++ data = gave w before) ∧
      r.Fits log ∧
      (∀ result, r = .closing result → (e.closeTunnel s').1 ≠ .waiting →
        (act e (r, s', log) .close).1 = .finished result) := by
  obtain ⟨horderly, hfits⟩ := fits_run (e := e) moves (r := (start, s, [])) .nil fits_start
  generalize run e moves (start, s, []) = r at horderly hfits
  obtain ⟨r, s', log⟩ := r
  refine ⟨fun w => ⟨horderly.in_order w, horderly.counter_le w⟩, ?_, hfits, ?_⟩
  · intro w before data outcome after hlog
    exact horderly.wrote_next hlog
  · rintro result rfl hready
    show (stepClose e.recorded result (s', log)).1 = .finished result
    rw [stepClose, Ends.closeTunnel_recorded]
    dsimp only
    generalize e.closeTunnel s' = c at hready
    obtain ⟨outcome, s''⟩ := c
    cases outcome with
    | waiting => exact absurd rfl hready
    | ready | failed => rfl

/-- The steps that a relay makes in one go. -/
def turn : Relay → List (Move σ)
  | .copying _ _ => [.up, .down]
  | .closing _ => [.close]
  | .finished _ => []

/-- **A relay that makes a step of its own makes steps in one of the orders.** -/
theorem step_eq_run (e : Ends σ) (r : Relay) (s : σ × List Act) :
    r.step e.recorded s = run e r.turn (r, s) := by
  cases r with
  | closing | finished => rfl
  | copying up down =>
    show step _ _ _ = act e (stepUp e.recorded up down s) .down
    unfold step
    dsimp only
    generalize stepUp e.recorded up down s = r
    obtain ⟨r', s'⟩ := r
    cases r' <;> rfl

theorem Ends.within_recorded (e : Ends σ) : e.recorded.Within Prod.fst e where
  near := ⟨fun _ _ => rfl, fun _ _ => rfl⟩
  tunnel := ⟨fun _ _ => rfl, fun _ _ => rfl⟩
  started _ := rfl
  ended _ := rfl
  countUp _ _ := rfl
  countDown _ _ := rfl
  abandon _ := rfl
  closeTunnel _ := rfl
  closeNear _ := rfl

/-- **Watching a relay changes nothing.** -/
theorem step_recorded (e : Ends σ) (r : Relay) (s : σ × List Act) :
    r.step e s.1 = Prod.map id Prod.fst (r.step e.recorded s) :=
  step_within e.within_recorded r s

end Relay

end SealedTunnel
