import SealedTunnel.Proofs.Relay.Guide
import SealedTunnel.Proofs.Relay.Steps

/-!
# What a relay has forwarded

A lane reads chunks and forwards them. A chunk is forwarded once its last byte was taken; of a chunk
that a lane was stopped in, however many of its bytes were taken, nothing is. The record of a relay
says what was forwarded from nothing but the chunks that came and how many bytes went. A lane counts
chunks as it goes, and its count agrees with that whenever the relay rests between two steps: also
when the lane has failed, when the other lane has ended, and when the relay was given up.

## Main definitions

* `Relay.inFull`: the chunks that lie within so many bytes
* `Relay.chunks`, `Relay.forwarded`: what a record says about the chunks of a lane
* `Relay.Settled`: the count of a lane is what it has forwarded

## Main results

* `Relay.Orderly.settled_of_ne`: a lane with a chunk in hand has counted all that it has forwarded
* `Relay.settled_act`, `Relay.drop_keeps`: no step of a relay, and not giving it up either,
  leaves a chunk that was forwarded uncounted
-/

namespace SealedTunnel

namespace Relay

/-! ## Chunks -/

/-- The chunks that lie within the first so many bytes. -/
def inFull : List Bytes → Nat → List Bytes
  | [], _ => []
  | c :: cs, n => if c.length ≤ n then c :: inFull cs (n - c.length) else []

theorem inFull_append (done cs : List Bytes) {n : Nat} (h : done.flatten.length ≤ n) :
    inFull (done ++ cs) n = done ++ inFull cs (n - done.flatten.length) := by
  induction done generalizing n with
  | nil => rfl
  | cons c done ih =>
    rw [List.flatten_cons, List.length_append] at h
    rw [List.cons_append, inFull, if_pos (by omega), ih (by omega), List.flatten_cons,
      List.length_append, Nat.sub_add_eq, List.cons_append]

theorem inFull_flatten (cs : List Bytes) : inFull cs cs.flatten.length = cs := by
  have h := inFull_append cs [] (Nat.le_refl cs.flatten.length)
  rwa [List.append_nil, inFull, List.append_nil] at h

/-- The chunk that a source gives. -/
def Act.chunk (w : Way) : Act → List Bytes
  | .read w' (.ready bs) => if w' = w then [bs] else []
  | _ => []

/-- The chunks that the source of a lane has given. -/
def chunks (w : Way) (log : List Act) : List Bytes :=
  log.flatMap (Act.chunk w)

/-- How many bytes the chunks have that a lane has forwarded. -/
def forwarded (w : Way) (log : List Act) : Nat :=
  (inFull (chunks w log) (took w log).length).flatten.length

/-- The count of a lane is what it has forwarded. -/
def Settled (w : Way) (log : List Act) : Prop :=
  counter w log = .ofNat (forwarded w log)

variable {σ : Type} {w w' : Way} {log log' : List Act} {act : Act}

@[simp] theorem chunks_concat : chunks w (log ++ [act]) = chunks w log ++ act.chunk w := by
  rw [chunks, List.flatMap_append, List.flatMap_singleton, chunks]

@[simp] theorem Act.chunk_wrote {data : Bytes} {outcome : Poll TunnelError Nat} :
    (Act.wrote w data outcome).chunk w' = [] := rfl

@[simp] theorem Act.chunk_read_ready (bs : Bytes) : (Act.read w (.ready bs)).chunk w = [bs] :=
  if_pos rfl

theorem Act.chunk_of_ne (h : act.way? ≠ some w) : act.chunk w = [] := by
  cases act with
  | read w' outcome =>
    cases outcome with
    | ready bs => exact if_neg fun hw => h (congrArg some hw)
    | failed | waiting => rfl
  | wrote | counted | abandoned | closedTunnel | closedNear | ended => rfl

theorem Act.flatten_chunk (w : Way) (act : Act) : (act.chunk w).flatten = act.gave w := by
  cases act with
  | read w' outcome =>
    cases outcome with
    | ready bs =>
      show (if w' = w then [bs] else []).flatten = if w' = w then bs else []
      split
      · rw [List.flatten_singleton]
      · rfl
    | failed | waiting => rfl
  | wrote | counted | abandoned | closedTunnel | closedNear | ended => rfl

/-- The chunks of a lane are cut from what its source gave. -/
theorem flatten_chunks (w : Way) (log : List Act) : (chunks w log).flatten = gave w log := by
  rw [chunks, gave, List.flatMap_def, List.flatten_flatten, List.map_map, List.flatMap_def]
  exact congrArg List.flatten (List.map_congr_left fun act _ => Act.flatten_chunk w act)

/-- A lane that has written all that it has read has forwarded it. -/
theorem forwarded_of_took (h : took w log = gave w log) :
    forwarded w log = (gave w log).length := by
  rw [forwarded, h, ← flatten_chunks, inFull_flatten]

/-! ## What the order of a record says about its counts -/

/-- What was counted is the length of all chunks but the one in hand, and these were written. -/
def InHand (w : Way) (log : List Act) : Prop :=
  ∃ done c, chunks w log = done ++ [c] ∧ counter w log = .ofNat done.flatten.length ∧
    done.flatten.length ≤ (took w log).length

namespace Orderly

/-- **Where a lane has not written all that it has read, it has a chunk in hand and has counted the
others.** -/
theorem inHand (h : Orderly log) (w : Way) : took w log = gave w log ∨ InHand w log := by
  have hmore {log : List Act} {act : Act} (hchunk : act.chunk w = []) (hcount : act.count w = 0)
      (h : InHand w log) : InHand w (log ++ [act]) := by
    obtain ⟨done, c, hchunks, hcounter, hle⟩ := h
    refine ⟨done, c, ?_, ?_, ?_⟩
    · rw [chunks_concat, hchunk, List.append_nil, hchunks]
    · rw [counter_concat, hcount, UInt64.add_zero, hcounter]
    · rw [took_concat, List.length_append]
      exact Nat.le_add_right_of_le hle
  have hother {log : List Act} {act : Act} (hact : act.way? ≠ some w)
      (h : took w log = gave w log ∨ InHand w log) :
      took w (log ++ [act]) = gave w (log ++ [act]) ∨ InHand w (log ++ [act]) := by
    rcases h with hall | hhand
    · refine .inl ?_
      rw [took_concat, gave_concat, Act.took_of_ne hact, Act.gave_of_ne hact, hall]
    · exact .inr (hmore (Act.chunk_of_ne hact) (Act.count_of_ne hact) hhand)
  induction h with
  | nil => exact .inl rfl
  | @read w' log outcome h hgoing hall hcount ih =>
    by_cases hw : w' = w
    · subst hw
      cases outcome with
      | ready bs =>
        refine .inr ⟨chunks w' log, bs, ?_, ?_, ?_⟩
        · rw [chunks_concat, Act.chunk_read_ready]
        · rw [counter_concat, Act.count_read, UInt64.add_zero, flatten_chunks, hcount]
        · refine Nat.le_of_eq ?_
          rw [took_concat, Act.took_read, List.append_nil, flatten_chunks, hall]
      | failed | waiting =>
        refine .inl ?_
        rw [took_concat, Act.took_read, List.append_nil, hall, gave_concat]
        exact (List.append_nil _).symm
    · exact hother (mt Option.some.inj hw) ih
  | @wrote w' log data outcome h hgoing hdata ih =>
    by_cases hw : w' = w
    · subst hw
      rcases ih with hall | hhand
      · have hnil : data = [] := by
          rw [← hall] at hdata
          exact List.append_right_eq_self.1 hdata
        subst hnil
        refine .inl ?_
        rw [took_concat, gave_concat, Act.gave_wrote, List.append_nil, ← hall]
        refine (congrArg (took w' log ++ ·) ?_).trans (List.append_nil _)
        cases outcome with
        | ready n => rw [Act.took_wrote_ready, List.take_nil]
        | failed | waiting => rfl
      · exact .inr (hmore Act.chunk_wrote Act.count_wrote hhand)
    · exact hother (mt Option.some.inj hw) ih
  | @counted w' log n h hgoing hall hcount ih =>
    by_cases hw : w' = w
    · subst hw
      refine .inl ?_
      rw [took_concat, gave_concat, Act.took_counted, Act.gave_counted, hall]
    · exact hother (mt Option.some.inj hw) ih
  | @closing log act h hact ih =>
    refine hother ?_ ih
    rw [hact]
    nofun

/-- A lane with a chunk in hand has counted all that it has forwarded. -/
theorem settled_of_ne (h : Orderly log) (hne : took w log ≠ gave w log) : Settled w log := by
  obtain ⟨done, c, hchunks, hcounter, hle⟩ := (h.inHand w).resolve_left hne
  have hlt : (took w log).length < (gave w log).length := by
    refine Nat.lt_of_le_of_ne (h.in_order w).length_le ?_
    exact mt (h.in_order w).eq_of_length hne
  rw [← flatten_chunks, hchunks, List.flatten_append, List.flatten_singleton,
    List.length_append] at hlt
  rw [Settled, hcounter, forwarded, hchunks, inFull_append _ _ hle, inFull, if_neg (by omega),
    List.append_nil]

end Orderly

/-- What leaves the chunks, the bytes and the count of a lane alone leaves it settled. -/
theorem Settled.of_eq (h : Settled w log) (hchunks : chunks w log' = chunks w log)
    (htook : took w log' = took w log) (hcounter : counter w log' = counter w log) :
    Settled w log' := by
  rw [Settled, forwarded, hchunks, htook, hcounter]
  exact h

theorem Settled.concat (h : Settled w log) (hact : act.way? ≠ some w) :
    Settled w (log ++ [act]) := by
  refine h.of_eq ?_ ?_ ?_
  · rw [chunks_concat, Act.chunk_of_ne hact, List.append_nil]
  · rw [took_concat, Act.took_of_ne hact, List.append_nil]
  · rw [counter_concat, Act.count_of_ne hact, UInt64.add_zero]

/-- Closing leaves both lanes settled. -/
theorem Settled.closing (h : Settled w log) (hact : act.way? = none) :
    Settled w (log ++ [act]) := by
  refine h.concat ?_
  rw [hact]
  nofun

/-- What one lane does leaves the other one settled. -/
theorem Settled.of_since (h : Settled w' log) (hs : Since w log log') (hw : w ≠ w') :
    Settled w' log' := by
  induction hs with
  | refl => exact h
  | concat _ hact ih =>
    refine ih.concat ?_
    rw [hact]
    exact mt Option.some.inj hw

end Relay

/-! ## Lanes -/

open Relay

namespace Lane

variable {σ : Type} {w : Way} {l : Lane} {log : List Act}
  {source out : Duplex TunnelError (σ × List Act)}
  {count : UInt64 → σ × List Act → σ × List Act}

/-- A lane that stands between two steps has counted what it has forwarded. -/
theorem Stands.settled (h : l.Stands w log) (horderly : Orderly log) : Settled w log := by
  by_cases hnil : l.unsent = []
  · obtain ⟨hall, hcount⟩ := h.drained hnil
    rw [Settled, forwarded_of_took hall]
    exact hcount
  · refine horderly.settled_of_ne fun hall => hnil ?_
    have := h.unsent
    rw [hall] at this
    exact List.append_right_eq_self.1 this

/-- A destination that fails, or takes nothing, leaves something in hand. -/
theorem guided_write (h : Watched w source out count) :
    out.Guided (fun rest s => took w s.2 ++ rest = gave w s.2)
      fun s => took w s.2 ≠ gave w s.2 := by
  intro data s hne hs
  have hlog := h.write data s
  have hgave : gave w (out.write data s).2.2 = gave w s.2 := by
    rw [hlog, gave_concat, Act.gave_wrote, List.append_nil]
  have htook : took w (out.write data s).2.2 =
      took w s.2 ++ (Act.wrote w data (out.write data s).1).took w := by
    rw [hlog, took_concat]
  have hstuck (hnone : (Act.wrote w data (out.write data s).1).took w = []) :
      took w (out.write data s).2.2 ≠ gave w (out.write data s).2.2 := by
    rw [hgave, htook, hnone, List.append_nil, ← hs]
    exact fun heq => hne (List.append_right_eq_self.1 heq.symm)
  generalize out.write data s = r at hgave htook hstuck
  obtain ⟨outcome, s'⟩ := r
  cases outcome with
  | waiting =>
    show took w s'.2 ++ data = gave w s'.2
    rw [hgave, htook]
    exact (congrArg (· ++ data) (List.append_nil _)).trans hs
  | failed e => exact hstuck rfl
  | ready n =>
    rw [Act.took_wrote_ready] at htook hstuck
    cases n with
    | zero => exact hstuck rfl
    | succ n =>
      show took w s'.2 ++ data.drop (n + 1) = gave w s'.2
      rw [hgave, htook, List.append_assoc, List.take_append_drop]
      exact hs

/-- **A lane that stops writing because it fails has counted what it has forwarded.** -/
theorem settled_write (h : Watched w source out count) {s : σ × List Act} (horderly : Orderly s.2)
    (hgoing : Going s.2) (hl : l.Stands w s.2) :
    Settled w (l.write out (stuck w) count s).2.2 := by
  obtain ⟨ho, -, hfits⟩ := fits_write h horderly hgoing hl
  have hput := (guided_write h).deliver l.unsent hl.unsent
  unfold write at ho hfits ⊢
  generalize out.deliver l.unsent s = r at ho hfits hput
  obtain ⟨transfer, s'⟩ := r
  cases transfer with
  | complete | partway => exact hfits.2.settled ho
  | stopped why => cases why <;> exact ho.settled_of_ne hput

/-- **After every step of it, a lane has counted what it has forwarded.** -/
theorem settled_step (h : Watched w source out count) {s : σ × List Act} (horderly : Orderly s.2)
    (hgoing : Going s.2) (hl : l.Stands w s.2) :
    Settled w (l.step source out (stuck w) count s).2.2 := by
  obtain ⟨ho, -, hfits⟩ := fits_step h horderly hgoing hl
  have hs := hl.settled horderly
  unfold step at ho hfits ⊢
  by_cases hempty : l.unsent.isEmpty
  · rw [if_pos hempty] at ho hfits ⊢
    have hlog := h.read chunkLimit s
    generalize source.read chunkLimit s = r at ho hfits hlog
    obtain ⟨outcome, s'⟩ := r
    dsimp only at hlog
    have hidle (hchunk : (Act.read w outcome).chunk w = []) : Settled w s'.2 := by
      refine hs.of_eq ?_ ?_ ?_
      · rw [hlog, chunks_concat, hchunk, List.append_nil]
      · rw [hlog, took_concat, Act.took_read, List.append_nil]
      · rw [hlog, counter_concat, Act.count_read, UInt64.add_zero]
    cases outcome with
    | waiting | failed => exact hidle rfl
    | ready bs =>
      cases bs with
      | nil => exact hfits.1.settled ho
      | cons b bs =>
        have hnil := List.isEmpty_iff.1 hempty
        obtain ⟨hall, hcount⟩ := hl.drained hnil
        have ho' : Orderly s'.2 := by
          rw [hlog]
          exact .read _ horderly hgoing hall hcount
        have hgo : Going s'.2 := by
          rw [hlog]
          exact going_concat hgoing rfl
        refine settled_write h ho' hgo ?_
        rw [hlog]
        exact hl.take hnil (List.cons_ne_nil b bs)
  · rw [if_neg hempty]
    exact settled_write h horderly hgoing hl

/-- The other lane, which stands somewhere, has done so as well. -/
theorem settled_step_both (h : Watched w source out count) {s : σ × List Act}
    (horderly : Orderly s.2) (hgoing : Going s.2) (hl : l.Stands w s.2)
    (hother : ∀ w', w ≠ w' → Settled w' s.2) (w' : Way) :
    Settled w' (l.step source out (stuck w) count s).2.2 := by
  by_cases hw : w = w'
  · subst hw
    exact settled_step h horderly hgoing hl
  · exact (hother w' hw).of_since (fits_step h horderly hgoing hl).2.1 hw

end Lane

/-! ## Relays -/

namespace Relay

variable {σ : Type} {e : Ends σ} {up down : Lane}

theorem settled_stepUp {s : σ × List Act} (horderly : Orderly s.2)
    (hfits : (copying up down).Fits s.2) (w : Way) :
    Settled w (stepUp e.recorded up down s).2.2 := by
  obtain ⟨hgoing, hup, hdown⟩ := hfits
  have hother : ∀ w', .up ≠ w' → Settled w' s.2 := by
    intro w' hw
    cases w' with
    | up => exact absurd rfl hw
    | down => exact hdown.settled horderly
  have hlane := Lane.settled_step_both (watched_up e) horderly hgoing hup hother w
  unfold stepUp
  change Settled w (Lane.step _ _ .closed _ up s).2.2 at hlane
  generalize Lane.step e.recorded.near e.recorded.tunnel .closed e.recorded.countUp up s = r
    at hlane
  obtain ⟨state, s'⟩ := r
  cases state with
  | running => exact hlane
  | ended | failed => exact hlane.closing rfl

theorem settled_stepDown {s : σ × List Act} (horderly : Orderly s.2)
    (hfits : (copying up down).Fits s.2) (w : Way) :
    Settled w (stepDown e.recorded up down s).2.2 := by
  obtain ⟨hgoing, hup, hdown⟩ := hfits
  have hother : ∀ w', .down ≠ w' → Settled w' s.2 := by
    intro w' hw
    cases w' with
    | up => exact hup.settled horderly
    | down => exact absurd rfl hw
  have hlane := Lane.settled_step_both (watched_down e) horderly hgoing hdown hother w
  unfold stepDown
  change Settled w (Lane.step _ _ (.io .nothingTaken) _ down s).2.2 at hlane
  generalize Lane.step e.recorded.tunnel e.recorded.near (.io .nothingTaken) e.recorded.countDown
    down s = r at hlane
  obtain ⟨state, s'⟩ := r
  cases state with
  | running => exact hlane
  | ended | failed => exact hlane.closing rfl

/-- **No step of a relay leaves a chunk that was forwarded uncounted**, and none counts a chunk that
was not. -/
theorem settled_act (m : Move σ) {r : Relay × σ × List Act} (horderly : Orderly r.2.2)
    (hfits : r.1.Fits r.2.2) {w : Way} (hs : Settled w r.2.2) : Settled w (act e r m).2.2 := by
  obtain ⟨r, s, log⟩ := r
  cases m with
  | others f => cases r <;> exact hs
  | up =>
    cases r with
    | copying up down => exact settled_stepUp horderly hfits w
    | closing | finished => exact hs
  | down =>
    cases r with
    | copying up down => exact settled_stepDown horderly hfits w
    | closing | finished => exact hs
  | close =>
    cases r with
    | closing result =>
      exact (step_closing (P := Settled w) (fun hact hs => hs.closing hact) e result s hs).2
    | copying | finished => exact hs

/-- What acts of no lane keep, giving up the relay keeps. -/
theorem drop_keeps {P : List Act → Prop}
    (h : ∀ {acts act}, act.way? = none → P acts → P (acts ++ [act])) (e : Ends σ) (r : Relay)
    (s : σ) {acts : List Act} (hacts : P acts) : P (r.drop e.recorded (s, acts)).2 := by
  cases r with
  | copying | closing =>
    have habandoned : P (acts ++ [.abandoned]) := h rfl hacts
    exact h rfl habandoned
  | finished => exact hacts

end Relay

end SealedTunnel
