import SealedTunnel.Conn.Carrier
import SealedTunnel.Proofs.Stream.Reliable

/-!
# Reliable streams under a connection

The stream under a connection takes what is put in, and takes none of it back when it is flushed or
shut. Either may make its user wait. So a frame that is emitted over such a stream is on it from its
first byte on, and all of it is if the stream does not make the writer wait.

## Main definitions

* `Carrier.Takes`, `Carrier.Reliable`: what a stream owes to its writer, and to both its users
* `Carrier.Carries`: a one-way stream, which gives what it has taken
* `Carrier.Joins`: the two ends of a link

## Main results

* `Carrier.Takes.emitted`: emitting puts in the first of the bytes, all of them if the stream does
  not make it wait
* `Carrier.emit_keeps`: it keeps what writing and flushing keep
* `Carrier.Carries.finish`: shutting comes to its end, or has to wait
-/

namespace SealedTunnel

namespace Carrier

variable {τ : Type}

/-- As long as it is `up`, the stream takes bytes, of which flushing takes none back; those that it
has taken so far are `taken`. -/
structure Takes (d : Carrier τ) (up : τ → Prop) (taken : τ → Bytes) : Prop
    extends d.toDuplex.Takes up taken where
  flush_keeps : ∀ {s}, up s → up (d.flush s).2 ∧ taken (d.flush s).2 = taken s
  flush_unfailing : ∀ {s e s'}, up s → d.flush s ≠ (.failed e, s')

/-- A two-way stream whose two directions do not disturb each other, nor does flushing. -/
structure Reliable (d : Carrier τ) (up : τ → Prop) (taken ahead : τ → Bytes) : Prop
    extends d.toDuplex.Reliable up taken ahead where
  flush_keeps : ∀ {s}, up s →
    up (d.flush s).2 ∧ taken (d.flush s).2 = taken s ∧ ahead (d.flush s).2 = ahead s
  flush_unfailing : ∀ {s e s'}, up s → d.flush s ≠ (.failed e, s')

theorem Reliable.puts {d : Carrier τ} {up : τ → Prop} {taken ahead : τ → Bytes}
    (h : d.Reliable up taken ahead) : d.Takes up taken where
  toTakes := h.takes
  flush_keeps hs := ⟨(h.flush_keeps hs).1, (h.flush_keeps hs).2.1⟩
  flush_unfailing := h.flush_unfailing

/-! ## Emitting -/

section Emitting

variable {d : Carrier τ} {up : τ → Prop} {taken : τ → Bytes}

/-- **Emitting puts in the first of the bytes**, all of them if it comes to its end. -/
theorem Takes.emitted (h : d.Takes up taken) (data : Bytes) {s : τ} (hs : up s) :
    ∃ went rest, data = went ++ rest ∧ up (d.emit data s).2 ∧
      taken (d.emit data s).2 = taken s ++ went ∧
      (rest = [] ∧ (d.emit data s).1 = .complete [] ∨ (d.emit data s).1 = .partway rest) := by
  obtain ⟨went, hdelivered, hup, htaken⟩ := h.toTakes.delivered data s hs
  unfold emit
  generalize d.deliver data s = r at hdelivered hup htaken
  obtain ⟨transfer, s'⟩ := r
  dsimp only at hdelivered hup htaken
  cases hdelivered with
  | complete =>
    obtain ⟨hup', htaken'⟩ := h.flush_keeps hup
    have hsure (e : IoError) (t : τ) : d.flush s' ≠ (.failed e, t) := h.flush_unfailing hup
    dsimp only
    generalize d.flush s' = x at hup' htaken' hsure
    obtain ⟨outcome, s''⟩ := x
    refine ⟨_, [], (List.append_nil _).symm, ?_⟩
    cases outcome with
    | ready => exact ⟨hup', htaken'.trans htaken, .inl ⟨rfl, rfl⟩⟩
    | failed e => exact absurd rfl (hsure e s'')
    | waiting => exact ⟨hup', htaken'.trans htaken, .inr rfl⟩
  | @partway _ rest => exact ⟨went, rest, rfl, hup, htaken, .inr rfl⟩

/-- What writing and flushing keep, emitting keeps. -/
theorem emit_keeps {P : τ → Prop} (hwrite : ∀ {bs s}, bs ≠ [] → P s → P (d.write bs s).2)
    (hflush : ∀ {s}, P s → P (d.flush s).2) (data : Bytes) {s : τ} (hs : P s) :
    P (d.emit data s).2 := by
  have hdelivered := d.deliver_keeps hwrite data hs
  unfold emit
  generalize d.deliver data s = r at hdelivered
  obtain ⟨transfer, s'⟩ := r
  cases transfer with
  | partway | stopped => exact hdelivered
  | complete got =>
    have hflushed := hflush hdelivered
    dsimp only at hflushed ⊢
    generalize d.flush s' = x at hflushed
    obtain ⟨outcome, s''⟩ := x
    cases outcome <;> exact hflushed

end Emitting

@[simp] theorem finish_snd (d : Carrier τ) (s : τ) : (d.finish s).2 = (d.shut s).2 := by
  unfold finish
  generalize d.shut s = r
  obtain ⟨outcome, s'⟩ := r
  cases outcome with
  | ready | waiting => rfl
  | failed e => cases e <;> rfl

/-! ## Links -/

/-- What is put in at one end waits in a queue until it is read at the other; once the stream is
shut, it ends behind that. -/
structure Carries (d : Carrier τ) (queue : τ → Bytes) (closed : τ → Bool) : Prop where
  ready : ∀ {n s bs s'}, 0 < n → d.read n s = (.ready bs, s') →
    bs.length ≤ n ∧ queue s = bs ++ queue s' ∧ closed s' = closed s ∧
      (bs = [] → queue s = [] ∧ closed s = true)
  waiting : ∀ {n s s'}, 0 < n → d.read n s = (.waiting, s') →
    queue s' = queue s ∧ closed s' = closed s
  unfailing : ∀ {n s e s'}, 0 < n → d.read n s ≠ (.failed e, s')
  takes : d.Takes (closed · = false) queue
  shut_ready : ∀ {s s'}, d.shut s = (.ready (), s') → queue s' = queue s ∧ closed s' = true
  shut_waiting : ∀ {s s'}, d.shut s = (.waiting, s') → queue s' = queue s ∧ closed s' = closed s
  shut_unfailing : ∀ {s e s'}, d.shut s ≠ (.failed e, s')

/-- Whatever is still to be put in, the reader has it ahead behind what waits in the queue. -/
theorem Carries.gives {d : Carrier τ} {queue : τ → Bytes} {closed : τ → Bool}
    (h : d.Carries queue closed) (coming : Bytes) :
    d.Gives fun s => queue s ++ if closed s then [] else coming where
  ready := by
    intro n s bs s' hn hr
    obtain ⟨hle, hqueue, hclosed, hend⟩ := h.ready hn hr
    refine ⟨hle, by rw [hqueue, hclosed, List.append_assoc], ?_⟩
    rintro rfl
    obtain ⟨hempty, hshut⟩ := hend rfl
    rw [hempty] at hqueue
    rw [hclosed, hshut, if_pos rfl, List.append_nil]
    exact hqueue.symm
  waiting := by
    intro n s s' hn hr
    obtain ⟨hqueue, hclosed⟩ := h.waiting hn hr
    rw [hqueue, hclosed]
  unfailing := h.unfailing

/-- Reading does not shut the stream. -/
theorem Carries.closed_read {d : Carrier τ} {queue : τ → Bytes} {closed : τ → Bool}
    (h : d.Carries queue closed) {n : Nat} {s : τ} (hn : 0 < n) :
    closed (d.read n s).2 = closed s := by
  cases hr : d.read n s with
  | mk outcome s' =>
    cases outcome with
    | ready bs => exact (h.ready hn hr).2.2.1
    | failed e => exact absurd hr (h.unfailing hn)
    | waiting => exact (h.waiting hn hr).2

/-- Shutting comes to its end, or has to wait; what is in the queue stays there. -/
theorem Carries.finish {d : Carrier τ} {queue : τ → Bytes} {closed : τ → Bool}
    (h : d.Carries queue closed) (s : τ) :
    queue (d.finish s).2 = queue s ∧
      ((d.finish s).1 = .ready () ∧ closed (d.finish s).2 = true ∨
        (d.finish s).1 = .waiting ∧ closed (d.finish s).2 = closed s) := by
  have hready (s' : τ) (hs : d.shut s = (.ready (), s')) := h.shut_ready hs
  have hwaiting (s' : τ) (hs : d.shut s = (.waiting, s')) := h.shut_waiting hs
  have hsure (e : ShutFault) (s' : τ) : d.shut s ≠ (.failed e, s') := h.shut_unfailing
  unfold Carrier.finish
  generalize d.shut s = r at hready hwaiting hsure
  obtain ⟨outcome, s'⟩ := r
  cases outcome with
  | ready => exact ⟨(hready s' rfl).1, .inl ⟨rfl, (hready s' rfl).2⟩⟩
  | failed e => exact absurd rfl (hsure e s')
  | waiting => exact ⟨(hwaiting s' rfl).1, .inr ⟨rfl, (hwaiting s' rfl).2⟩⟩

/-- Two ends of a link, of which the near one may be shut, or dropped altogether. What is put in at
the near end comes out at the far end, and what goes the other way does not disturb it. -/
structure Joins (near far : Carrier τ) (drop : τ → τ) (queue : τ → Bytes) (closed : τ → Bool)
    (returning : τ → Bytes) : Prop where
  carries : Carries { near with read := far.read } queue closed
  returns : near.Gives returning
  read_near : ∀ n s, queue (near.read n s).2 = queue s ∧ closed (near.read n s).2 = closed s
  write_far : ∀ bs s, queue (far.write bs s).2 = queue s ∧ closed (far.write bs s).2 = closed s
  flush_far : ∀ s, queue (far.flush s).2 = queue s ∧ closed (far.flush s).2 = closed s
  queue_drop : ∀ s, queue (drop s) = queue s
  closed_drop : ∀ s, closed (drop s) = true

namespace Joins

variable {near far : Carrier τ} {drop : τ → τ} {queue returning : τ → Bytes} {closed : τ → Bool}

/-- The far end gives what is in the link, and what is still coming, if anything more comes. -/
theorem gives (h : near.Joins far drop queue closed returning) (coming : Bytes) :
    far.Gives fun s => queue s ++ if closed s then [] else coming :=
  let ⟨ready, waiting, unfailing⟩ := h.carries.gives coming
  ⟨ready, waiting, unfailing⟩

theorem takes (h : near.Joins far drop queue closed returning) :
    near.Takes (closed · = false) queue :=
  let ⟨⟨ready, waiting, unfailing⟩, flush_keeps, flush_unfailing⟩ := h.carries.takes
  ⟨⟨ready, waiting, unfailing⟩, flush_keeps, flush_unfailing⟩

theorem finish (h : near.Joins far drop queue closed returning) (s : τ) :
    queue (near.finish s).2 = queue s ∧
      ((near.finish s).1 = .ready () ∧ closed (near.finish s).2 = true ∨
        (near.finish s).1 = .waiting ∧ closed (near.finish s).2 = closed s) :=
  h.carries.finish s

theorem closed_read (h : near.Joins far drop queue closed returning) {n : Nat} {s : τ}
    (hn : 0 < n) : closed (far.read n s).2 = closed s :=
  h.carries.closed_read hn

end Joins

end Carrier

end SealedTunnel
