import SealedTunnel.Ends.Admission
import Mathlib.Data.List.Nodup

/-!
# Permits are neither lost nor doubled

However connections come and end, attempts to accept fail, and the end is asked for, every permit is
free, or held by the accepting loop, or held by one connection that is being served. So no more
connections are served than there are permits, the loop never waits for a permit while one is free,
and it ends only because that was asked for.

## Main definitions

* `Admission.inHand`: the permit that the accepting loop holds
* `Admission.Change`: everything that a step can do
* `Admission.Kept`: what is known of the loop by the steps that were made

## Main results

* `Admission.Kept.change`, `Admission.Kept.run`: every step keeps it, and every sequence of steps
* `Admission.exists_moves_run`: a run of events is a sequence of such steps
* `Admission.permits_are_kept`: all of it for the loop with a limit on the connections
-/

namespace SealedTunnel

namespace Admission

/-- How many permits the accepting loop holds. -/
def inHand (a : Admission) : Nat :=
  match a.phase with
  | .awaitConnection | .pausing => 1
  | .awaitPermit | .ended => 0

/-- How many connections came in a sequence of steps. -/
def arrivals (moves : List AdmissionMove) : Nat :=
  moves.count (.event .connectionCame)

/-- In a sequence of steps serving a connection has ended. -/
def Left (connection : Nat) (moves : List AdmissionMove) : Prop :=
  ∃ how, .event (.servingEnded connection how) ∈ moves

variable {a b : Admission} {m : AdmissionMove} {c n all : Nat} {past moves : List AdmissionMove}

/-! ## Steps -/

/-- Everything that a step can do. -/
inductive Change (a : Admission) : AdmissionMove → Admission → Prop
  | took (hphase : a.phase = .awaitPermit) (hfree : 0 < a.free) :
      Change a .takesPermit { a with free := a.free - 1, phase := .awaitConnection }
  | came (hphase : a.phase = .awaitConnection) :
      Change a (.event .connectionCame)
        { a with serving := a.serving ++ [a.came], came := a.came + 1, phase := .awaitPermit }
  | failed (error : IoError) (hphase : a.phase = .awaitConnection) :
      Change a (.event (.acceptFailed error)) { a with phase := .pausing }
  | resumed (hphase : a.phase = .pausing) :
      Change a (.event .pauseOver) { a with free := a.free + 1, phase := .awaitPermit }
  | left {connection : Nat} (how : Leaving) (hserved : connection ∈ a.serving) :
      Change a (.event (.servingEnded connection how))
        { a with serving := a.serving.erase connection, free := a.free + 1 }
  | asked : Change a (.event .stopAsked) { a with stopping := true }
  | ended (hstop : a.stopping = true) (hphase : a.phase = .awaitPermit) :
      Change a .ends { a with phase := .ended }
  | returned (hstop : a.stopping = true) (hphase : a.phase = .awaitConnection) :
      Change a .ends { a with free := a.free + 1, phase := .ended }

theorem Change.of_event {e : AdmissionEvent} (h : a.event? e = some b) : Change a (.event e) b := by
  cases e with
  | connectionCame =>
    obtain ⟨hphase, rfl⟩ := by simpa [event?] using h
    exact .came hphase
  | acceptFailed error =>
    obtain ⟨hphase, rfl⟩ := by simpa [event?] using h
    exact .failed error hphase
  | pauseOver =>
    obtain ⟨hphase, rfl⟩ := by simpa [event?] using h
    exact .resumed hphase
  | servingEnded connection how =>
    obtain ⟨hserved, rfl⟩ := by simpa [event?] using h
    exact .left how hserved
  | stopAsked =>
    obtain rfl := by simpa [event?] using h
    exact .asked

theorem Change.of_move (h : a.move? m = some b) : Change a m b := by
  cases m with
  | event e => exact .of_event h
  | takesPermit =>
    obtain ⟨⟨hphase, hfree⟩, rfl⟩ := by simpa [move?, takePermit?] using h
    exact .took hphase (Nat.pos_of_ne_zero hfree)
  | ends =>
    simp only [move?, end?] at h
    split at h
    · rename_i hstop
      split at h
      · obtain rfl := Option.some.inj h
        exact .ended hstop ‹_›
      · obtain rfl := Option.some.inj h
        exact .returned hstop ‹_›
      · cases h
      · cases h
    · cases h

/-! ## What every step keeps -/

/-- What is known of the loop by the steps that were made so far: every permit is at one place, the
connections that came and have not ended are being served, and the loop has ended only after it was
asked to. -/
structure Kept (all : Nat) (past : List AdmissionMove) (a : Admission) : Prop where
  conserved : a.serving.length + a.inHand + a.free = all
  mem_serving : ∀ c, c ∈ a.serving ↔ c < a.came ∧ ¬Left c past
  nodup : a.serving.Nodup
  /-- Nobody leaves who has not come. -/
  left_lt : ∀ {c}, Left c past → c < a.came
  came_eq : a.came = arrivals past
  stopping_iff : a.stopping = true ↔ .event .stopAsked ∈ past
  ended_iff : a.phase = .ended ↔ .ends ∈ past

theorem Kept.initial (n : Nat) : Kept (permits n) [] (initial n) := by
  refine ⟨?_, ?_, .nil, ?_, rfl, ?_, ?_⟩
  · simp [Admission.initial, inHand]
  · simp [Admission.initial]
  · simp [Left]
  · simp [Admission.initial]
  · simp [Admission.initial]

theorem left_concat : Left c (past ++ [m]) ↔
    Left c past ∨ ∃ how, m = .event (.servingEnded c how) := by
  simp only [Left, List.mem_append, List.mem_singleton, exists_or, eq_comm]

theorem arrivals_concat : arrivals (past ++ [m]) =
    arrivals past + if m = .event .connectionCame then 1 else 0 := by
  simp [arrivals, List.count_append, List.count_cons]

theorem mem_concat_iff {x : AdmissionMove} : x ∈ past ++ [m] ↔ x ∈ past ∨ m = x := by
  rw [List.mem_append, List.mem_singleton, eq_comm]

/-- A step by which nobody comes and nobody leaves. -/
theorem Kept.still (h : Kept all past a) (hserving : b.serving = a.serving)
    (hcame : b.came = a.came) (hpermits : b.inHand + b.free = a.inHand + a.free)
    (hstays : ∀ c how, m ≠ .event (.servingEnded c how)) (hnew : m ≠ .event .connectionCame)
    (hstop : b.stopping = true ↔ a.stopping = true ∨ m = .event .stopAsked)
    (hend : b.phase = .ended ↔ a.phase = .ended ∨ m = .ends) : Kept all (past ++ [m]) b := by
  have hleft (c : Nat) : Left c (past ++ [m]) ↔ Left c past := by
    rw [left_concat]
    refine or_iff_left ?_
    rintro ⟨how, hm⟩
    exact hstays c how hm
  refine ⟨?_, ?_, ?_, ?_, ?_, ?_, ?_⟩
  · rw [hserving, Nat.add_assoc, hpermits, ← Nat.add_assoc]
    exact h.conserved
  · intro c
    rw [hserving, hcame, hleft]
    exact h.mem_serving c
  · rw [hserving]
    exact h.nodup
  · intro c hc
    rw [hcame]
    exact h.left_lt ((hleft c).1 hc)
  · rw [hcame, arrivals_concat, if_neg hnew]
    exact h.came_eq
  · rw [hstop, mem_concat_iff, h.stopping_iff]
  · rw [hend, mem_concat_iff, h.ended_iff]

/-- The permit of the loop goes on with the connection that has come. -/
theorem Kept.came (h : Kept all past a) (hphase : a.phase = .awaitConnection) :
    Kept all (past ++ [.event .connectionCame])
      { a with serving := a.serving ++ [a.came], came := a.came + 1, phase := .awaitPermit } := by
  have hleft (c : Nat) : Left c (past ++ [.event .connectionCame]) ↔ Left c past := by
    simp [left_concat]
  have hnew : a.came ∉ a.serving := fun hmem => Nat.lt_irrefl _ ((h.mem_serving _).1 hmem).1
  have hstays : ¬Left a.came past := fun hgone => Nat.lt_irrefl _ (h.left_lt hgone)
  refine ⟨?_, ?_, ?_, ?_, ?_, ?_, ?_⟩
  · have hconserved := h.conserved
    simp only [inHand, hphase, List.length_append, List.length_singleton] at hconserved ⊢
    omega
  · intro c
    rw [hleft, List.mem_append, List.mem_singleton, h.mem_serving]
    constructor
    · rintro (⟨hlt, hstill⟩ | rfl)
      · exact ⟨Nat.lt_succ_of_lt hlt, hstill⟩
      · exact ⟨Nat.lt_succ_self _, hstays⟩
    · rintro ⟨hle, hstill⟩
      rcases Nat.lt_or_eq_of_le (Nat.le_of_lt_succ hle) with hlt | rfl
      · exact .inl ⟨hlt, hstill⟩
      · exact .inr rfl
  · rw [List.nodup_append]
    refine ⟨h.nodup, by simp, ?_⟩
    rintro c hc _ hd rfl
    exact hnew (List.mem_singleton.1 hd ▸ hc)
  · intro c hc
    exact Nat.lt_succ_of_lt (h.left_lt ((hleft c).1 hc))
  · rw [arrivals_concat, if_pos rfl]
    exact congrArg Nat.succ h.came_eq
  · simpa [mem_concat_iff] using h.stopping_iff
  · have hopen := mt h.ended_iff.2 (by rw [hphase]; decide)
    simpa [mem_concat_iff] using hopen

/-- Whoever leaves gives back one permit, in whatever way serving has ended. -/
theorem Kept.left (h : Kept all past a) {connection : Nat} (how : Leaving)
    (hserved : connection ∈ a.serving) :
    Kept all (past ++ [.event (.servingEnded connection how)])
      { a with serving := a.serving.erase connection, free := a.free + 1 } := by
  have hleft (c : Nat) : Left c (past ++ [.event (.servingEnded connection how)]) ↔
      Left c past ∨ c = connection := by
    rw [left_concat]
    simp [eq_comm]
  refine ⟨?_, ?_, h.nodup.erase _, ?_, ?_, ?_, ?_⟩
  · have hconserved := h.conserved
    have hone := List.length_erase_of_mem hserved
    have hpos := List.length_pos_of_mem hserved
    simp only [inHand] at hconserved ⊢
    omega
  · intro c
    rw [h.nodup.mem_erase_iff, h.mem_serving, hleft]
    constructor
    · rintro ⟨hne, hlt, hstill⟩
      exact ⟨hlt, fun hgone => hgone.elim hstill hne⟩
    · rintro ⟨hlt, hnone⟩
      exact ⟨fun heq => hnone (.inr heq), hlt, fun hgone => hnone (.inl hgone)⟩
  · intro c hc
    rcases (hleft c).1 hc with hgone | rfl
    · exact h.left_lt hgone
    · exact ((h.mem_serving _).1 hserved).1
  · rw [arrivals_concat, if_neg (by simp)]
    exact h.came_eq
  · simpa [mem_concat_iff] using h.stopping_iff
  · simpa [mem_concat_iff] using h.ended_iff

/-- **Every step keeps it.** -/
theorem Kept.change (h : Kept all past a) (hm : Change a m b) : Kept all (past ++ [m]) b := by
  cases hm with
  | took hphase hfree =>
    refine h.still rfl rfl ?_ (by simp) (by simp) (by simp) (by simp [hphase])
    simp only [inHand, hphase]
    omega
  | came hphase => exact h.came hphase
  | failed error hphase =>
    refine h.still rfl rfl ?_ (by simp) (by simp) (by simp) (by simp [hphase])
    simp [inHand, hphase]
  | resumed hphase =>
    refine h.still rfl rfl ?_ (by simp) (by simp) (by simp) (by simp [hphase])
    simp only [inHand, hphase]
    omega
  | left how hserved => exact h.left how hserved
  | asked => exact h.still rfl rfl rfl (by simp) (by simp) (by simp) (by simp)
  | ended hstop hphase =>
    refine h.still rfl rfl ?_ (by simp) (by simp) (by simp) (by simp)
    simp [inHand, hphase]
  | returned hstop hphase =>
    refine h.still rfl rfl ?_ (by simp) (by simp) (by simp) (by simp)
    simp only [inHand, hphase]
    omega

/-- **Every sequence of steps keeps it.** -/
theorem Kept.run (h : Kept all past a) (hm : a.moves? moves = some b) :
    Kept all (past ++ moves) b := by
  induction moves generalizing past a with
  | nil =>
    obtain rfl := Option.some.inj hm
    rwa [List.append_nil]
  | cons m moves ih =>
    obtain ⟨a', hfirst, hrest⟩ := Option.bind_eq_some_iff.1 hm
    have := ih (h.change (.of_move hfirst)) hrest
    rwa [List.append_assoc] at this

/-! ## Sequences of steps -/

theorem moves?_append (a : Admission) (first second : List AdmissionMove) :
    a.moves? (first ++ second) = (a.moves? first).bind fun b => b.moves? second := by
  induction first generalizing a with
  | nil => rfl
  | cons m first ih =>
    simp only [List.cons_append, moves?, Option.bind_assoc]
    exact congrArg _ (funext ih)

/-- What the loop does by itself is a step, or nothing. -/
theorem exists_moves_settle (a : Admission) : ∃ moves, a.moves? moves = some a.settle := by
  unfold settle
  cases hend : a.end? with
  | some b => exact ⟨[.ends], by simp [moves?, move?, hend]⟩
  | none =>
    cases htake : a.takePermit? with
    | some b => exact ⟨[.takesPermit], by simp [moves?, move?, htake]⟩
    | none => exact ⟨[], rfl⟩

theorem exists_moves_step (a : Admission) (e : AdmissionEvent) :
    ∃ moves, a.moves? moves = some (a.step e) := by
  unfold step
  cases he : a.event? e with
  | none => exact ⟨[], rfl⟩
  | some b =>
    obtain ⟨moves, hmoves⟩ := b.exists_moves_settle
    exact ⟨.event e :: moves, by simp [moves?, move?, he, hmoves]⟩

/-- **A run of events is a sequence of steps**: one in which the loop never leaves its end
unnoticed. -/
theorem exists_moves_run (a : Admission) (events : List AdmissionEvent) :
    ∃ moves, a.moves? moves = some (a.run events) := by
  induction events generalizing a with
  | nil => exact ⟨[], rfl⟩
  | cons e events ih =>
    obtain ⟨first, hfirst⟩ := a.exists_moves_step e
    obtain ⟨rest, hrest⟩ := ih (a.step e)
    exact ⟨first ++ rest, by rw [moves?_append, hfirst]; exact hrest⟩

/-- Behind its end the loop takes no permit and no connection. -/
theorem Kept.ne_of_ended (h : Kept all past a) (hend : .ends ∈ past) (hm : Change a m b) :
    m ≠ .takesPermit ∧ m ≠ .event .connectionCame := by
  have hphase := h.ended_iff.2 hend
  cases hm with
  | took hwaits | came hwaits => rw [hphase] at hwaits; cases hwaits
  | failed | resumed | left | asked | ended | returned => exact ⟨by simp, by simp⟩

/-- From its end on the loop takes nothing in any sequence of steps. -/
theorem Kept.not_mem_of_ended (h : Kept all past a) (hend : .ends ∈ past)
    (hm : a.moves? moves = some b) :
    .takesPermit ∉ moves ∧ .event .connectionCame ∉ moves := by
  induction moves generalizing past a with
  | nil => simp
  | cons m moves ih =>
    obtain ⟨a', hfirst, hrest⟩ := Option.bind_eq_some_iff.1 hm
    have hne := h.ne_of_ended hend (.of_move hfirst)
    have hnone := ih (h.change (.of_move hfirst)) (List.mem_append_left _ hend) hrest
    simp only [List.mem_cons, not_or]
    exact ⟨⟨hne.1.symm, hnone.1⟩, hne.2.symm, hnone.2⟩

/-- The loop ends only where that was asked for. -/
theorem Kept.asked_of_ends (h : Kept all past a) (hm : Change a .ends b) :
    .event .stopAsked ∈ past := by
  apply h.stopping_iff.1
  cases hm with
  | ended hstop | returned hstop => exact hstop

/-- While the loop has a permit in its hand, one connection less than permits can be served. -/
theorem Kept.length_le (h : Kept all past a) : a.serving.length ≤ all := by
  have := h.conserved
  omega

/-- With all permits given to connections, no connection is taken. -/
theorem Kept.connectionCame_eq_none (h : Kept all past a) (hfull : a.serving.length = all) :
    a.move? (.event .connectionCame) = none := by
  have hhand : a.inHand = 0 := by
    have := h.conserved
    omega
  simp only [move?, event?, ite_eq_right_iff]
  intro hphase
  simp [inHand, hphase] at hhand

/-- The loop that waits for a permit gets one as long as not all are given to connections. -/
theorem Kept.takesPermit_ne_none (h : Kept all past a) (hphase : a.phase = .awaitPermit)
    (hroom : a.serving.length < all) : a.move? .takesPermit ≠ none := by
  have hconserved := h.conserved
  simp only [inHand, hphase] at hconserved
  have hfree : a.free ≠ 0 := by omega
  simp [move?, takePermit?, hphase, hfree]

/-! ## The limit on the connections -/

/-- **Permits are neither lost nor doubled.** The loop starts for every limit up to the number of
permits there can be, and what it does at a run of events is one of the sequences of steps. After
every sequence of steps, with connections that come, attempts to accept that fail, services that end
in any way and the end asked for in any order, the connections that are being served are those that
came and have not ended; they are not more than the limit; and together with the permit in the
loop's hand and the free ones they make the limit. At the limit no connection is taken, and below it
the loop never waits for a permit in vain. It ends only after that was asked for, and takes nothing
afterwards. -/
theorem permits_are_kept (hn : n ≤ permitLimit) :
    start? n = some (initial n).settle ∧
    (∀ events, ∃ moves, (initial n).moves? moves = some ((initial n).settle.run events)) ∧
    ∀ moves a, (initial n).moves? moves = some a →
      a.serving.length ≤ max 1 n ∧
      a.serving.length + a.inHand + a.free = max 1 n ∧
      a.serving.Nodup ∧
      (∀ c, c ∈ a.serving ↔ c < arrivals moves ∧ ¬Left c moves) ∧
      (a.serving.length = max 1 n → a.move? (.event .connectionCame) = none) ∧
      (a.phase = .awaitPermit → a.serving.length < max 1 n → a.move? .takesPermit ≠ none) ∧
      (a.phase = .ended ↔ .ends ∈ moves) ∧
      ∀ before after, moves = before ++ .ends :: after →
        .event .stopAsked ∈ before ∧ .takesPermit ∉ after ∧ .event .connectionCame ∉ after := by
  refine ⟨if_pos (Nat.max_le.2 ⟨hn, by decide⟩), fun events => ?_, fun moves a hm => ?_⟩
  · obtain ⟨first, hfirst⟩ := (initial n).exists_moves_settle
    obtain ⟨rest, hrest⟩ := (initial n).settle.exists_moves_run events
    exact ⟨first ++ rest, by rw [moves?_append, hfirst]; exact hrest⟩
  · have h := (Kept.initial n).run hm
    rw [permits, Nat.max_comm] at h
    refine ⟨h.length_le, h.conserved, h.nodup, ?_, h.connectionCame_eq_none,
      h.takesPermit_ne_none, h.ended_iff, ?_⟩
    · intro c
      rw [h.mem_serving, h.came_eq]
      rfl
    · rintro before after rfl
      rw [moves?_append] at hm
      obtain ⟨b, hbefore, hb⟩ := Option.bind_eq_some_iff.1 hm
      obtain ⟨b', hends, hafter⟩ := Option.bind_eq_some_iff.1 hb
      have hpast := (Kept.initial n).run hbefore
      have hchange := Change.of_move hends
      exact ⟨hpast.asked_of_ends hchange,
        (hpast.change hchange).not_mem_of_ended (by simp) hafter⟩

/-- Two permits: two connections come, an attempt to accept fails between them, the first one is
dropped, and the loop takes another permit although the end was asked for, which it gives back. -/
theorem permits_are_kept_two : 2 ≤ permitLimit ∧
    ∃ moves a, (initial 2).moves? moves = some a ∧ arrivals moves = 2 ∧ Left 0 moves ∧
      a.serving = [1] ∧ a.serving.length + a.inHand + a.free = 2 ∧ a.phase = .ended := by
  have hlimit : 2 ≤ permitLimit := by decide
  have hmoves : (initial 2).moves? [.takesPermit, .event .connectionCame, .takesPermit,
      .event (.acceptFailed (.other "too many open files")), .event .pauseOver, .takesPermit,
      .event .connectionCame, .event (.servingEnded 0 .dropped), .event .stopAsked, .takesPermit,
      .ends] =
      some { free := 1, serving := [1], came := 2, phase := .ended, stopping := true } := by
    decide
  obtain ⟨-, hsum, -, -, -, -, hends, -⟩ := (permits_are_kept hlimit).2.2 _ _ hmoves
  exact ⟨hlimit, _, _, hmoves, rfl, ⟨.dropped, by simp⟩, rfl, hsum, hends.2 (by simp)⟩

end Admission

end SealedTunnel
