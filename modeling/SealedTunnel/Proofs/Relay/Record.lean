import SealedTunnel.Bytes
import SealedTunnel.Error
import SealedTunnel.Relay

/-!
# The record of a relay

A relay is watched at its ends: each read, each write, each count and each closing is written down
as it happens. Such a record says how much each lane has read, written and counted. The records that
a relay makes are orderly: a lane writes just what it has still to write, reads on only when all of
that is out, and counts it then; and nothing is read or written behind the act with which a lane
ends. Order alone gives what a relay owes.

## Main definitions

* `Relay.Act`: what a relay does at its ends
* `Relay.gave`, `Relay.took`, `Relay.counter`: what a record says about a lane
* `Relay.Orderly`, `Relay.Finished`: the records that a relay makes

## Main results

* `Relay.Orderly.in_order`: what was written is the first of what was read
* `Relay.Orderly.counter_le`: no more is counted than was written
-/

namespace SealedTunnel

namespace Relay

/-! ## Records -/

/-- The two directions: into the tunnel, and out of it. -/
inductive Way where
  | up
  | down
  deriving DecidableEq, Repr

/-- What a relay does at its ends, each time with what comes of it. -/
inductive Act where
  | read (way : Way) (outcome : Poll TunnelError Bytes)
  | wrote (way : Way) (data : Bytes) (outcome : Poll TunnelError Nat)
  | counted (way : Way) (n : UInt64)
  | abandoned
  | closedTunnel (outcome : Poll TunnelError Unit)
  | closedNear
  | ended
  deriving DecidableEq, Repr

namespace Act

/-- The direction to which an act belongs. -/
def way? : Act → Option Way
  | .read w _ | .wrote w _ _ | .counted w _ => some w
  | .abandoned | .closedTunnel _ | .closedNear | .ended => none

/-- The bytes that a source gives. -/
def gave (w : Way) : Act → Bytes
  | .read w' (.ready bs) => if w' = w then bs else []
  | _ => []

/-- The bytes that a destination takes. -/
def took (w : Way) : Act → Bytes
  | .wrote w' data (.ready n) => if w' = w then data.take n else []
  | _ => []

/-- The bytes that are counted. -/
def count (w : Way) : Act → UInt64
  | .counted w' n => if w' = w then n else 0
  | _ => 0

/-- The act with which a lane sees that its source has ended. -/
def sourceEnded (w : Way) : Act := .read w (.ready [])

/-- Whether a lane ends or fails with this act. -/
def isLast : Act → Bool
  | .read _ (.ready []) | .read _ (.failed _) => true
  | .wrote _ _ (.ready 0) | .wrote _ _ (.failed _) => true
  | _ => false

end Act

/-- The bytes that the source of a lane has given, all in all. -/
def gave (w : Way) (log : List Act) : Bytes :=
  log.flatMap (Act.gave w)

/-- The bytes that the destination of a lane has taken. -/
def took (w : Way) (log : List Act) : Bytes :=
  log.flatMap (Act.took w)

/-- The count of a lane, as the counters of a relay count. -/
def counter (w : Way) (log : List Act) : UInt64 :=
  log.foldl (fun n act => n + act.count w) 0

/-- No lane has ended or failed yet. -/
def Going (log : List Act) : Prop :=
  ∀ act ∈ log, act.isLast = false

/-- The records that a relay makes. A lane reads only when it has written and counted all that it
has read; it writes just what it has still to write; and it counts a chunk when that is out. As soon
as a lane has ended or failed, there is only closing. -/
inductive Orderly : List Act → Prop
  | nil : Orderly []
  | read {w log} (outcome : Poll TunnelError Bytes) (h : Orderly log) (hgoing : Going log)
      (hall : took w log = gave w log)
      (hcount : counter w log = .ofNat (gave w log).length) : Orderly (log ++ [.read w outcome])
  | wrote {w log data} (outcome : Poll TunnelError Nat) (h : Orderly log) (hgoing : Going log)
      (hdata : took w log ++ data = gave w log) : Orderly (log ++ [.wrote w data outcome])
  | counted {w log n} (h : Orderly log) (hgoing : Going log) (hall : took w log = gave w log)
      (hcount : counter w log + n = .ofNat (gave w log).length) : Orderly (log ++ [.counted w n])
  | closing {log act} (h : Orderly log) (hact : act.way? = none) : Orderly (log ++ [act])

variable {w w' : Way} {log acts : List Act} {act : Act}

@[simp] theorem gave_concat : gave w (log ++ [act]) = gave w log ++ act.gave w := by
  rw [gave, List.flatMap_append, List.flatMap_singleton, gave]

@[simp] theorem took_concat : took w (log ++ [act]) = took w log ++ act.took w := by
  rw [took, List.flatMap_append, List.flatMap_singleton, took]

@[simp] theorem counter_concat : counter w (log ++ [act]) = counter w log + act.count w := by
  rw [counter, List.foldl_append, List.foldl_cons, List.foldl_nil, counter]

/-- No other act is the end of a source. -/
theorem sourceEnded_of_concat (hact : act ≠ .sourceEnded w)
    (h : Act.sourceEnded w ∈ log ++ [act]) : Act.sourceEnded w ∈ log := by
  rcases List.mem_append.1 h with hmem | hmem
  · exact hmem
  · exact absurd (List.mem_singleton.1 hmem).symm hact

theorem going_concat (h : Going log) (ha : act.isLast = false) : Going (log ++ [act]) := by
  intro act' hact'
  rcases List.mem_append.1 hact' with hmem | hmem
  · exact h act' hmem
  · rw [List.mem_singleton.1 hmem]
    exact ha

namespace Act

variable {outcome : Poll TunnelError Bytes} {data : Bytes} {result : Poll TunnelError Nat}
  {n : UInt64}

@[simp] theorem took_read : (read w outcome).took w' = [] := rfl

@[simp] theorem count_read : (read w outcome).count w' = 0 := rfl

@[simp] theorem gave_wrote : (wrote w data result).gave w' = [] := rfl

@[simp] theorem count_wrote : (wrote w data result).count w' = 0 := rfl

@[simp] theorem gave_counted : (counted w n).gave w' = [] := rfl

@[simp] theorem took_counted : (counted w n).took w' = [] := rfl

@[simp] theorem count_counted : (counted w n).count w = n := if_pos rfl

@[simp] theorem gave_read_ready (bs : Bytes) : (read w (.ready bs)).gave w = bs := if_pos rfl

@[simp] theorem took_wrote_ready (n : Nat) : (wrote w data (.ready n)).took w = data.take n :=
  if_pos rfl

theorem gave_of_ne (h : act.way? ≠ some w) : act.gave w = [] := by
  cases act with
  | read w' outcome =>
    cases outcome with
    | ready bs => exact if_neg fun hw => h (congrArg some hw)
    | failed | waiting => rfl
  | wrote | counted | abandoned | closedTunnel | closedNear | ended => rfl

theorem took_of_ne (h : act.way? ≠ some w) : act.took w = [] := by
  cases act with
  | wrote w' data outcome =>
    cases outcome with
    | ready n => exact if_neg fun hw => h (congrArg some hw)
    | failed | waiting => rfl
  | read | counted | abandoned | closedTunnel | closedNear | ended => rfl

theorem count_of_ne (h : act.way? ≠ some w) : act.count w = 0 := by
  cases act with
  | counted w' n => exact if_neg fun hw => h (congrArg some hw)
  | read | wrote | abandoned | closedTunnel | closedNear | ended => rfl

end Act

namespace Orderly

/-- **What was written is the first of what was read.** -/
theorem in_order (h : Orderly log) (w : Way) : took w log <+: gave w log := by
  induction h with
  | nil => exact List.prefix_rfl
  | read outcome h hgoing hall hcount ih =>
    rw [took_concat, gave_concat, Act.took_read, List.append_nil]
    exact ih.trans (List.prefix_append ..)
  | @wrote w' log data outcome h hgoing hdata ih =>
    rw [took_concat, gave_concat, Act.gave_wrote, List.append_nil]
    by_cases hw : w' = w
    · subst hw
      rw [← hdata, List.prefix_append_right_inj]
      cases outcome with
      | ready n =>
        rw [Act.took_wrote_ready]
        exact List.take_prefix n data
      | failed | waiting => exact List.nil_prefix
    · have hother : (Act.wrote w' data outcome).way? ≠ some w := mt Option.some.inj hw
      rw [Act.took_of_ne hother, List.append_nil]
      exact ih
  | counted h hgoing hall hcount ih =>
    rw [took_concat, gave_concat, Act.took_counted, Act.gave_counted, List.append_nil,
      List.append_nil]
    exact ih
  | @closing log act h hact ih =>
    have hother : act.way? ≠ some w := by
      rw [hact]
      nofun
    rw [took_concat, gave_concat, Act.took_of_ne hother, Act.gave_of_ne hother, List.append_nil,
      List.append_nil]
    exact ih

/-- No more is counted than was written. -/
theorem counter_le (h : Orderly log) (w : Way) : (counter w log).toNat ≤ (took w log).length := by
  -- What is counted is the length of what was written at the time of the last count.
  suffices hcount : ∃ m, counter w log = .ofNat m ∧ m ≤ (took w log).length by
    obtain ⟨m, hm, hle⟩ := hcount
    rw [hm, UInt64.toNat_ofNat']
    exact Nat.le_trans (Nat.mod_le ..) hle
  have hmore {log : List Act} {act : Act} (hact : act.count w = 0)
      (ih : ∃ m, counter w log = .ofNat m ∧ m ≤ (took w log).length) :
      ∃ m, counter w (log ++ [act]) = .ofNat m ∧ m ≤ (took w (log ++ [act])).length := by
    obtain ⟨m, hm, hle⟩ := ih
    rw [counter_concat, took_concat, hact, UInt64.add_zero, List.length_append]
    exact ⟨m, hm, Nat.le_add_right_of_le hle⟩
  induction h with
  | nil => exact ⟨0, rfl, Nat.zero_le _⟩
  | read _ _ _ _ _ ih => exact hmore rfl ih
  | wrote _ _ _ _ ih => exact hmore rfl ih
  | @counted w' log n h hgoing hall hcount ih =>
    by_cases hw : w' = w
    · subst hw
      refine ⟨(gave w' log).length, ?_, ?_⟩
      · rw [counter_concat, Act.count_counted, hcount]
      · have htook : took w' (log ++ [.counted w' n]) = gave w' log := by
          rw [took_concat, hall, Act.took_counted, List.append_nil]
        exact htook ▸ Nat.le_refl _
    · have hother : (Act.counted w' n).way? ≠ some w := mt Option.some.inj hw
      exact hmore (Act.count_of_ne hother) ih
  | @closing log act h hact ih =>
    refine hmore (Act.count_of_ne ?_) ih
    rw [hact]
    nofun

/-- Wherever a record ends, the last act of it stands there or before. -/
theorem concat_eq {act' : Act} {before after : List Act}
    (h : log ++ [act] = before ++ act' :: after) :
    (act = act' ∧ log = before) ∨ ∃ after', log = before ++ act' :: after' := by
  rcases List.eq_nil_or_concat after with rfl | ⟨after', last, rfl⟩
  · obtain ⟨hlog, hact⟩ := List.append_inj' h rfl
    exact .inl ⟨List.singleton_inj.1 hact, hlog⟩
  · rw [List.concat_eq_append, ← List.cons_append, ← List.append_assoc] at h
    exact .inr ⟨after', (List.append_inj' h rfl).1⟩

/-- Whatever is written, taken or not, is the next of what was read. -/
theorem wrote_next (h : Orderly log) {before after : List Act} {data : Bytes}
    {outcome : Poll TunnelError Nat} (hlog : log = before ++ .wrote w data outcome :: after) :
    took w before ++ data = gave w before := by
  induction h generalizing before after with
  | nil => cases before <;> cases hlog
  | wrote _ _ _ hdata ih =>
    rcases concat_eq hlog with ⟨hact, rfl⟩ | ⟨after', hlog'⟩
    · cases hact
      exact hdata
    · exact ih hlog'
  | read _ _ _ _ _ ih | counted _ _ _ _ ih =>
    rcases concat_eq hlog with ⟨hact, -⟩ | ⟨after', hlog'⟩
    · cases hact
    · exact ih hlog'
  | closing _ hway ih =>
    rcases concat_eq hlog with ⟨rfl, -⟩ | ⟨after', hlog'⟩
    · cases hway
    · exact ih hlog'

end Orderly

/-- The failure of a lane whose destination takes nothing. -/
def stuck : Way → TunnelError
  | .up => .closed
  | .down => .io .nothingTaken

/-- A record up to the act with which a lane ends or fails, and the result of the relay. Where the
source of a lane has ended, all that it ever gave was written and counted. -/
inductive Finished : RelayResult → List Act → Prop
  | source {w : Way} {log : List Act} (hgoing : Going log) (hall : took w log = gave w log)
      (hcount : counter w log = .ofNat (gave w log).length) :
      Finished (.ok (counter .up log, counter .down log)) (log ++ [.read w (.ready [])])
  | reading {w : Way} {e : TunnelError} {log : List Act} (hgoing : Going log) :
      Finished (.error e) (log ++ [.read w (.failed e)])
  | writing {w : Way} {data : Bytes} {e : TunnelError} {log : List Act} (hgoing : Going log) :
      Finished (.error e) (log ++ [.wrote w data (.failed e)])
  | stuck {w : Way} {data : Bytes} {log : List Act} (hgoing : Going log) :
      Finished (.error (stuck w)) (log ++ [.wrote w data (.ready 0)])

/-- A record that has grown by what one lane did. -/
inductive Since (w : Way) (log : List Act) : List Act → Prop
  | refl : Since w log log
  | concat {log' : List Act} {act : Act} (h : Since w log log') (hact : act.way? = some w) :
      Since w log (log' ++ [act])

namespace Since

variable {log' log'' : List Act}

theorem trans (h : Since w log log') (h' : Since w log' log'') : Since w log log'' := by
  induction h' with
  | refl => exact h
  | concat _ hact ih => exact .concat ih hact

theorem other (h : Since w log log') (hw : w ≠ w') :
    gave w' log' = gave w' log ∧ took w' log' = took w' log ∧ counter w' log' = counter w' log := by
  induction h with
  | refl => exact ⟨rfl, rfl, rfl⟩
  | @concat log' act h hact ih =>
    have hother : act.way? ≠ some w' := by
      rw [hact]
      exact mt Option.some.inj hw
    rw [gave_concat, took_concat, counter_concat, Act.gave_of_ne hother, Act.took_of_ne hother,
      Act.count_of_ne hother, List.append_nil, List.append_nil, UInt64.add_zero]
    exact ih

end Since

end Relay

end SealedTunnel
