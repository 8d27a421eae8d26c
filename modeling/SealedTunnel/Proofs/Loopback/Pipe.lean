import SealedTunnel.Loopback.Pipe
import SealedTunnel.Proofs.Conn.Carrier

/-!
# Pipes are reliable

A pipe is a one-way stream: what is put in is read in the same order, and a closed pipe ends behind
the last of it.

## Main definitions

* `Pipe.ends`: a pipe as a stream, written at one end and read at the other
* `Pipe.crossed`, `Pipe.opposite`: two pipes as a two-way stream, by its two ends

## Main results

* `Pipe.carries`: a pipe carries what is put in
* `Pipe.honest`: a pipe keeps its side
* `Pipe.joins`: two pipes join their ends
* `Pipe.atOnce`: a closed pipe does not make its reader wait
-/

namespace SealedTunnel

namespace ByteQueue

variable {q : ByteQueue} {n : Nat}

@[simp] theorem length_toList (q : ByteQueue) : q.toList.length = q.size := by
  rw [toList, List.length_append, q.length_front, q.length_back, size]

@[simp] theorem front_gather (q : ByteQueue) : q.gather.front = q.toList := by
  unfold gather
  split
  · rename_i h
    rw [toList, List.isEmpty_iff.1 h]
    exact (List.append_nil _).symm
  · rfl

theorem toList_pull (q : ByteQueue) (n : Nat) :
    q.toList = (q.pull n).1 ++ (q.pull n).2.toList := by
  have hsplit (r : ByteQueue) :
      r.toList = r.front.take n ++ (r.front.drop n ++ r.back.reverse.flatten) := by
    rw [← List.append_assoc, List.take_append_drop, toList]
  have hsame : (if q.frontSize < n then q.gather else q).toList = q.toList := by
    split
    · exact q.toList_gather
    · rfl
  rw [← hsame]
  exact hsplit _

theorem length_pull_le (q : ByteQueue) (n : Nat) : (q.pull n).1.length ≤ n :=
  List.length_take_le ..

theorem pull_ne_nil (hn : 0 < n) (hq : q.size ≠ 0) : (q.pull n).1 ≠ [] := by
  have hne : (if q.frontSize < n then q.gather else q).front ≠ [] := by
    intro hnil
    split at hnil
    · rw [front_gather] at hnil
      rw [← length_toList, hnil] at hq
      exact hq rfl
    · rename_i hfront
      rw [← q.length_front, hnil] at hfront
      exact hfront hn
  rintro hnil
  rcases List.take_eq_nil_iff.1 hnil with h | h
  · exact Nat.ne_of_gt hn h
  · exact hne h

end ByteQueue

namespace Pipe

/-- A pipe as a stream, written at one end and read at the other. -/
def ends : Carrier Pipe where
  read n p := p.read n
  write bs p := p.write bs
  flush p := (.ready (), p)
  shut p := (.ready (), p.close)

theorem takes_ends : ends.Takes (closed · = false) (queue · |>.toList) where
  ready := by
    intro bs p n p' hopen hne hw
    simp only [ends, write, hopen, Bool.false_eq_true, if_false] at hw
    split at hw
    · cases (Prod.mk.inj hw).1
    · rename_i hroom
      obtain ⟨hn, rfl⟩ := Prod.mk.inj hw
      obtain rfl := Poll.ready.inj hn
      rw [List.length_take]
      refine ⟨Nat.lt_min.2 ⟨Nat.pos_of_ne_zero hroom, List.length_pos_iff.2 hne⟩,
        Nat.min_le_right .., rfl, ?_⟩
      rw [ByteQueue.toList_push, ← List.take_eq_take_min]
  waiting := by
    intro bs p p' hopen _ hw
    simp only [ends, write, hopen, Bool.false_eq_true, if_false] at hw
    split at hw
    · obtain ⟨-, rfl⟩ := Prod.mk.inj hw
      exact ⟨hopen, rfl⟩
    · cases (Prod.mk.inj hw).1
  unfailing := by
    intro bs p e p' hopen _ hw
    simp only [ends, write, hopen, Bool.false_eq_true, if_false] at hw
    split at hw <;> cases (Prod.mk.inj hw).1
  flush_keeps hopen := ⟨hopen, rfl⟩
  flush_unfailing _ := nofun

/-- **A pipe carries what is put in.** -/
theorem carries : ends.Carries (queue · |>.toList) closed where
  ready := by
    intro n p bs p' hn hr
    simp only [ends, read] at hr
    split at hr
    · rename_i hempty
      obtain ⟨hbs, rfl⟩ := Prod.mk.inj hr
      split at hbs
      · rename_i hclosed
        obtain rfl := Poll.ready.inj hbs
        have hnil : p.queue.toList = [] := by
          rw [← List.length_eq_zero_iff, ByteQueue.length_toList, hempty]
        exact ⟨Nat.zero_le n, rfl, rfl, fun _ => ⟨hnil, hclosed⟩⟩
      · cases hbs
    · rename_i hfull
      obtain ⟨hbs, rfl⟩ := Prod.mk.inj hr
      obtain rfl := Poll.ready.inj hbs
      exact ⟨ByteQueue.length_pull_le _ _, ByteQueue.toList_pull _ _, rfl,
        fun hnil => absurd hnil (ByteQueue.pull_ne_nil hn hfull)⟩
  waiting := by
    intro n p p' _ hr
    simp only [ends, read] at hr
    split at hr
    · obtain ⟨-, rfl⟩ := Prod.mk.inj hr
      exact ⟨rfl, rfl⟩
    · cases (Prod.mk.inj hr).1
  unfailing := by
    intro n p e p' _ hr
    simp only [ends, read] at hr
    split at hr
    · have := (Prod.mk.inj hr).1
      split at this <;> cases this
    · cases (Prod.mk.inj hr).1
  takes := takes_ends
  shut_ready hs := by
    obtain ⟨-, rfl⟩ := Prod.mk.inj hs
    exact ⟨rfl, rfl⟩
  shut_waiting := nofun
  shut_unfailing := nofun

/-- A pipe gives no more than it is asked for, and takes no more than it is given. -/
theorem honest : ends.Honest where
  read_le := by
    intro n p p' bs hr
    simp only [ends, read] at hr
    split at hr
    · have hbs := (Prod.mk.inj hr).1
      split at hbs
      · obtain rfl := Poll.ready.inj hbs
        exact Nat.zero_le n
      · cases hbs
    · obtain rfl := Poll.ready.inj (Prod.mk.inj hr).1
      exact ByteQueue.length_pull_le ..
  write_le := by
    intro bs p p' n hw
    simp only [ends, write] at hw
    split at hw
    · cases (Prod.mk.inj hw).1
    · split at hw
      · cases (Prod.mk.inj hw).1
      · obtain rfl := Poll.ready.inj (Prod.mk.inj hw).1
        exact List.length_take_le' ..

/-- What waits in a pipe is ahead of its reader. -/
theorem gives : ends.Gives (queue · |>.toList) := by
  have h := carries.gives []
  simp only [ite_self, List.append_nil] at h
  exact h

/-- One end of two pipes as a stream: it reads from the first and writes to the second. -/
def crossed : Carrier (Pipe × Pipe) where
  read n p := ((p.1.read n).1, ((p.1.read n).2, p.2))
  write bs p := ((p.2.write bs).1, (p.1, (p.2.write bs).2))
  flush p := (.ready (), p)
  shut p := (.ready (), (p.1, p.2.close))

theorem reliable_crossed :
    crossed.Reliable (·.2.closed = false) (·.2.queue.toList) (·.1.queue.toList) where
  gives := by
    refine ⟨?_, ?_, ?_⟩
    · intro n p bs p' hn hr
      obtain ⟨houtcome, rfl⟩ := Prod.mk.inj hr
      exact gives.ready hn (Prod.ext houtcome rfl)
    · intro n p p' hn hr
      obtain ⟨houtcome, rfl⟩ := Prod.mk.inj hr
      exact gives.waiting hn (Prod.ext houtcome rfl)
    · intro n p e p' hn hr
      exact gives.unfailing hn (Prod.ext (Prod.mk.inj hr).1 rfl)
  takes := by
    refine ⟨?_, ?_, ?_⟩
    · intro bs p n p' hopen hne hw
      obtain ⟨houtcome, rfl⟩ := Prod.mk.inj hw
      exact takes_ends.ready hopen hne (Prod.ext houtcome rfl)
    · intro bs p p' hopen hne hw
      obtain ⟨houtcome, rfl⟩ := Prod.mk.inj hw
      exact takes_ends.waiting hopen hne (Prod.ext houtcome rfl)
    · intro bs p e p' hopen hne hw
      exact takes_ends.unfailing hopen hne (Prod.ext (Prod.mk.inj hw).1 rfl)
  read_keeps _ hopen := ⟨hopen, rfl⟩
  write_keeps _ _ := rfl
  flush_keeps hopen := ⟨hopen, rfl, rfl⟩
  flush_unfailing _ := nofun

/-- The other end of these two pipes. -/
def opposite : Carrier (Pipe × Pipe) where
  read n p := ((p.2.read n).1, (p.1, (p.2.read n).2))
  write bs p := ((p.1.write bs).1, ((p.1.write bs).2, p.2))
  flush p := (.ready (), p)
  shut p := (.ready (), (p.1.close, p.2))

/-- **Two pipes join their ends**: one end is shut by closing the pipe that it writes to, and
dropped by closing both. -/
theorem joins : crossed.Joins opposite (fun p => (p.1.close, p.2.close)) (·.2.queue.toList)
    (·.2.closed) (·.1.queue.toList) where
  carries := by
    refine ⟨?_, ?_, ?_, ?_, ?_, nofun, nofun⟩
    · intro n p bs p' hn hr
      obtain ⟨houtcome, rfl⟩ := Prod.mk.inj hr
      exact carries.ready hn (Prod.ext houtcome rfl)
    · intro n p p' hn hr
      obtain ⟨houtcome, rfl⟩ := Prod.mk.inj hr
      exact carries.waiting hn (Prod.ext houtcome rfl)
    · intro n p e p' hn hr
      exact carries.unfailing hn (Prod.ext (Prod.mk.inj hr).1 rfl)
    · obtain ⟨⟨ready, waiting, unfailing⟩, flush_keeps, flush_unfailing⟩ := reliable_crossed.puts
      exact ⟨⟨ready, waiting, unfailing⟩, flush_keeps, flush_unfailing⟩
    · intro p p' hs
      obtain ⟨-, rfl⟩ := Prod.mk.inj hs
      exact ⟨rfl, rfl⟩
  returns := reliable_crossed.gives
  read_near _ _ := ⟨rfl, rfl⟩
  write_far _ _ := ⟨rfl, rfl⟩
  flush_far _ := ⟨rfl, rfl⟩
  queue_drop _ := rfl
  closed_drop _ := rfl

/-- A pipe makes its reader wait only when it is empty. -/
theorem forthcoming_opposite : opposite.Forthcoming (·.2.queue.toList) := by
  intro n p _ hwait
  simp only [opposite, read] at hwait
  split at hwait
  · rename_i hempty
    rw [← List.length_eq_zero_iff, ByteQueue.length_toList, hempty]
  · cases hwait

/-- A closed pipe does not make its reader wait. -/
theorem atOnce : ends.AtOnce (closed · = true) where
  read_ne := by
    intro n p hclosed
    simp only [ends, read, hclosed, if_true]
    split <;> nofun
  keeps := by
    intro n p _ hclosed
    simp only [ends, read]
    split <;> exact hclosed

end Pipe

end SealedTunnel
