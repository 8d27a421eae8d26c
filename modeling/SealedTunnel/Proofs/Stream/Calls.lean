import SealedTunnel.Proofs.Stream.Polls
import SealedTunnel.Proofs.Stream.Within

/-!
# What writing all and reading exactly ask of a stream

A stream may take or give its bytes in whatever pieces, make its user wait, end or fail. Writing all
of the bytes gives it each time what is left of them, and reading exactly asks it each time for what
is missing. So no byte is moved twice and none too many, there are no more calls than bytes, and
what comes of it can be read off the calls: all bytes have moved, or the last call moved nothing or
failed.

## Main definitions

* `Exchange`: a call of a stream, with its answer
* `Exchange.moved`: the bytes that were moved by some calls
* `Duplex.logged`, `Talk.calls`: a stream that writes down its calls, and those of a conversation
* `Exchange.InTurn`: each call asks for what the calls before it have left
* `Moving`, `Moved`: calls that go on, and what came of calls

## Main results

* `Duplex.Honest.collectAfter_moved`, `Duplex.Honest.deliver_moved`: collecting and delivering, by
  their calls
* `Tunnel.Reads.poll`, `Tunnel.Writes.poll`: a poll keeps the calls in turn
* `Tunnel.move_each_byte_once`: what writing all and reading exactly come to, by their calls
-/

namespace SealedTunnel

/-- What is asked of a stream. -/
inductive Ask where
  | read (n : Nat)
  | write (bs : Bytes)
  deriving DecidableEq, Repr

/-- A call of a stream: what was asked of it, and its answer with the bytes that it gave, or that it
took. -/
structure Exchange (δ : Type) where
  ask : Ask
  answer : Poll δ Bytes

variable {δ ε α σ : Type}

/-! ## Calls -/

/-- The bytes that were moved in an answer. -/
def Poll.piece : Poll δ Bytes → Bytes
  | .ready bs => bs
  | .failed _ | .waiting => []

namespace Exchange

/-- All bytes that were moved. -/
def moved (calls : List (Exchange δ)) : Bytes :=
  calls.flatMap fun c => c.answer.piece

/-- The stream has not answered yet. -/
def isWaiting (c : Exchange δ) : Bool :=
  match c.answer with
  | .waiting => true
  | .ready _ | .failed _ => false

/-- The calls that were answered. -/
def replies (calls : List (Exchange δ)) : List (Exchange δ) :=
  calls.filter fun c => !c.isWaiting

/-- No byte moved although some could have, or the stream failed. -/
def Stops (c : Exchange δ) : Prop :=
  c.answer = .ready [] ∨ ∃ e, c.answer = .failed e

@[simp] theorem moved_nil : moved ([] : List (Exchange δ)) = [] := rfl

@[simp] theorem moved_concat (calls : List (Exchange δ)) (c : Exchange δ) :
    moved (calls ++ [c]) = moved calls ++ c.answer.piece := by
  simp [moved]

/-- Of `n` bytes each call asks for what the calls before it have left, as `ask` says, and the first
that moves nothing is the last. They are no more than the bytes. -/
structure InTurn (n : Nat) (ask : Bytes → Ask) (calls : List (Exchange δ)) : Prop where
  asks : ∀ {before c after}, calls = before ++ c :: after →
    c.ask = ask (moved before) ∧ (moved before).length < n
  stops : ∀ {before c after}, calls = before ++ c :: after → c.Stops → after = []
  length_le : (moved calls).length ≤ n
  few : (replies calls).length ≤ n

end Exchange

open Exchange

/-- The same stream; its calls are written down. -/
def Duplex.logged (d : Duplex δ σ) : Duplex δ (σ × List (Exchange δ)) where
  read n s := let (r, s') := d.read n s.1; (r, s', s.2 ++ [⟨.read n, r⟩])
  write bs s := let (r, s') := d.write bs s.1; (r, s', s.2 ++ [⟨.write bs, r.map id (bs.take ·)⟩])

theorem Duplex.within_logged (d : Duplex δ σ) : d.logged.Within Prod.fst d :=
  ⟨fun _ _ => rfl, fun _ _ => rfl⟩

/-- What a conversation asks of its stream, poll by poll. -/
def Talk.calls (d : Duplex δ σ) (others : List (σ → σ)) (t : Talk δ ε α) (s : σ) :
    List (Exchange δ) :=
  (Talk.advanceAll d.logged (others.map fun f => Prod.map f id) (t, (s, []))).2.2

/-- Writing down the calls changes nothing. -/
theorem Talk.advanceAll_logged (d : Duplex δ σ) (others : List (σ → σ)) (t : Talk δ ε α)
    (s : σ × List (Exchange δ)) : Talk.advanceAll d others (t, s.1) =
      Prod.map id Prod.fst
        (Talk.advanceAll d.logged (others.map fun f => Prod.map f id) (t, s)) := by
  induction others generalizing t s with
  | nil => rfl
  | cons f others ih =>
    have hpoll := t.advance_within d.within_logged (Prod.map f id s)
    show Talk.advanceAll d others (t.advance d (f s.1)) = _
    rw [show f s.1 = (Prod.map f id s).1 from rfl, hpoll]
    exact ih _ _

/-! ## Calls in turn -/

variable {d : Duplex δ σ} {n : Nat} {ask : Bytes → Ask} {calls : List (Exchange δ)}
  {transfer : Transfer δ}

/-- Calls that move some of `n` bytes, or wait for it; each asks for what is left. -/
inductive Moving (n : Nat) (ask : Bytes → Ask) : List (Exchange δ) → Prop
  | nil : Moving n ask []
  | wait {calls : List (Exchange δ)} (h : Moving n ask calls) (hlt : (moved calls).length < n) :
      Moving n ask (calls ++ [⟨ask (moved calls), .waiting⟩])
  | move {calls : List (Exchange δ)} {piece : Bytes} (h : Moving n ask calls) (hne : piece ≠ [])
      (hle : (moved calls).length + piece.length ≤ n) :
      Moving n ask (calls ++ [⟨ask (moved calls), .ready piece⟩])

/-- What came of moving `n` bytes, by the calls. -/
inductive Moved (n : Nat) (ask : Bytes → Ask) : List (Exchange δ) → Transfer δ → Prop
  | complete {calls : List (Exchange δ)} (h : Moving n ask calls)
      (hfull : (moved calls).length = n) :
      Moved n ask calls (.complete (moved calls))
  | partway {calls : List (Exchange δ)} (h : Moving n ask calls) (hlt : (moved calls).length < n) :
      Moved n ask (calls ++ [⟨ask (moved calls), .waiting⟩]) (.partway (moved calls))
  | ended {calls : List (Exchange δ)} (h : Moving n ask calls) (hlt : (moved calls).length < n) :
      Moved n ask (calls ++ [⟨ask (moved calls), .ready []⟩])
        (.stopped (.ended (moved calls).length))
  | broken {calls : List (Exchange δ)} {e : δ} (h : Moving n ask calls)
      (hlt : (moved calls).length < n) :
      Moved n ask (calls ++ [⟨ask (moved calls), .failed e⟩]) (.stopped (.broken e))

theorem concat_cases {β : Type} {xs before after : List β} {x c : β}
    (h : xs ++ [x] = before ++ c :: after) :
    xs = before ∧ x = c ∧ after = [] ∨ ∃ rest, after = rest ++ [x] ∧ xs = before ++ c :: rest := by
  rcases List.eq_nil_or_concat after with rfl | ⟨rest, y, rfl⟩
  · obtain ⟨hxs, hx⟩ := List.append_inj' h rfl
    exact .inl ⟨hxs, (List.cons.inj hx).1, rfl⟩
  · have h : xs ++ [x] = (before ++ c :: rest) ++ [y] := by simpa using h
    obtain ⟨hxs, hx⟩ := List.append_inj' h rfl
    exact .inr ⟨rest, by simp [(List.cons.inj hx).1], hxs⟩

namespace Exchange

theorem inTurn_nil : InTurn n ask ([] : List (Exchange δ)) := by
  refine ⟨?_, ?_, Nat.zero_le n, Nat.zero_le n⟩
  · intro before c after h
    exact absurd h.symm (List.append_ne_nil_of_right_ne_nil _ (List.cons_ne_nil _ _))
  · intro before c after h
    exact absurd h.symm (List.append_ne_nil_of_right_ne_nil _ (List.cons_ne_nil _ _))

/-- There is no call if there is nothing to ask for. -/
theorem InTurn.eq_nil (h : InTurn 0 ask calls) : calls = [] := by
  cases calls with
  | nil => rfl
  | cons c calls =>
    have hsplit : c :: calls = [] ++ c :: calls := rfl
    exact absurd (h.asks hsplit).2 (Nat.lt_irrefl 0)

/-- As long as none has stopped, one more call is in turn if it asks for what is left. -/
theorem InTurn.concat (h : InTurn n ask calls) (hlt : (moved calls).length < n)
    (hgo : ∀ c ∈ calls, ¬c.Stops) {answer : Poll δ Bytes}
    (hle : (moved calls).length + answer.piece.length ≤ n)
    (hfew : (replies (calls ++ [⟨ask (moved calls), answer⟩])).length ≤ n) :
    InTurn n ask (calls ++ [⟨ask (moved calls), answer⟩]) := by
  refine ⟨?_, ?_, ?_, hfew⟩
  · intro before c after hsplit
    rcases concat_cases hsplit with ⟨rfl, rfl, -⟩ | ⟨rest, -, hrest⟩
    · exact ⟨rfl, hlt⟩
    · exact h.asks hrest
  · intro before c after hsplit hstops
    rcases concat_cases hsplit with ⟨-, -, hafter⟩ | ⟨rest, -, rfl⟩
    · exact hafter
    · exact absurd hstops (hgo c (List.mem_append_right _ List.mem_cons_self))
  · rw [moved_concat, List.length_append]
    exact hle

theorem replies_concat (calls : List (Exchange δ)) (c : Exchange δ) :
    (replies (calls ++ [c])).length =
      (replies calls).length + if c.isWaiting then 0 else 1 := by
  rw [replies, List.filter_append, List.length_append]
  cases hc : c.isWaiting <;> simp [replies, hc]

end Exchange

namespace Moving

theorem length_le (h : Moving n ask calls) : (moved calls).length ≤ n := by
  cases h with
  | nil => exact Nat.zero_le n
  | wait h hlt =>
    rw [moved_concat, Poll.piece, List.append_nil]
    exact Nat.le_of_lt hlt
  | move h hne hle =>
    rw [moved_concat, List.length_append]
    exact hle

theorem not_stops (h : Moving n ask calls) : ∀ c ∈ calls, ¬c.Stops := by
  induction h with
  | nil => exact nofun
  | wait h hlt ih =>
    intro c hc
    rcases List.mem_append.1 hc with hc | hc
    · exact ih c hc
    · rw [List.mem_singleton.1 hc]
      rintro (h | ⟨e, h⟩) <;> cases h
  | move h hne hle ih =>
    intro c hc
    rcases List.mem_append.1 hc with hc | hc
    · exact ih c hc
    · rw [List.mem_singleton.1 hc]
      rintro (h | ⟨e, h⟩)
      · exact hne (Poll.ready.inj h)
      · cases h

theorem notMem (h : Moving n ask calls) {c : Exchange δ} (hc : c.Stops) : c ∉ calls :=
  fun hmem => h.not_stops c hmem hc

/-- Each call that was answered has moved a byte at least. -/
theorem replies_le (h : Moving n ask calls) :
    (replies calls).length ≤ (moved calls).length := by
  induction h with
  | nil => exact Nat.le_refl 0
  | wait h hlt ih =>
    rw [replies_concat, moved_concat, List.length_append]
    exact Nat.add_le_add ih (Nat.zero_le _)
  | move h hne hle ih =>
    rw [replies_concat, moved_concat, List.length_append]
    exact Nat.add_le_add ih (List.length_pos_iff.2 hne)

theorem inTurn (h : Moving n ask calls) : InTurn n ask calls := by
  induction h with
  | nil => exact inTurn_nil
  | wait h hlt ih =>
    refine ih.concat hlt h.not_stops (Nat.le_of_lt hlt) ?_
    rw [replies_concat]
    exact Nat.le_trans h.replies_le (Nat.le_of_lt hlt)
  | @move calls piece h hne hle ih =>
    have hpos := List.length_pos_iff.2 hne
    have hfew := h.replies_le
    refine ih.concat (by omega) h.not_stops hle ?_
    rw [replies_concat]
    show _ + 1 ≤ n
    omega

end Moving

namespace Moved

theorem inTurn (h : Moved n ask calls transfer) : InTurn n ask calls := by
  cases h with
  | complete h => exact h.inTurn
  | partway h hlt => exact (h.wait hlt).inTurn
  | ended h hlt | broken h hlt =>
    refine h.inTurn.concat hlt h.not_stops (Nat.le_of_lt hlt) ?_
    rw [replies_concat]
    exact Nat.succ_le_of_lt (Nat.lt_of_le_of_lt h.replies_le hlt)

/-- All bytes have moved just if nothing was in the way. -/
theorem complete_iff (h : Moved n ask calls transfer) :
    transfer = .complete (moved calls) ↔ (moved calls).length = n := by
  cases h with
  | complete h hfull => exact iff_of_true rfl hfull
  | partway h hlt | ended h hlt | broken h hlt =>
    rw [moved_concat, Poll.piece, List.append_nil]
    exact iff_of_false nofun (Nat.ne_of_lt hlt)

theorem eq_moved (h : Moved n ask calls transfer) {bs : Bytes} (ht : transfer = .complete bs) :
    bs = moved calls := by
  subst ht
  cases h
  rfl

/-- Whoever has to wait has asked for what is left. -/
theorem getLast?_eq (h : Moved n ask calls transfer) {bs : Bytes} (ht : transfer = .partway bs) :
    ∃ ask, calls.getLast? = some ⟨ask, .waiting⟩ := by
  subst ht
  cases h
  exact ⟨_, List.getLast?_concat⟩

/-- The stream has ended, or takes nothing, just if a call moved nothing. -/
theorem ended_iff (h : Moved n ask calls transfer) :
    transfer = .stopped (.ended (moved calls).length) ↔ ∃ ask, ⟨ask, .ready []⟩ ∈ calls := by
  cases h with
  | complete h => exact iff_of_false nofun fun ⟨_, hmem⟩ => h.notMem (.inl rfl) hmem
  | partway h hlt => exact iff_of_false nofun fun ⟨_, hmem⟩ => (h.wait hlt).notMem (.inl rfl) hmem
  | ended h hlt =>
    rw [moved_concat, Poll.piece, List.append_nil]
    exact iff_of_true rfl ⟨_, List.mem_append_right _ List.mem_cons_self⟩
  | broken h hlt =>
    refine iff_of_false nofun fun ⟨ask', hmem⟩ => ?_
    rcases List.mem_append.1 hmem with hmem | hmem
    · exact h.notMem (.inl rfl) hmem
    · cases List.mem_singleton.1 hmem

/-- The stream has failed just if a call has. -/
theorem broken_iff (h : Moved n ask calls transfer) {e : δ} :
    transfer = .stopped (.broken e) ↔ ∃ ask, ⟨ask, .failed e⟩ ∈ calls := by
  have hstops (ask' : Ask) : Stops (⟨ask', .failed e⟩ : Exchange δ) := .inr ⟨e, rfl⟩
  cases h with
  | complete h => exact iff_of_false nofun fun ⟨_, hmem⟩ => h.notMem (hstops _) hmem
  | partway h hlt => exact iff_of_false nofun fun ⟨_, hmem⟩ => (h.wait hlt).notMem (hstops _) hmem
  | ended h hlt =>
    refine iff_of_false nofun fun ⟨ask', hmem⟩ => ?_
    rcases List.mem_append.1 hmem with hmem | hmem
    · exact h.notMem (hstops _) hmem
    · cases List.mem_singleton.1 hmem
  | @broken calls e' h hlt =>
    constructor
    · rintro ⟨⟩
      exact ⟨_, List.mem_append_right _ List.mem_cons_self⟩
    · rintro ⟨ask', hmem⟩
      rcases List.mem_append.1 hmem with hmem | hmem
      · exact absurd hmem (h.notMem (hstops _))
      · cases List.mem_singleton.1 hmem
        rfl

/-- A transfer was stopped just if a call has stopped it. -/
theorem stopped_iff (h : Moved n ask calls transfer) (stop : Interruption δ → ε) {e : ε} :
    (∃ why, transfer = .stopped why ∧ stop why = e) ↔
      stop (.ended (moved calls).length) = e ∧ (∃ ask, ⟨ask, .ready []⟩ ∈ calls) ∨
        ∃ e', stop (.broken e') = e ∧ ∃ ask, ⟨ask, .failed e'⟩ ∈ calls := by
  constructor
  · rintro ⟨why, hwhy, rfl⟩
    cases why with
    | ended got =>
      have hgot : got = (moved calls).length := by
        subst hwhy
        cases h
        rw [moved_concat, Poll.piece, List.append_nil]
      rw [← hgot]
      exact .inl ⟨rfl, h.ended_iff.1 (hgot ▸ hwhy)⟩
    | broken e' => exact .inr ⟨e', rfl, h.broken_iff.1 hwhy⟩
  · rintro (⟨he, hended⟩ | ⟨e', he, hbroken⟩)
    · exact ⟨_, h.ended_iff.2 hended, he⟩
    · exact ⟨_, h.broken_iff.2 hbroken, he⟩

end Moved

/-! ## Collecting and delivering -/

/-- What came of collecting, seen by someone who had some bytes before. -/
def Transfer.behind (before : Bytes) : Transfer δ → Transfer δ
  | .complete bs => .complete (before ++ bs)
  | .partway bs => .partway (before ++ bs)
  | .stopped why => .stopped (why.after before.length)

/-- What came of delivering, seen by someone who counts what went and not what is left. -/
def Transfer.gone (went : Bytes) : Transfer δ → Transfer δ
  | .complete _ => .complete went
  | .partway _ => .partway went
  | .stopped (.ended _) => .stopped (.ended went.length)
  | .stopped (.broken e) => .stopped (.broken e)

/-- What reading `n` bytes asks for after some of them. -/
def Ask.missing (n : Nat) (got : Bytes) : Ask :=
  .read (n - got.length)

/-- What writing some bytes asks for after some of them. -/
def Ask.remaining (data went : Bytes) : Ask :=
  .write (data.drop went.length)

namespace Duplex

theorem logged_read {s s' : σ × List (Exchange δ)} {r : Poll δ Bytes}
    (h : d.logged.read n s = (r, s')) :
    d.read n s.1 = (r, s'.1) ∧ s'.2 = s.2 ++ [⟨.read n, r⟩] := by
  obtain ⟨rfl, rfl⟩ := Prod.mk.inj h
  exact ⟨rfl, rfl⟩

theorem logged_write {bs : Bytes} {s s' : σ × List (Exchange δ)} {r : Poll δ Nat}
    (h : d.logged.write bs s = (r, s')) :
    d.write bs s.1 = (r, s'.1) ∧ s'.2 = s.2 ++ [⟨.write bs, r.map id (bs.take ·)⟩] := by
  obtain ⟨rfl, rfl⟩ := Prod.mk.inj h
  exact ⟨rfl, rfl⟩

/-- **Collecting asks for what is missing**, and stops when nothing is or the stream does. -/
theorem Honest.collectAfter_moved (h : d.Honest) {n : Nat} (left : Nat) (pieces : List Bytes)
    (s : σ × List (Exchange δ)) {before : Bytes} (hcalls : Moving n (.missing n) s.2)
    (hmoved : moved s.2 = before ++ pieces.reverse.flatten)
    (hleft : (moved s.2).length + left = n) :
    Moved n (.missing n) (d.logged.collectAfter left pieces s).2.2
      ((d.logged.collectAfter left pieces s).1.behind before) := by
  have hask {left : Nat} {s : σ × List (Exchange δ)} (hleft : (moved s.2).length + left = n) :
      Ask.missing n (moved s.2) = .read left := by
    rw [Ask.missing, ← hleft, Nat.add_sub_cancel_left]
  -- By induction along the loop: what has moved and what is left are `n` bytes.
  fun_induction d.logged.collectAfter left pieces s with
  | case1 pieces s =>
    dsimp only
    rw [Transfer.behind, ← hmoved]
    exact .complete hcalls hleft
  | case2 left pieces s hm s' hr =>
    dsimp only
    rw [(logged_read hr).2, ← hask hleft, Transfer.behind, ← hmoved]
    exact .partway hcalls (by omega)
  | case3 left pieces s hm e s' hr =>
    dsimp only
    rw [(logged_read hr).2, ← hask hleft]
    exact .broken hcalls (by omega)
  | case4 left pieces s hm s' hr =>
    have hlength : before.length + pieces.flatten.length = (moved s.2).length := by
      rw [hmoved, List.length_append, List.length_flatten, List.length_flatten,
        List.map_reverse, List.sum_reverse]
    dsimp only
    rw [(logged_read hr).2, ← hask hleft, Transfer.behind, Interruption.after, hlength]
    exact .ended hcalls (by omega)
  | case5 left pieces s hm b bs s' hr ih =>
    obtain ⟨hread, hlog⟩ := logged_read hr
    have hle := h.read_le hread
    have hmoved' : moved s'.2 = moved s.2 ++ (b :: bs) := by
      rw [hlog, moved_concat, Poll.piece]
    refine ih ?_ ?_ ?_
    · rw [hlog, ← hask hleft]
      exact hcalls.move (List.cons_ne_nil b bs) (by omega)
    · rw [hmoved', hmoved, List.reverse_cons, List.flatten_append, List.flatten_singleton,
        List.append_assoc]
    · rw [hmoved', List.length_append]
      omega

/-- **Delivering gives the stream what is left**, and stops when nothing is or the stream does. -/
theorem Honest.deliver_moved (h : d.Honest) {data : Bytes} (rest : Bytes)
    (s : σ × List (Exchange δ)) (hcalls : Moving data.length (.remaining data) s.2)
    (hdata : data = moved s.2 ++ rest) :
    Moved data.length (.remaining data) (d.logged.deliver rest s).2.2
        ((d.logged.deliver rest s).1.gone (moved (d.logged.deliver rest s).2.2)) ∧
      moved (d.logged.deliver rest s).2.2 <+: data ∧
      ∀ left, (d.logged.deliver rest s).1 = .partway left →
        data = moved (d.logged.deliver rest s).2.2 ++ left := by
  have hlog {rest : Bytes} {s s' : σ × List (Exchange δ)} {r : Poll δ Nat}
      (hdata : data = moved s.2 ++ rest) (hw : d.logged.write rest s = (r, s')) :
      s'.2 = s.2 ++ [⟨.remaining data (moved s.2), r.map id (rest.take ·)⟩] := by
    rw [(logged_write hw).2, Ask.remaining, hdata, List.drop_left]
  have hsame {s s' : σ × List (Exchange δ)} {c : Exchange δ} (hlog : s'.2 = s.2 ++ [c])
      (hpiece : c.answer.piece = []) : moved s'.2 = moved s.2 := by
    rw [hlog, moved_concat, hpiece, List.append_nil]
  have hlt {b : UInt8} {bs : Bytes} {s : σ × List (Exchange δ)}
      (hdata : data = moved s.2 ++ b :: bs) : (moved s.2).length < data.length := by
    rw [hdata, List.length_append, List.length_cons]
    omega
  fun_induction d.logged.deliver rest s with
  | case1 s =>
    rw [List.append_nil] at hdata
    refine ⟨.complete hcalls (congrArg List.length hdata.symm), hdata ▸ List.prefix_refl _, ?_⟩
    rintro left ⟨⟩
  | case2 s b bs s' hw =>
    have hlog := hlog hdata hw
    rw [← hsame hlog rfl] at hdata
    refine ⟨?_, ⟨b :: bs, hdata.symm⟩, ?_⟩
    · dsimp only
      rw [Transfer.gone, hsame hlog rfl, hlog]
      exact .partway hcalls (hlt (hsame hlog rfl ▸ hdata))
    · rintro left ⟨⟩
      exact hdata
  | case3 s b bs e s' hw =>
    have hlog := hlog hdata hw
    refine ⟨?_, ⟨b :: bs, by rw [hsame hlog rfl, ← hdata]⟩, ?_⟩
    · dsimp only
      rw [hlog]
      exact .broken hcalls (hlt hdata)
    · rintro left ⟨⟩
  | case4 s b bs s' hw =>
    have hlog := hlog hdata hw
    refine ⟨?_, ⟨b :: bs, by rw [hsame hlog rfl, ← hdata]⟩, ?_⟩
    · dsimp only
      rw [Transfer.gone, hsame hlog rfl, hlog]
      exact .ended hcalls (hlt hdata)
    · rintro left ⟨⟩
  | case5 s b bs k s' hw ih =>
    have hlog := hlog hdata hw
    have hle := h.write_le (logged_write hw).1
    have hmoved : moved s'.2 = moved s.2 ++ b :: bs.take k := by
      rw [hlog, moved_concat]
      rfl
    rw [List.length_cons] at hle
    refine ih ?_ ?_
    · rw [hlog]
      refine hcalls.move (List.cons_ne_nil b (bs.take k)) ?_
      show (moved s.2).length + (b :: bs.take k).length ≤ data.length
      rw [hdata, List.length_append, List.length_cons, List.length_cons, List.length_take]
      omega
    · rw [hmoved, List.append_assoc, List.cons_append, List.take_append_drop]
      exact hdata

end Duplex

/-! ## Reading exactly and writing all -/

namespace Tunnel

variable {d : Duplex TunnelError σ}

/-- What is left of reading `n` bytes. -/
def reading (n : Nat) : Transfer TunnelError → Talk TunnelError TunnelError Bytes
  | .complete bs => .done bs
  | .partway got => Talk.resume n (readStop n) .done got
  | .stopped why => .fail (readStop n why)

/-- What is left of writing some bytes. -/
def writing (data : Bytes) : Transfer TunnelError → Talk TunnelError TunnelError Unit
  | .complete _ => .done ()
  | .partway went => writeAll (data.drop went.length)
  | .stopped why => .fail (writeStop why)

/-- Reading has come as far as its calls say. -/
def Reads (n : Nat)
    (r : Talk TunnelError TunnelError Bytes × σ × List (Exchange TunnelError)) : Prop :=
  ∃ transfer, Moved n (.missing n) r.2.2 transfer ∧ r.1 = reading n transfer

/-- Writing has come as far as its calls say. -/
def Writes (data : Bytes)
    (r : Talk TunnelError TunnelError Unit × σ × List (Exchange TunnelError)) : Prop :=
  ∃ transfer, Moved data.length (.remaining data) r.2.2 transfer ∧ moved r.2.2 <+: data ∧
    r.1 = writing data transfer

theorem reads_advance (h : d.Honest) {s : σ × List (Exchange TunnelError)}
    (hcalls : Moving n (.missing n) s.2) :
    Reads n ((reading n (.partway (moved s.2))).advance d.logged s) := by
  have hmoved := h.collectAfter_moved (n - (moved s.2).length) [] s hcalls
    (List.append_nil (moved s.2)).symm (Nat.add_sub_cancel' hcalls.length_le)
  rw [reading, Talk.resume, Talk.advance, Duplex.collect]
  generalize d.logged.collectAfter (n - (moved s.2).length) [] s = r at hmoved
  obtain ⟨transfer, s'⟩ := r
  cases transfer with
  | complete bs => exact ⟨_, hmoved, rfl⟩
  | partway got => exact ⟨_, hmoved, Talk.resume_resume (moved s.2) got⟩
  | stopped why => exact ⟨_, hmoved, rfl⟩

theorem writes_advance (h : d.Honest) {data : Bytes} {s : σ × List (Exchange TunnelError)}
    (hcalls : Moving data.length (.remaining data) s.2) (hfront : moved s.2 <+: data) :
    Writes data ((writing data (.partway (moved s.2))).advance d.logged s) := by
  obtain ⟨rest, hdata⟩ := hfront
  have hrest : data.drop (moved s.2).length = rest := by
    rw [← hdata, List.drop_left]
  obtain ⟨hmoved, hfront, hleft⟩ := h.deliver_moved rest s hcalls hdata.symm
  rw [writing, hrest, writeAll, Talk.advance]
  generalize d.logged.deliver rest s = r at hmoved hfront hleft
  obtain ⟨transfer, s'⟩ := r
  cases transfer with
  | complete bs => exact ⟨_, hmoved, hfront, rfl⟩
  | partway left =>
    refine ⟨_, hmoved, hfront, ?_⟩
    have hdata := hleft left rfl
    show Talk.send left writeStop (.done ()) = writeAll (data.drop (moved s'.2).length)
    rw [hdata, List.drop_left]
    rfl
  | stopped why =>
    cases why with
    | ended got => exact ⟨_, hmoved, hfront, rfl⟩
    | broken e => exact ⟨_, hmoved, hfront, rfl⟩

/-- **A poll keeps the calls of a reader in turn**, whatever others did before it. -/
theorem Reads.poll (h : d.Honest) (f : σ → σ)
    {r : Talk TunnelError TunnelError Bytes × σ × List (Exchange TunnelError)} (hr : Reads n r) :
    Reads n (Talk.poll d.logged r (Prod.map f id)) := by
  obtain ⟨t, s, calls⟩ := r
  obtain ⟨transfer, hmoved, rfl⟩ := hr
  replace hmoved : Moved n (.missing n) calls transfer := hmoved
  cases hmoved with
  | complete h hfull => exact ⟨_, .complete h hfull, rfl⟩
  | @partway calls hcalls hlt =>
    have hadvance := reads_advance h (s := (f s, calls ++ [⟨.missing n (moved calls), .waiting⟩]))
      (hcalls.wait hlt)
    rw [moved_concat, Poll.piece, List.append_nil] at hadvance
    exact hadvance
  | ended h hlt => exact ⟨_, .ended h hlt, rfl⟩
  | broken h hlt => exact ⟨_, .broken h hlt, rfl⟩

/-- **A poll keeps the calls of a writer in turn**, whatever others did before it. -/
theorem Writes.poll (h : d.Honest) (f : σ → σ) {data : Bytes}
    {r : Talk TunnelError TunnelError Unit × σ × List (Exchange TunnelError)} (hr : Writes data r) :
    Writes data (Talk.poll d.logged r (Prod.map f id)) := by
  obtain ⟨t, s, calls⟩ := r
  obtain ⟨transfer, hmoved, hfront, rfl⟩ := hr
  replace hmoved : Moved data.length (.remaining data) calls transfer := hmoved
  cases hmoved with
  | complete h hfull => exact ⟨_, .complete h hfull, hfront, rfl⟩
  | @partway calls hcalls hlt =>
    have hadvance := writes_advance h
      (s := (f s, calls ++ [⟨.remaining data (moved calls), .waiting⟩])) (hcalls.wait hlt) hfront
    rw [moved_concat, Poll.piece, List.append_nil] at hadvance
    exact hadvance
  | ended h hlt => exact ⟨_, .ended h hlt, hfront, rfl⟩
  | broken h hlt => exact ⟨_, .broken h hlt, hfront, rfl⟩

/-- After one poll or more, reading has come as far as its calls say. -/
theorem reads_advanceAll (h : d.Honest) {others : List (σ → σ)} (hpolls : others ≠ []) (n : Nat)
    (s : σ) : Reads n (Talk.advanceAll d.logged (others.map fun f => Prod.map f id)
      (readExact n, (s, []))) := by
  obtain ⟨f, others, rfl⟩ := List.exists_cons_of_ne_nil hpolls
  show Reads n (Talk.advanceAll d.logged (others.map fun f => Prod.map f id)
    ((readExact n).advance d.logged (f s, [])))
  refine Talk.advanceAll_keeps (P := Reads n) ?_ ?_
  · intro g hg r hr
    obtain ⟨g, -, rfl⟩ := List.mem_map.1 hg
    exact hr.poll h g
  · have hfirst := reads_advance h (n := n) (s := (f s, [])) .nil
    rw [moved_nil, reading, Talk.resume_nil] at hfirst
    exact hfirst

theorem writes_advanceAll (h : d.Honest) {others : List (σ → σ)} (hpolls : others ≠ [])
    (data : Bytes) (s : σ) : Writes data (Talk.advanceAll d.logged
      (others.map fun f => Prod.map f id) (writeAll data, (s, []))) := by
  obtain ⟨f, others, rfl⟩ := List.exists_cons_of_ne_nil hpolls
  show Writes data (Talk.advanceAll d.logged (others.map fun f => Prod.map f id)
    ((writeAll data).advance d.logged (f s, [])))
  refine Talk.advanceAll_keeps (P := Writes data) ?_ ?_
  · intro g hg r hr
    obtain ⟨g, -, rfl⟩ := List.mem_map.1 hg
    exact hr.poll h g
  · exact writes_advance h (s := (f s, [])) .nil (List.nil_prefix)

/-! ### Outcomes -/

theorem reading_eq_done {transfer : Transfer TunnelError} {bs : Bytes} :
    reading n transfer = .done bs ↔ transfer = .complete bs := by
  cases transfer <;> simp [reading, Talk.resume]

theorem reading_eq_fail {transfer : Transfer TunnelError} {e : TunnelError} :
    reading n transfer = .fail e ↔ ∃ why, transfer = .stopped why ∧ readStop n why = e := by
  cases transfer <;> simp [reading, Talk.resume]

theorem writing_eq_done {data : Bytes} {transfer : Transfer TunnelError} :
    writing data transfer = .done () ↔ ∃ bs, transfer = .complete bs := by
  cases transfer <;> simp [writing, writeAll]

theorem writing_eq_fail {data : Bytes} {transfer : Transfer TunnelError} {e : TunnelError} :
    writing data transfer = .fail e ↔ ∃ why, transfer = .stopped why ∧ writeStop why = e := by
  cases transfer <;> simp [writing, writeAll]

/-- **Every byte is moved once and in order, and none too many**, over any stream that keeps its
side, whatever it does and whatever others do between the polls.

Each call of a writer is given what is left of the bytes, and each call of a reader asks for as many
as are missing. Writing is done just if the pieces that were taken make up all of the bytes, and
reading just if those that were given are as many as were asked for; these are what it gives. A call
that moves no byte or fails is the last, and that is the only way to fail. There are no more answers
than bytes, and whoever is not over waits for one more. -/
theorem move_each_byte_once {d : Duplex TunnelError σ} (hd : d.Honest) (others : List (σ → σ))
    (hpolls : others ≠ []) (s : σ) :
    (∀ data : Bytes,
      let t := (Talk.advanceAll d others (writeAll data, s)).1
      let calls := Talk.calls d others (writeAll data) s
      InTurn data.length (fun went => .write (data.drop went.length)) calls ∧
      moved calls <+: data ∧ (t = .done () ↔ moved calls = data) ∧
      (∀ e, t = .fail e ↔ .closed = e ∧ (∃ ask, ⟨ask, .ready []⟩ ∈ calls) ∨
        ∃ ask, ⟨ask, .failed e⟩ ∈ calls) ∧
      (t.isOver = false → ∃ ask, calls.getLast? = some ⟨ask, .waiting⟩) ∧
      (data = [] → calls = [])) ∧
    ∀ n : Nat,
      let t := (Talk.advanceAll d others (readExact n, s)).1
      let calls := Talk.calls d others (readExact n) s
      InTurn n (fun got => .read (n - got.length)) calls ∧
      (∀ bs, t = .done bs ↔ bs = moved calls ∧ bs.length = n) ∧
      (∀ e, t = .fail e ↔
        .framing (.endInsideRead (moved calls).length n) = e ∧ (∃ ask, ⟨ask, .ready []⟩ ∈ calls) ∨
          ∃ ask, ⟨ask, .failed e⟩ ∈ calls) ∧
      (t.isOver = false → ∃ ask, calls.getLast? = some ⟨ask, .waiting⟩) ∧
      (n = 0 → calls = []) := by
  constructor
  · intro data t calls
    obtain ⟨transfer, hmoved, hfront, ht⟩ := writes_advanceAll hd hpolls data s
    replace hmoved : Moved data.length (.remaining data) calls transfer := hmoved
    have ht : t = writing data transfer :=
      (congrArg Prod.fst (Talk.advanceAll_logged d others _ (s, []))).trans ht
    have hturn := hmoved.inTurn
    rw [ht]
    refine ⟨hturn, hfront, ?_, ?_, ?_, ?_⟩
    · rw [writing_eq_done]
      constructor
      · rintro ⟨bs, hbs⟩
        have hbs' := hmoved.eq_moved hbs
        exact hfront.eq_of_length (hmoved.complete_iff.1 (hbs' ▸ hbs))
      · intro hdata
        exact ⟨_, hmoved.complete_iff.2 (congrArg List.length hdata)⟩
    · intro e
      rw [writing_eq_fail, hmoved.stopped_iff]
      simp only [writeStop, exists_eq_left]
    · intro hover
      cases transfer with
      | partway went => exact hmoved.getLast?_eq rfl
      | complete | stopped => cases hover
    · rintro rfl
      exact hturn.eq_nil
  · intro n t calls
    obtain ⟨transfer, hmoved, ht⟩ := reads_advanceAll hd hpolls n s
    replace hmoved : Moved n (.missing n) calls transfer := hmoved
    have ht : t = reading n transfer :=
      (congrArg Prod.fst (Talk.advanceAll_logged d others _ (s, []))).trans ht
    have hturn := hmoved.inTurn
    rw [ht]
    refine ⟨hturn, ?_, ?_, ?_, ?_⟩
    · intro bs
      rw [reading_eq_done]
      constructor
      · intro hbs
        have hbs' := hmoved.eq_moved hbs
        exact ⟨hbs', hbs' ▸ hmoved.complete_iff.1 (hbs' ▸ hbs)⟩
      · rintro ⟨rfl, hlength⟩
        exact hmoved.complete_iff.2 hlength
    · intro e
      rw [reading_eq_fail, hmoved.stopped_iff]
      simp only [readStop, exists_eq_left]
    · intro hover
      cases transfer with
      | partway got => exact hmoved.getLast?_eq rfl
      | complete | stopped => cases hover
    · rintro rfl
      exact hturn.eq_nil

/-- A stream that moves as many bytes at a time as it is told, and makes its user wait for more. -/
def trickle : Duplex TunnelError (List Nat) where
  read
    | n, k :: rest => (.ready (List.replicate (min k n) 7), rest)
    | _, [] => (.waiting, [])
  write
    | bs, k :: rest => (.ready (min k bs.length), rest)
    | _, [] => (.waiting, [])

theorem trickle_honest : trickle.Honest where
  read_le := by
    rintro n (_ | ⟨k, rest⟩) s' bs h
    · cases h
    · obtain ⟨⟨⟩, -⟩ := Prod.mk.inj h
      rw [List.length_replicate]
      exact Nat.min_le_right k n
  write_le := by
    rintro bs (_ | ⟨k, rest⟩) s' n h
    · cases h
    · obtain ⟨⟨⟩, -⟩ := Prod.mk.inj h
      exact Nat.min_le_right k bs.length

/-- Three bytes are taken in two pieces, with a wait between them; of three that are asked for two
come, and then the end. -/
theorem move_each_byte_once_trickle :
    (Talk.advanceAll trickle [id, (· ++ [2])] (writeAll [1, 2, 3], [1])).1 = .done () ∧
    (Talk.advanceAll trickle [id] (readExact 3, [2, 0])).1 =
      .fail (.framing (.endInsideRead 2 3)) := by
  constructor
  · obtain ⟨hwrite, -⟩ := move_each_byte_once trickle_honest [id, (· ++ [2])]
      (List.cons_ne_nil _ _) [1]
    obtain ⟨-, -, hdone, -⟩ := hwrite [1, 2, 3]
    refine hdone.2 ?_
    simp [Talk.calls, Talk.advanceAll, Talk.poll, writeAll, Talk.advance, Duplex.deliver,
      Duplex.logged, trickle, moved, Poll.piece, Poll.map]
  · obtain ⟨-, hread⟩ := move_each_byte_once trickle_honest [id] (List.cons_ne_nil _ _) [2, 0]
    obtain ⟨-, -, hfail, -⟩ := hread 3
    have hcalls : Talk.calls trickle [id] (readExact 3) [2, 0] =
        [⟨.read 3, .ready [7, 7]⟩, ⟨.read 1, .ready []⟩] := by
      simp [Talk.calls, Talk.advanceAll, Talk.poll, readExact, Talk.advance, Duplex.collect,
        Duplex.collectAfter, Duplex.logged, trickle, List.replicate]
    rw [hcalls] at hfail
    exact (hfail _).2 (.inl ⟨rfl, .read 1, by simp⟩)

end Tunnel

end SealedTunnel
