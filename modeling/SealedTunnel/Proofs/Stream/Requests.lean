import SealedTunnel.Proofs.Stream.Reliable
import SealedTunnel.Stream.Talk

/-!
# How much a conversation asks for

Whoever asks a stream for bytes has a place for them, so what is asked for at a time is what has to
be held. A conversation says itself how much it will ask for. Over a stream that keeps its side,
which may give any bytes, end, break or make it wait, it never asks for more, also not after it was
put aside and taken up again.

## Main definitions

* `Transfer.Fills`: what came of collecting has a place of so many bytes
* `Talk.Asks`: how much a conversation asks for, and what it comes to if it is given that
* `Duplex.Keeps`: what is kept as long as no more than that is asked for
* `Duplex.metered`: a stream that writes down how much it was asked for

## Main results

* `Duplex.Honest.collect`: a stream that keeps its side fills the place that it is given
* `Talk.Asks.advance`, `Talk.Asks.advance_keeps`: a conversation over such a stream
-/

namespace SealedTunnel

variable {δ ε α β σ : Type}

/-! ## Collecting -/

/-- What came of collecting `n` bytes has a place of so many bytes, and fills it if all of them
came. -/
def Transfer.Fills (n : Nat) : Transfer δ → Prop
  | .complete bs => bs.length = n
  | .partway bs => bs.length ≤ n
  | .stopped _ => True

namespace Duplex

variable {d : Duplex δ σ}

theorem Honest.collectAfter (h : d.Honest) (missing : Nat) (pieces : List Bytes) (s : σ) :
    (d.collectAfter missing pieces s).1.Fills (pieces.reverse.flatten.length + missing) := by
  -- By induction along the loop: what is there and what is missing stay as much.
  fun_induction d.collectAfter missing pieces s with
  | case1 pieces s => rfl
  | case2 missing pieces s hm s' hr => exact Nat.le_add_right ..
  | case3 | case4 => trivial
  | case5 missing pieces s hm b bs s' hr ih =>
    have hle := h.read_le hr
    rw [List.reverse_cons, List.flatten_append, List.flatten_singleton, List.length_append,
      Nat.add_assoc, Nat.add_sub_cancel' hle] at ih
    exact ih

/-- **A stream that keeps its side fills the place that it is given**, and no more. -/
theorem Honest.collect (h : d.Honest) (n : Nat) (s : σ) : (d.collect n s).1.Fills n := by
  have := h.collectAfter n [] s
  rw [List.reverse_nil, List.flatten_nil, List.length_nil, Nat.zero_add] at this
  exact this

/-- `I` is kept by reading at most `limit` bytes at a time, and by writing. -/
structure Keeps (d : Duplex δ σ) (limit : Nat) (I : σ → Prop) : Prop where
  read : ∀ {n s}, n ≤ limit → I s → I (d.read n s).2
  write : ∀ {bs s}, I s → I (d.write bs s).2

/-- The same stream; how much it is asked for is written down. -/
def metered (d : Duplex δ σ) : Duplex δ (σ × List Nat) where
  read n s := let (r, s') := d.read n s.1; (r, s', s.2 ++ [n])
  write bs s := let (r, s') := d.write bs s.1; (r, s', s.2)

theorem Honest.metered (h : d.Honest) : d.metered.Honest where
  read_le hr := by
    obtain ⟨hr, -⟩ := Prod.mk.inj hr
    exact h.read_le (Prod.ext hr rfl)
  write_le hw := by
    obtain ⟨hw, -⟩ := Prod.mk.inj hw
    exact h.write_le (Prod.ext hw rfl)

/-- As long as it is asked for at most `limit` bytes at a time, that is what it writes down. -/
theorem keeps_metered (d : Duplex δ σ) (limit : Nat) :
    d.metered.Keeps limit fun s => ∀ n ∈ s.2, n ≤ limit where
  read := by
    intro n s hn hs m hm
    rcases List.mem_append.1 hm with hm | hm
    · exact hs m hm
    · rw [List.mem_singleton.1 hm]
      exact hn
  write hs := hs

end Duplex

/-! ## Conversations -/

namespace Talk

variable {d : Duplex δ σ} {limit : Nat} {P : α → Prop} {Q : β → Prop} {t : Talk δ ε α}

/-- A conversation asks for at most `limit` bytes at a time; and `P` holds of what it comes to if it
is given as many as it asks for. -/
def Asks (limit : Nat) (P : α → Prop) : Talk δ ε α → Prop
  | .done a => P a
  | .fail _ => True
  | .need n _ next => n ≤ limit ∧ ∀ bs : Bytes, bs.length = n → (next bs).Asks limit P
  | .send _ _ next => next.Asks limit P

theorem Asks.bind {f : α → Talk δ ε β} (ht : t.Asks limit P) (hf : ∀ a, P a → (f a).Asks limit Q) :
    (t.bind f).Asks limit Q := by
  induction t with
  | done a => exact hf a ht
  | fail e => trivial
  | need n stop next ih =>
    obtain ⟨hn, hnext⟩ := ht
    refine ⟨hn, ?_⟩
    intro bs hbs
    exact ih bs (hnext bs hbs)
  | send data stop next ih => exact ih ht

/-- What is left after some of the bytes asks for the others only. -/
theorem Asks.resume {n : Nat} {stop : Interruption δ → ε} {next : Bytes → Talk δ ε α}
    (h : (Talk.need n stop next).Asks limit P) {got : Bytes} (hgot : got.length ≤ n) :
    (Talk.resume n stop next got).Asks limit P := by
  obtain ⟨hn, hnext⟩ := h
  constructor
  · exact Nat.le_trans (Nat.sub_le ..) hn
  · intro more hmore
    apply hnext
    rw [List.length_append, hmore, Nat.add_sub_cancel' hgot]

/-- **What is left of a conversation asks for no more than all of it.** -/
theorem Asks.advance (h : t.Asks limit P) (hd : d.Honest) (s : σ) :
    (t.advance d s).1.Asks limit P := by
  induction t generalizing s with
  | done a => exact h
  | fail e => trivial
  | need n stop next ih =>
    have hfills := hd.collect n s
    rw [Talk.advance]
    generalize d.collect n s = r at hfills
    obtain ⟨transfer, s'⟩ := r
    cases transfer with
    | complete bs => exact ih bs (h.2 bs hfills) s'
    | partway got => exact h.resume hfills
    | stopped why => trivial
  | send data stop next ih =>
    rw [Talk.advance]
    generalize d.deliver data s = r
    obtain ⟨transfer, s'⟩ := r
    cases transfer with
    | complete bs => exact ih h s'
    | partway rest => exact h
    | stopped why => trivial

/-- **What asking for so many bytes keeps, such a conversation keeps.** -/
theorem Asks.advance_keeps {I : σ → Prop} (hd : d.Honest) (hI : d.Keeps limit I)
    (h : t.Asks limit P) {s : σ} (hs : I s) : I (t.advance d s).2 := by
  induction t generalizing s with
  | done a => exact hs
  | fail e => exact hs
  | need n stop next ih =>
    have hfills := hd.collect n s
    have hkept : I (d.collect n s).2 :=
      d.collectAfter_keeps_of_le (fun _ => hI.read) h.1 [] hs
    rw [Talk.advance]
    generalize d.collect n s = r at hfills hkept
    obtain ⟨transfer, s'⟩ := r
    cases transfer with
    | complete bs => exact ih bs (h.2 bs hfills) hkept
    | partway | stopped => exact hkept
  | send data stop next ih =>
    have hkept : I (d.deliver data s).2 := d.deliver_keeps (fun _ => hI.write) data hs
    rw [Talk.advance]
    generalize d.deliver data s = r at hkept
    obtain ⟨transfer, s'⟩ := r
    cases transfer with
    | complete bs => exact ih h hkept
    | partway | stopped => exact hkept

end Talk

end SealedTunnel
