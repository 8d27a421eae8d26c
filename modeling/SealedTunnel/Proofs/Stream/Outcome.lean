import SealedTunnel.Stream.Talk

/-!
# Outcomes over any stream

What a conversation comes to over a stream of which nothing is known: it may give any bytes, end,
break or make the conversation wait, and others may use it in between. What holds of the outcome in
all of these cases can be read off the conversation itself.

## Main definitions

* `Talk.Ensures`: what holds of a conversation's outcome, whatever the stream does
* `Talk.Completes`: how a conversation comes to its outcome over a stream that others use too

## Main results

* `Talk.Ensures.of_completes`: what a conversation ensures holds of whatever it comes to
-/

namespace SealedTunnel

namespace Talk

variable {δ ε ε' α α' σ : Type} {P : Except ε α → Prop} {t : Talk δ ε α}

/-- Whatever bytes a conversation is given, and wherever the stream stops it, `P` holds of its
outcome. -/
def Ensures (P : Except ε α → Prop) : Talk δ ε α → Prop
  | .done a => P (.ok a)
  | .fail e => P (.error e)
  | .need _ stop next => (∀ why, P (.error (stop why))) ∧ ∀ bs, (next bs).Ensures P
  | .send _ stop next => (∀ why, P (.error (stop why))) ∧ next.Ensures P

/-- The outcome as another layer sees it. -/
def outcomeMap (f : ε → ε') (g : α → α') : Except ε α → Except ε' α'
  | .ok a => .ok (g a)
  | .error e => .error (f e)

theorem ensures_map {f : ε → ε'} {g : α → α'} {P : Except ε' α' → Prop} (t : Talk δ ε α) :
    (t.map f g).Ensures P ↔ t.Ensures fun r => P (outcomeMap f g r) := by
  induction t with
  | done a => exact Iff.rfl
  | fail e => exact Iff.rfl
  | need n stop next ih => exact and_congr_right fun _ => forall_congr' ih
  | send data stop next ih => exact and_congr_right fun _ => ih

/-- **What a conversation ensures, the rest of it ensures** after any stream has given and taken
what it can. -/
theorem Ensures.advance (h : t.Ensures P) (d : Duplex δ σ) (s : σ) :
    (t.advance d s).1.Ensures P := by
  induction t generalizing s with
  | done a => exact h
  | fail e => exact h
  | need n stop next ih =>
    obtain ⟨hstop, hnext⟩ := h
    rw [Talk.advance]
    generalize d.collect n s = r
    obtain ⟨transfer, s'⟩ := r
    cases transfer with
    | complete bs => exact ih bs (hnext bs) s'
    | partway got => exact ⟨fun why => hstop _, fun more => hnext _⟩
    | stopped why => exact hstop why
  | send data stop next ih =>
    obtain ⟨hstop, hnext⟩ := h
    rw [Talk.advance]
    generalize d.deliver data s = r
    obtain ⟨transfer, s'⟩ := r
    cases transfer with
    | complete bs => exact ih hnext s'
    | partway rest => exact ⟨hstop, hnext⟩
    | stopped why => exact hstop why

/-- A conversation comes to an outcome. While it has to wait, others may do anything to the
stream. -/
inductive Completes (d : Duplex δ σ) : Talk δ ε α → σ → Except ε α → Prop
  | done {t : Talk δ ε α} {a : α} {s s' : σ} (h : t.advance d s = (.done a, s')) :
      Completes d t s (.ok a)
  | fail {t : Talk δ ε α} {e : ε} {s s' : σ} (h : t.advance d s = (.fail e, s')) :
      Completes d t s (.error e)
  | wait {t : Talk δ ε α} {r : Except ε α} {s : σ} (s' : σ)
      (h : Completes d (t.advance d s).1 s' r) : Completes d t s r

/-- A conversation that the stream does not make wait comes to its outcome. -/
theorem Completes.of_run {d : Duplex δ σ} {s : σ} {r : Except ε α} (h : (t.run d s).1 = some r) :
    t.Completes d s r := by
  rw [run] at h
  split at h
  · obtain rfl := Option.some.inj h
    exact .done ‹_›
  · obtain rfl := Option.some.inj h
    exact .fail ‹_›
  · cases h

/-- What a conversation ensures holds of whatever it comes to. -/
theorem Ensures.of_completes {d : Duplex δ σ} {s : σ} {r : Except ε α} (h : t.Ensures P)
    (hr : t.Completes d s r) : P r := by
  induction hr with
  | @done t a s s' hdone =>
    have hrest := h.advance d s
    rw [hdone] at hrest
    exact hrest
  | @fail t e s s' hfail =>
    have hrest := h.advance d s
    rw [hfail] at hrest
    exact hrest
  | wait s' _ ih => exact ih (h.advance d _)

end Talk

end SealedTunnel
