import SealedTunnel.Proofs.Stream.Talk

/-!
# Streams within a larger state

A program that uses a stream has more in its state than the stream. Where an operation on the larger
state does to one part of it what an operation does to that part alone, everything that is made of
the operation does so too: collecting, delivering, and conversations. So a stream keeps its side
within any larger state, and a program that also writes down what it does is the program.

## Main definitions

* `Duplex.Within`: a stream within a larger state
* `Duplex.beside`: a stream, next to something that it leaves alone

## Main results

* `Duplex.Within.collect`, `Duplex.Within.deliver`, `Talk.advance_within`
* `Talk.advance_beside`: a conversation leaves alone what is beside its stream
* `Duplex.Within.reliable`: a stream keeps its side
* `Duplex.Reliable.beside`: so does a stream next to something, which it leaves alone
-/

namespace SealedTunnel

variable {δ ε α σ σ' τ : Type}

namespace Duplex

/-- The stream `d'` does to the part `π` of its state what `d` does. -/
structure Within (π : σ' → σ) (d' : Duplex δ σ') (d : Duplex δ σ) : Prop where
  read : ∀ n s, d.read n (π s) = Prod.map id π (d'.read n s)
  write : ∀ bs s, d.write bs (π s) = Prod.map id π (d'.write bs s)

/-- The stream, next to something that it leaves alone. -/
def beside (τ : Type) (d : Duplex δ σ) : Duplex δ (σ × τ) where
  read n s := let (r, s') := d.read n s.1; (r, s', s.2)
  write bs s := let (r, s') := d.write bs s.1; (r, s', s.2)

theorem within_beside (d : Duplex δ σ) : (d.beside τ).Within Prod.fst d :=
  ⟨fun _ _ => rfl, fun _ _ => rfl⟩

namespace Within

variable {π : σ' → σ} {d' : Duplex δ σ'} {d : Duplex δ σ} {n : Nat} {bs : Bytes} {s s' : σ'}

theorem read_eq (h : d'.Within π d) {r : Poll δ Bytes} (hr : d'.read n s = (r, s')) :
    d.read n (π s) = (r, π s') := by
  rw [h.read, hr]
  rfl

theorem write_eq (h : d'.Within π d) {r : Poll δ Nat} (hw : d'.write bs s = (r, s')) :
    d.write bs (π s) = (r, π s') := by
  rw [h.write, hw]
  rfl

theorem collect (h : d'.Within π d) (n : Nat) (s : σ') :
    d.collect n (π s) = Prod.map id π (d'.collect n s) := by
  unfold Duplex.collect
  generalize [] = pieces
  fun_induction d'.collectAfter n pieces s with
  | case1 pieces s => rw [collectAfter, dif_pos rfl]; rfl
  | case2 missing pieces s hm s' hr => rw [collectAfter, dif_neg hm, h.read_eq hr]; rfl
  | case3 missing pieces s hm e s' hr => rw [collectAfter, dif_neg hm, h.read_eq hr]; rfl
  | case4 missing pieces s hm s' hr => rw [collectAfter, dif_neg hm, h.read_eq hr]; rfl
  | case5 missing pieces s hm b bs s' hr ih =>
    rw [collectAfter, dif_neg hm, h.read_eq hr]
    exact ih

theorem deliver (h : d'.Within π d) (data : Bytes) (s : σ') :
    d.deliver data (π s) = Prod.map id π (d'.deliver data s) := by
  fun_induction d'.deliver data s with
  | case1 s => rw [Duplex.deliver]; rfl
  | case2 s b bs s' hw => rw [Duplex.deliver, h.write_eq hw]; rfl
  | case3 s b bs e s' hw => rw [Duplex.deliver, h.write_eq hw]; rfl
  | case4 s b bs s' hw => rw [Duplex.deliver, h.write_eq hw]; rfl
  | case5 s b bs n s' hw ih =>
    rw [Duplex.deliver, h.write_eq hw]
    exact ih

/-! ## What a stream owes -/

variable {up P : σ → Prop} {taken ahead : σ → Bytes}

theorem gives (h : d'.Within π d) (hd : d.Gives ahead) : d'.Gives fun s => ahead (π s) :=
  ⟨fun hn hr => hd.ready hn (h.read_eq hr), fun hn hr => hd.waiting hn (h.read_eq hr),
    fun hn hr => hd.unfailing hn (h.read_eq hr)⟩

theorem takes (h : d'.Within π d) (hd : d.Takes up taken) :
    d'.Takes (fun s => up (π s)) fun s => taken (π s) :=
  ⟨fun hs hne hw => hd.ready hs hne (h.write_eq hw),
    fun hs hne hw => hd.waiting hs hne (h.write_eq hw),
    fun hs hne hw => hd.unfailing hs hne (h.write_eq hw)⟩

theorem reliable (h : d'.Within π d) (hd : d.Reliable up taken ahead) :
    d'.Reliable (fun s => up (π s)) (fun s => taken (π s)) fun s => ahead (π s) where
  gives := h.gives hd.gives
  takes := h.takes hd.takes
  read_keeps := by
    intro n s hn hs
    have := hd.read_keeps hn hs
    rw [h.read] at this
    exact this
  write_keeps := by
    intro bs s hne hs
    have := hd.write_keeps hne hs
    rw [h.write] at this
    exact this

theorem delivers_of (h : d'.Within π d) {I W X : Bytes → σ → Prop} (hd : d.Delivers I W X) :
    d'.Delivers (fun got s => I got (π s)) (fun got s => W got (π s)) fun got s => X got (π s) where
  ready hn hs hne hr := hd.ready hn hs hne (h.read_eq hr)
  waiting hn hs hr := hd.waiting hn hs (h.read_eq hr)
  ended hn hs hr := hd.ended hn hs (h.read_eq hr)
  failed hn hs hr := hd.failed hn hs (h.read_eq hr)

end Within

/-- A stream next to something keeps its side, and leaves that alone. -/
theorem Reliable.beside {d : Duplex δ σ} {up : σ → Prop} {taken ahead : σ → Bytes}
    (h : d.Reliable up taken ahead) (x : τ) :
    (d.beside τ).Reliable (fun s => up s.1 ∧ s.2 = x) (fun s => taken s.1) fun s => ahead s.1 := by
  have hwithin := (within_beside (τ := τ) d).reliable h
  refine ⟨hwithin.gives, ?_, ?_, ?_⟩
  · refine ⟨?_, ?_, ?_⟩
    · intro bs s n s' hs hne hw
      obtain ⟨hn, hle, hup, htaken⟩ := hwithin.takes.ready hs.1 hne hw
      obtain ⟨-, rfl⟩ := Prod.mk.inj hw
      exact ⟨hn, hle, ⟨hup, hs.2⟩, htaken⟩
    · intro bs s s' hs hne hw
      obtain ⟨hup, htaken⟩ := hwithin.takes.waiting hs.1 hne hw
      obtain ⟨-, rfl⟩ := Prod.mk.inj hw
      exact ⟨⟨hup, hs.2⟩, htaken⟩
    · intro bs s e s' hs hne
      exact hwithin.takes.unfailing hs.1 hne
  · intro n s hn hs
    obtain ⟨hup, htaken⟩ := hwithin.read_keeps hn hs.1
    exact ⟨⟨hup, hs.2⟩, htaken⟩
  · intro bs s hne hs
    exact hwithin.write_keeps hne hs.1

end Duplex

/-- **A conversation takes the same course within a larger state.** -/
theorem Talk.advance_within {π : σ' → σ} {d' : Duplex δ σ'} {d : Duplex δ σ} (h : d'.Within π d)
    (t : Talk δ ε α) (s : σ') : t.advance d (π s) = Prod.map id π (t.advance d' s) := by
  induction t generalizing s with
  | done a => rfl
  | fail e => rfl
  | need n stop next ih =>
    rw [advance, advance, h.collect]
    generalize d'.collect n s = r
    obtain ⟨transfer, s'⟩ := r
    cases transfer with
    | complete bs => exact ih bs s'
    | partway got => rfl
    | stopped why => rfl
  | send data stop next ih =>
    rw [advance, advance, h.deliver]
    generalize d'.deliver data s = r
    obtain ⟨transfer, s'⟩ := r
    cases transfer with
    | complete => exact ih s'
    | partway rest => rfl
    | stopped why => rfl

/-- What reading and writing keep, a conversation keeps. -/
theorem Talk.advance_keeps_both {d : Duplex δ σ} {P : σ → Prop}
    (hread : ∀ n {s}, P s → P (d.read n s).2) (hwrite : ∀ bs {s}, P s → P (d.write bs s).2)
    (t : Talk δ ε α) {s : σ} (hs : P s) : P (t.advance d s).2 := by
  induction t generalizing s with
  | done a => exact hs
  | fail e => exact hs
  | need n stop next ih =>
    have hc := d.collectAfter_keeps (fun _ => hread _) n [] hs
    rw [advance, Duplex.collect]
    generalize d.collectAfter n [] s = r at hc
    obtain ⟨transfer, s'⟩ := r
    cases transfer with
    | complete bs => exact ih bs hc
    | partway got => exact hc
    | stopped why => exact hc
  | send data stop next ih =>
    have hc := d.deliver_keeps (fun _ => hwrite _) data hs
    rw [advance]
    generalize d.deliver data s = r at hc
    obtain ⟨transfer, s'⟩ := r
    cases transfer with
    | complete => exact ih hc
    | partway rest => exact hc
    | stopped why => exact hc

/-- A conversation leaves alone what is beside its stream. -/
theorem Talk.advance_beside (d : Duplex δ σ) (t : Talk δ ε α) (s : σ) (x : τ) :
    t.advance (d.beside τ) (s, x) = ((t.advance d s).1, (t.advance d s).2, x) := by
  have hsame := t.advance_within (d.within_beside (τ := τ)) (s, x)
  have hbeside := t.advance_keeps_both (d := d.beside τ) (P := fun p => p.2 = x)
    (fun _ _ h => h) (fun _ _ h => h) (s := (s, x)) rfl
  rw [hsame]
  exact Prod.ext rfl (Prod.ext rfl hbeside)

end SealedTunnel
