import SealedTunnel.Proofs.Stream.Reliable
import SealedTunnel.Stream.Talk

/-!
# Conversations over reliable streams

A conversation has one outcome for every byte string that is followed by the end of the stream, and
says one thing to whoever sends it. Over a reliable stream it comes to that outcome however the
stream cuts the bytes and however often it makes the conversation wait: what is left of it does with
the bytes still ahead what the whole of it does with all of them.

## Main definitions

* `Talk.on`: the outcome on a byte string, and what is left of the bytes
* `Talk.Silent`, `Talk.Hungry`: conversations that only listen, and those that need more bytes
* `Talk.Leaves`: what is left of a conversation after some bytes
* `Talk.speech`: what a conversation says
* `Duplex.Delivers`: what holds of the bytes that a stream has given, and when it gives no more

## Main results

* `Talk.advance_bind`: one conversation behind the other
* `Talk.advance_of_gives`: what is left after an advance, by the bytes that it took off the stream
* `Talk.advance_reliable`: an advance changes neither the outcome nor what is said in all
* `Talk.advance_delivers`: a conversation has been given what it has used
-/

namespace SealedTunnel

namespace Talk

variable {δ ε α β σ : Type}

/-- The outcome of a conversation that is given these bytes and then the end, and what it leaves of
the bytes. Whatever it writes is taken. -/
def on : Talk δ ε α → Bytes → Except ε α × Bytes
  | .done a, bs => (.ok a, bs)
  | .fail e, bs => (.error e, bs)
  | .need n stop next, bs =>
    if bs.length < n then (.error (stop (.ended bs.length)), [])
    else (next (bs.take n)).on (bs.drop n)
  | .send _ _ next, bs => next.on bs

/-- A conversation that only listens. -/
inductive Silent : Talk δ ε α → Prop
  | done (a : α) : Silent (.done a)
  | fail (e : ε) : Silent (.fail e)
  | need {n : Nat} {stop : Interruption δ → ε} {next : Bytes → Talk δ ε α}
      (h : ∀ bs, Silent (next bs)) : Silent (.need n stop next)

/-- A conversation that needs more bytes before it is done. -/
def Hungry (t : Talk δ ε α) : Prop :=
  ∀ a rest, t.on [] ≠ (.ok a, rest)

/-- After the bytes `got`, `t'` is what is left of `t`. -/
def Leaves (t : Talk δ ε α) (got : Bytes) (t' : Talk δ ε α) : Prop :=
  ∀ more, t.on (got ++ more) = t'.on more

variable {t t' t'' : Talk δ ε α} {got got' bs : Bytes} {n : Nat} {stop : Interruption δ → ε}
  {next : Bytes → Talk δ ε α}

theorem Leaves.refl (t : Talk δ ε α) : t.Leaves [] t := fun _ => rfl

theorem Leaves.trans (h : t.Leaves got t') (h' : t'.Leaves got' t'') :
    t.Leaves (got ++ got') t'' := by
  intro more
  rw [List.append_assoc, h, h']

/-! ## Outcomes -/

theorem on_need_of_lt (h : bs.length < n) :
    (Talk.need n stop next).on bs = (.error (stop (.ended bs.length)), []) := by
  rw [on, if_pos h]

theorem hungry_need (h : 0 < n) : (Talk.need n stop next).Hungry := by
  intro a rest hon
  rw [on_need_of_lt h] at hon
  cases (Prod.mk.inj hon).1

theorem on_need_append (h : got.length = n) (more : Bytes) :
    (Talk.need n stop next).on (got ++ more) = (next got).on more := by
  have hlength : ¬(got ++ more).length < n := by
    rw [List.length_append, h]
    exact Nat.not_lt.2 (Nat.le_add_right ..)
  rw [on, if_neg hlength, List.take_left' h, List.drop_left' h]

theorem on_need_eq_ok {a : α} {rest : Bytes} (h : (Talk.need n stop next).on bs = (.ok a, rest)) :
    ∃ front back, bs = front ++ back ∧ front.length = n ∧ (next front).on back = (.ok a, rest) := by
  rw [on] at h
  split at h
  · cases (Prod.mk.inj h).1
  · rename_i hn
    exact ⟨bs.take n, bs.drop n, (List.take_append_drop n bs).symm,
      List.length_take_of_le (Nat.not_lt.1 hn), h⟩

/-- A conversation that is done needs no more than the bytes it has used. -/
theorem leaves_of_on_eq_ok {a : α} {rest : Bytes} (h : t.on bs = (.ok a, rest)) :
    ∃ used, bs = used ++ rest ∧ t.Leaves used (.done a) := by
  induction t generalizing bs with
  | done b =>
    obtain ⟨⟨⟩, rfl⟩ := Prod.mk.inj h
    exact ⟨[], rfl, .refl _⟩
  | fail e => cases (Prod.mk.inj h).1
  | need n stop next ih =>
    obtain ⟨front, back, rfl, hlength, h⟩ := on_need_eq_ok h
    obtain ⟨used, rfl, hleaves⟩ := ih _ h
    exact ⟨front ++ used, (List.append_assoc ..).symm, .trans (on_need_append hlength) hleaves⟩
  | send data stop next ih => exact ih h

theorem on_bind (t : Talk δ ε α) (f : α → Talk δ ε β) (bs : Bytes) :
    (t.bind f).on bs = match t.on bs with
      | (.ok a, rest) => (f a).on rest
      | (.error e, rest) => (.error e, rest) := by
  induction t generalizing bs with
  | done a => rfl
  | fail e => rfl
  | need n stop next ih =>
    rw [bind, on, on]
    split
    · rfl
    · exact ih _ _
  | send data stop next ih => exact ih bs

theorem Silent.bind {f : α → Talk δ ε β} (ht : t.Silent) (hf : ∀ a, (f a).Silent) :
    (t.bind f).Silent := by
  induction ht with
  | done a => exact hf a
  | fail e => exact .fail e
  | need _ ih => exact .need ih

theorem Silent.resume (h : (Talk.need n stop next).Silent) (got : Bytes) :
    (resume n stop next got).Silent := by
  cases h with
  | need h => exact .need fun more => h (got ++ more)

/-- A conversation that was put aside in the middle of its bytes misses none of them. -/
theorem leaves_resume (h : got.length < n) :
    (Talk.need n stop next).Leaves got (resume n stop next got) := by
  intro more
  rw [resume, on, on, List.length_append]
  by_cases hm : got.length + more.length < n
  · rw [if_pos hm, if_pos (by omega)]
    rfl
  · rw [if_neg hm, if_neg (by omega), List.take_append, List.drop_append,
      List.take_of_length_le (Nat.le_of_lt h), List.drop_of_length_le (Nat.le_of_lt h),
      List.nil_append]

/-! ## Advancing -/

/-- A conversation with another one behind it goes on into that as soon as it is done. -/
theorem advance_bind (d : Duplex δ σ) (t : Talk δ ε α) (f : α → Talk δ ε β) (s : σ) :
    (t.bind f).advance d s = match t.advance d s with
      | (.done a, s) => (f a).advance d s
      | (rest, s) => (rest.bind f, s) := by
  induction t generalizing s with
  | done a => rfl
  | fail e => rfl
  | need n stop next ih =>
    rw [bind, advance, advance]
    generalize d.collect n s = r
    obtain ⟨transfer, s'⟩ := r
    cases transfer with
    | complete bs => exact ih bs s'
    | partway | stopped => rfl
  | send data stop next ih =>
    rw [bind, advance, advance]
    generalize d.deliver data s = r
    obtain ⟨transfer, s'⟩ := r
    cases transfer with
    | complete => exact ih s'
    | partway | stopped => rfl

/-- **Over a reliable stream nothing of a conversation is lost**: the bytes that an advance takes
off the stream leave of it what goes on afterwards, or the stream has ended too early for it. -/
theorem advance_of_gives {d : Duplex δ σ} {ahead : σ → Bytes} (h : d.Gives ahead)
    (ht : t.Silent) (s : σ) :
    (t.advance d s).1.Silent ∧ ∃ got, ahead s = got ++ ahead (t.advance d s).2 ∧
      (t.Leaves got (t.advance d s).1 ∨
        ∃ e, (t.advance d s).1 = .fail e ∧ ahead (t.advance d s).2 = [] ∧
          t.on got = (.error e, [])) := by
  induction ht generalizing s with
  | done a => exact ⟨.done a, [], rfl, .inl (.refl _)⟩
  | fail e => exact ⟨.fail e, [], rfl, .inl (.refl _)⟩
  | @need n stop next hnext ih =>
    have hc := h.collected n s
    rw [advance]
    generalize d.collect n s = r at hc
    obtain ⟨transfer, s'⟩ := r
    generalize hbefore : ahead s = before at hc
    generalize hafter : ahead s' = after at hc
    cases hc with
    | @complete bs _ hlength =>
      obtain ⟨hsilent, got, hgot, hleaves⟩ := ih bs s'
      refine ⟨hsilent, bs ++ got, by rw [List.append_assoc, ← hgot, hafter], ?_⟩
      rcases hleaves with hleaves | ⟨e, he, hend, hon⟩
      · exact .inl (.trans (on_need_append hlength) hleaves)
      · exact .inr ⟨e, he, hend, by rw [on_need_append hlength, hon]⟩
    | @partway bs _ hlength =>
      exact ⟨.resume (.need hnext) bs, bs, by rw [hafter], .inl (leaves_resume hlength)⟩
    | ended hlength =>
      exact ⟨.fail _, before, by rw [hafter, List.append_nil],
        .inr ⟨_, rfl, hafter, on_need_of_lt hlength⟩⟩

/-- What is left of a conversation that is not over needs more bytes. -/
theorem hungry_advance {d : Duplex δ σ} {ahead : σ → Bytes} (h : d.Gives ahead) (ht : t.Silent)
    (s : σ) (hover : (t.advance d s).1.isOver = false) : (t.advance d s).1.Hungry := by
  induction ht generalizing s with
  | done a => cases hover
  | fail e => cases hover
  | @need n stop next hnext ih =>
    have hc := h.collected n s
    rw [advance] at hover ⊢
    generalize d.collect n s = r at hc hover
    obtain ⟨transfer, s'⟩ := r
    generalize ahead s = before at hc
    generalize ahead s' = after at hc
    cases hc with
    | complete => exact ih _ s' hover
    | partway hlength => exact hungry_need (Nat.sub_pos_of_lt hlength)
    | ended => cases hover

/-- What is left does with the bytes still ahead what the whole does with all of them. -/
theorem on_advance {d : Duplex δ σ} {ahead : σ → Bytes} (h : d.Gives ahead) (ht : t.Silent)
    (s : σ) : t.on (ahead s) = (t.advance d s).1.on (ahead (t.advance d s).2) := by
  obtain ⟨-, got, hgot, hleaves⟩ := advance_of_gives h ht s
  rw [hgot]
  rcases hleaves with hleaves | ⟨e, he, hend, hon⟩
  · exact hleaves _
  · rw [hend, List.append_nil, hon, he, on]

/-- What reading keeps, a conversation that only listens keeps. -/
theorem advance_keeps {d : Duplex δ σ} {P : σ → Prop}
    (h : ∀ {n s}, 0 < n → P s → P (d.read n s).2) (ht : t.Silent) {s : σ} (hs : P s) :
    P (t.advance d s).2 := by
  induction ht generalizing s with
  | done a => exact hs
  | fail e => exact hs
  | @need n stop next hnext ih =>
    have hc := d.collectAfter_keeps h n [] hs
    rw [advance, Duplex.collect]
    generalize d.collectAfter n [] s = r at hc
    obtain ⟨transfer, s'⟩ := r
    cases transfer with
    | complete bs => exact ih bs hc
    | partway got => exact hc
    | stopped why => exact hc

/-- Over a stream that does not make its reader wait, a conversation comes to its outcome. -/
theorem isOver_advance {d : Duplex δ σ} {P : σ → Prop} (h : d.AtOnce P) (ht : t.Silent) {s : σ}
    (hs : P s) : (t.advance d s).1.isOver := by
  induction ht generalizing s with
  | done a => rfl
  | fail e => rfl
  | @need n stop next hnext ih =>
    have hwhole := h.collectAfter n [] hs
    have hs' := d.collectAfter_keeps h.keeps n [] hs
    rw [advance, Duplex.collect]
    generalize d.collectAfter n [] s = r at hwhole hs'
    obtain ⟨transfer, s'⟩ := r
    cases transfer with
    | complete bs => exact ih bs hs'
    | partway got => exact absurd rfl (hwhole got)
    | stopped why => rfl

/-! ## Conversations with both sides -/

/-- What a conversation says to someone who sends these bytes and then the end, if all of it is
taken. -/
def speech : Talk δ ε α → Bytes → Bytes
  | .done _, _ | .fail _, _ => []
  | .need n _ next, bs => if bs.length < n then [] else (next (bs.take n)).speech (bs.drop n)
  | .send data _ next, bs => data ++ next.speech bs

theorem speech_need_of_lt {bs : Bytes} (h : bs.length < n) :
    (Talk.need n stop next).speech bs = [] := by
  rw [speech, if_pos h]

theorem speech_need_append (h : got.length = n) (more : Bytes) :
    (Talk.need n stop next).speech (got ++ more) = (next got).speech more := by
  have hlength : ¬(got ++ more).length < n := by
    rw [List.length_append, h]
    exact Nat.not_lt.2 (Nat.le_add_right ..)
  rw [speech, if_neg hlength, List.take_left' h, List.drop_left' h]

theorem speech_resume (h : got.length < n) (more : Bytes) :
    (resume n stop next got).speech more = (Talk.need n stop next).speech (got ++ more) := by
  rw [resume, speech, speech, List.length_append]
  by_cases hm : got.length + more.length < n
  · rw [if_pos hm, if_pos (by omega)]
  · rw [if_neg hm, if_neg (by omega), List.take_append, List.drop_append,
      List.take_of_length_le (Nat.le_of_lt h), List.drop_of_length_le (Nat.le_of_lt h),
      List.nil_append]

/-- **Over a reliable stream a conversation comes to its outcome**: what is left of it does with the
bytes still ahead what the whole does with all of them, and says what the whole has still to say. -/
theorem advance_reliable {d : Duplex δ σ} {up : σ → Prop} {taken ahead : σ → Bytes}
    (h : d.Reliable up taken ahead) (t : Talk δ ε α) {s : σ} (hs : up s) :
    let r := t.advance d s
    up r.2 ∧ t.on (ahead s) = r.1.on (ahead r.2) ∧
      taken s ++ t.speech (ahead s) = taken r.2 ++ r.1.speech (ahead r.2) := by
  induction t generalizing s with
  | done a => exact ⟨hs, rfl, rfl⟩
  | fail e => exact ⟨hs, rfl, rfl⟩
  | need n stop next ih =>
    have hc := h.gives.collected n s
    have hkeeps : up (d.collect n s).2 ∧ taken (d.collect n s).2 = taken s :=
      d.collectAfter_keeps (P := fun s' => up s' ∧ taken s' = taken s)
        (fun hn hP => ⟨(h.read_keeps hn hP.1).1, (h.read_keeps hn hP.1).2.trans hP.2⟩)
        n [] ⟨hs, rfl⟩
    rw [advance]
    generalize d.collect n s = r at hc hkeeps
    obtain ⟨transfer, s'⟩ := r
    obtain ⟨hup, htaken⟩ := hkeeps
    dsimp only at hup htaken hc
    rw [← htaken]
    generalize hbefore : ahead s = before at hc
    generalize hafter : ahead s' = after at hc
    cases hc with
    | @complete bs _ hlength =>
      rw [on_need_append hlength, speech_need_append hlength, ← hafter]
      exact ih bs hup
    | partway hlength =>
      refine ⟨hup, ?_, ?_⟩
      · rw [hafter]
        exact leaves_resume hlength after
      · rw [hafter, speech_resume hlength]
    | ended hlength =>
      refine ⟨hup, ?_, ?_⟩
      · rw [hafter, on_need_of_lt hlength, on]
      · rw [speech_need_of_lt hlength, speech]
  | send data stop next ih =>
    obtain ⟨went, hdelivered, hup, htaken⟩ := h.takes.delivered data s hs
    have hahead : up (d.deliver data s).2 ∧ ahead (d.deliver data s).2 = ahead s :=
      d.deliver_keeps (P := fun s' => up s' ∧ ahead s' = ahead s)
        (fun hne hP => ⟨h.takes.up_write hne hP.1, (h.write_keeps hne hP.1).trans hP.2⟩)
        data ⟨hs, rfl⟩
    rw [advance, on, speech]
    generalize d.deliver data s = r at hdelivered hup htaken hahead
    obtain ⟨transfer, s'⟩ := r
    dsimp only at hdelivered hup htaken hahead
    cases hdelivered with
    | complete =>
      have := ih hup
      rw [hahead.2] at this
      rw [← List.append_assoc, ← htaken]
      exact this
    | @partway _ rest hne =>
      refine ⟨hup, ?_, ?_⟩
      · rw [on, hahead.2]
      · rw [speech, htaken, hahead.2, List.append_assoc, List.append_assoc]

/-- Where writing may fail, but leaves the bytes ahead alone, a conversation comes to its outcome
unless it fails. -/
theorem on_advance_or_fail {d : Duplex δ σ} {ahead : σ → Bytes} (h : d.Gives ahead)
    (hwrite : ∀ bs s, ahead (d.write bs s).2 = ahead s) (t : Talk δ ε α) (s : σ) :
    (∃ e, (t.advance d s).1 = .fail e) ∨
      t.on (ahead s) = (t.advance d s).1.on (ahead (t.advance d s).2) := by
  induction t generalizing s with
  | done a => exact .inr rfl
  | fail e => exact .inr rfl
  | need n stop next ih =>
    have hc := h.collected n s
    rw [advance]
    generalize d.collect n s = r at hc
    obtain ⟨transfer, s'⟩ := r
    dsimp only at hc
    generalize hbefore : ahead s = before at hc
    generalize hafter : ahead s' = after at hc
    cases hc with
    | @complete bs _ hlength =>
      rw [on_need_append hlength, ← hafter]
      exact ih bs s'
    | partway hlength =>
      refine .inr ?_
      rw [hafter]
      exact leaves_resume hlength after
    | ended hlength => exact .inl ⟨_, rfl⟩
  | send data stop next ih =>
    have hahead := d.deliver_keeps (P := fun s' => ahead s' = ahead s)
      (fun {bs s'} _ hs' => (hwrite bs s').trans hs') data rfl
    rw [advance, on]
    generalize d.deliver data s = r at hahead
    obtain ⟨transfer, s'⟩ := r
    dsimp only at hahead
    rw [← hahead]
    cases transfer with
    | complete => exact ih s'
    | partway => exact .inr rfl
    | stopped why => exact .inl ⟨_, rfl⟩

/-- Over a stream that makes its user wait for nothing, a conversation comes to its end. -/
theorem isOver_advance_of_swift {d : Duplex δ σ} {P : σ → Prop} (h : d.Swift P) (t : Talk δ ε α)
    {s : σ} (hs : P s) : (t.advance d s).1.isOver ∧ P (t.advance d s).2 := by
  induction t generalizing s with
  | done a => exact ⟨rfl, hs⟩
  | fail e => exact ⟨rfl, hs⟩
  | need n stop next ih =>
    have hwhole := h.reads.collectAfter n [] hs
    have hs' := d.collectAfter_keeps h.reads.keeps n [] hs
    rw [advance, Duplex.collect]
    generalize d.collectAfter n [] s = r at hwhole hs'
    obtain ⟨transfer, s'⟩ := r
    cases transfer with
    | complete bs => exact ih bs hs'
    | partway got => exact absurd rfl (hwhole got)
    | stopped why => exact ⟨rfl, hs'⟩
  | send data stop next ih =>
    have hwhole := h.deliver data hs
    have hs' := d.deliver_keeps h.keeps data hs
    rw [advance]
    generalize d.deliver data s = r at hwhole hs'
    obtain ⟨transfer, s'⟩ := r
    cases transfer with
    | complete => exact ih hs'
    | partway rest => exact absurd rfl (hwhole rest)
    | stopped why => exact ⟨rfl, hs'⟩

end Talk

/-! ## What a conversation has been given -/

namespace Duplex

variable {δ ε α σ : Type}

/-- As long as the stream gives bytes, `I` holds of those that it has given so far; `W` does when it
makes its reader wait, and `X` when it has ended or failed. -/
structure Delivers (d : Duplex δ σ) (I W X : Bytes → σ → Prop) : Prop where
  ready : ∀ {n got bs s s'}, 0 < n → I got s → bs ≠ [] → d.read n s = (.ready bs, s') →
    bs.length ≤ n ∧ I (got ++ bs) s'
  waiting : ∀ {n got s s'}, 0 < n → I got s → d.read n s = (.waiting, s') → I got s' ∧ W got s'
  ended : ∀ {n got s s'}, 0 < n → I got s → d.read n s = (.ready [], s') → X got s'
  failed : ∀ {n got s e s'}, 0 < n → I got s → d.read n s = (.failed e, s') → X got s'

variable {d : Duplex δ σ} {I W X : Bytes → σ → Prop} {got : Bytes}

theorem Delivers.collectAfter (h : d.Delivers I W X) (missing : Nat) (pieces : List Bytes) {s : σ}
    (hs : I (got ++ pieces.reverse.flatten) s) :
    let r := d.collectAfter missing pieces s
    let length := pieces.reverse.flatten.length + missing
    match r.1 with
    | .complete bs => bs.length = length ∧ I (got ++ bs) r.2
    | .partway bs => bs.length < length ∧ I (got ++ bs) r.2 ∧ W (got ++ bs) r.2
    | .stopped _ => ∃ bs, bs.length < length ∧ X (got ++ bs) r.2 := by
  fun_induction d.collectAfter missing pieces s with
  | case1 pieces s => exact ⟨rfl, hs⟩
  | case2 missing pieces s hm s' hr =>
    have hpos := Nat.pos_of_ne_zero hm
    exact ⟨Nat.lt_add_of_pos_right hpos, h.waiting hpos hs hr⟩
  | case3 missing pieces s hm e s' hr =>
    have hpos := Nat.pos_of_ne_zero hm
    exact ⟨_, Nat.lt_add_of_pos_right hpos, h.failed hpos hs hr⟩
  | case4 missing pieces s hm s' hr =>
    have hpos := Nat.pos_of_ne_zero hm
    exact ⟨_, Nat.lt_add_of_pos_right hpos, h.ended hpos hs hr⟩
  | case5 missing pieces s hm b bs s' hr ih =>
    obtain ⟨hle, hs'⟩ := h.ready (Nat.pos_of_ne_zero hm) hs (List.cons_ne_nil b bs) hr
    rw [List.append_assoc] at hs'
    have hpieces : ((b :: bs) :: pieces).reverse.flatten = pieces.reverse.flatten ++ b :: bs := by
      rw [List.reverse_cons, List.flatten_append, List.flatten_singleton]
    rw [hpieces] at ih
    rw [List.length_append, Nat.add_assoc, Nat.add_sub_cancel' hle] at ih
    exact ih hs'

end Duplex

/-- **A conversation that only listens has been given what it has used**, unless the stream has
stopped it where it needed more. -/
theorem Talk.advance_delivers {δ ε α σ : Type} {d : Duplex δ σ} {I W X : Bytes → σ → Prop}
    (h : d.Delivers I W X) {t : Talk δ ε α} (ht : t.Silent) {got : Bytes} {s : σ} (hs : I got s) :
    (∃ e more t', (t.advance d s).1 = .fail e ∧ X (got ++ more) (t.advance d s).2 ∧
        t.Leaves more t' ∧ t'.Hungry) ∨
      (t.advance d s).1.Silent ∧ ∃ more, I (got ++ more) (t.advance d s).2 ∧
        t.Leaves more (t.advance d s).1 ∧
        ((t.advance d s).1.isOver = false →
          W (got ++ more) (t.advance d s).2 ∧ (t.advance d s).1.Hungry) := by
  induction ht generalizing got s with
  | done a =>
    refine .inr ⟨.done a, [], ?_, .refl _, nofun⟩
    rw [List.append_nil]
    exact hs
  | fail e =>
    refine .inr ⟨.fail e, [], ?_, .refl _, nofun⟩
    rw [List.append_nil]
    exact hs
  | @need n stop next hnext ih =>
    have hnone : I (got ++ ([] : List Bytes).reverse.flatten) s := by
      rw [List.reverse_nil, List.flatten_nil, List.append_nil]
      exact hs
    have hc := h.collectAfter n [] hnone
    rw [List.reverse_nil, List.flatten_nil, List.length_nil, Nat.zero_add] at hc
    rw [advance, Duplex.collect]
    generalize d.collectAfter n [] s = r at hc
    obtain ⟨transfer, s'⟩ := r
    cases transfer with
    | complete bs =>
      obtain ⟨hlength, hs'⟩ := hc
      rcases ih bs hs' with ⟨e, more, t', hfail, hmore, hleaves, hhungry⟩ |
        ⟨hsilent, more, hmore, hleaves, hwait⟩
      · rw [List.append_assoc] at hmore
        exact .inl ⟨e, bs ++ more, t', hfail, hmore, .trans (on_need_append hlength) hleaves,
          hhungry⟩
      · rw [List.append_assoc] at hmore hwait
        exact .inr ⟨hsilent, bs ++ more, hmore, .trans (on_need_append hlength) hleaves, hwait⟩
    | partway bs =>
      obtain ⟨hlength, hs', hwait⟩ := hc
      exact .inr ⟨.resume (.need hnext) bs, bs, hs', leaves_resume hlength,
        fun _ => ⟨hwait, hungry_need (Nat.sub_pos_of_lt hlength)⟩⟩
    | stopped why =>
      obtain ⟨bs, hlength, hs'⟩ := hc
      exact .inl ⟨_, bs, _, rfl, hs', leaves_resume hlength,
        hungry_need (Nat.sub_pos_of_lt hlength)⟩

/-- A conversation that only listens has to wait only when nothing is ahead. -/
theorem Talk.ahead_of_waiting {δ ε α σ : Type} {d : Duplex δ σ} {ahead : σ → Bytes}
    (h : d.Gives ahead) (hforth : d.Forthcoming ahead) {t : Talk δ ε α} (ht : t.Silent) (s : σ)
    (hover : (t.advance d s).1.isOver = false) : ahead (t.advance d s).2 = [] := by
  have hdelivers : d.Delivers (fun _ _ => True) (fun _ s => ahead s = []) fun _ _ => True := by
    refine ⟨fun hn _ _ hr => ⟨(h.ready hn hr).1, trivial⟩, fun hn _ hr => ⟨trivial, ?_⟩,
      fun _ _ _ => trivial, fun _ _ _ => trivial⟩
    rw [h.waiting hn hr]
    exact hforth _ _ hn (congrArg Prod.fst hr)
  rcases @Talk.advance_delivers _ _ _ _ _ _ _ _ hdelivers _ ht [] s trivial with
    ⟨e, -, -, hfail, -⟩ | ⟨-, more, -, -, hwait⟩
  · rw [hfail] at hover
    cases hover
  · exact (hwait hover).1

end SealedTunnel
