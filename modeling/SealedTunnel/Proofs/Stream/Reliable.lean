import SealedTunnel.Stream.Duplex

/-!
# Reliable streams

A stream gives the bytes that are ahead of its reader, in order and in whatever pieces, and says
that it has ended only behind the last of them; it takes the bytes that its writer puts in, some at
a time. Either may make its user wait, which loses nothing. Collecting and delivering over such a
stream come out in few ways.

## Main definitions

* `Duplex.Gives`, `Duplex.Takes`: what a reliable stream owes to its reader and to its writer
* `Duplex.Reliable`: both directions together
* `Duplex.Aside`: what others do leaves the stream alone
* `Duplex.AtOnce`, `Duplex.Swift`: when a stream does not make its reader wait, and its user
* `Duplex.Forthcoming`: a stream that makes its reader wait only when it has to
* `Collected`, `Delivered`: how collecting and delivering come out

## Main results

* `Duplex.Gives.collected`: collecting takes off the first of the bytes ahead, or meets the end
* `Duplex.Takes.delivered`: delivering puts in the first of the bytes, all of them if it does not
  wait
-/

namespace SealedTunnel

namespace Duplex

variable {δ σ : Type}

/-- The stream gives the bytes that are `ahead`, and ends behind them. -/
structure Gives (d : Duplex δ σ) (ahead : σ → Bytes) : Prop where
  ready : ∀ {n s bs s'}, 0 < n → d.read n s = (.ready bs, s') →
    bs.length ≤ n ∧ ahead s = bs ++ ahead s' ∧ (bs = [] → ahead s' = [])
  waiting : ∀ {n s s'}, 0 < n → d.read n s = (.waiting, s') → ahead s' = ahead s
  unfailing : ∀ {n s e s'}, 0 < n → d.read n s ≠ (.failed e, s')

/-- As long as it is `up`, the stream takes bytes; those that it has taken so far are `taken`. -/
structure Takes (d : Duplex δ σ) (up : σ → Prop) (taken : σ → Bytes) : Prop where
  ready : ∀ {bs s n s'}, up s → bs ≠ [] → d.write bs s = (.ready n, s') →
    0 < n ∧ n ≤ bs.length ∧ up s' ∧ taken s' = taken s ++ bs.take n
  waiting : ∀ {bs s s'}, up s → bs ≠ [] → d.write bs s = (.waiting, s') →
    up s' ∧ taken s' = taken s
  unfailing : ∀ {bs s e s'}, up s → bs ≠ [] → d.write bs s ≠ (.failed e, s')

theorem Takes.up_write {d : Duplex δ σ} {up : σ → Prop} {taken : σ → Bytes} (h : d.Takes up taken)
    {bs : Bytes} {s : σ} (hne : bs ≠ []) (hs : up s) : up (d.write bs s).2 := by
  cases hw : d.write bs s with
  | mk outcome s' =>
    cases outcome with
    | ready n => exact (h.ready hs hne hw).2.2.1
    | failed e => exact absurd hw (h.unfailing hs hne)
    | waiting => exact (h.waiting hs hne hw).1

/-- A two-way stream whose two directions do not disturb each other. -/
structure Reliable (d : Duplex δ σ) (up : σ → Prop) (taken ahead : σ → Bytes) : Prop where
  gives : d.Gives ahead
  takes : d.Takes up taken
  read_keeps : ∀ {n s}, 0 < n → up s → up (d.read n s).2 ∧ taken (d.read n s).2 = taken s
  write_keeps : ∀ {bs s}, bs ≠ [] → up s → ahead (d.write bs s).2 = ahead s

/-- What others do leaves the stream alone. -/
structure Aside (up : σ → Prop) (taken ahead : σ → Bytes) (f : σ → σ) : Prop where
  up : ∀ {s}, up s → up (f s)
  taken : ∀ s, taken (f s) = taken s
  ahead : ∀ s, ahead (f s) = ahead s

/-- While `P` holds, the stream does not make its reader wait. -/
structure AtOnce (d : Duplex δ σ) (P : σ → Prop) : Prop where
  read_ne : ∀ n {s}, P s → (d.read n s).1 ≠ .waiting
  keeps : ∀ {n s}, 0 < n → P s → P (d.read n s).2

/-- The stream makes its reader wait only when nothing is ahead. -/
def Forthcoming (d : Duplex δ σ) (ahead : σ → Bytes) : Prop :=
  ∀ n s, 0 < n → (d.read n s).1 = .waiting → ahead s = []

/-- While `P` holds, the stream makes its user wait for nothing. -/
structure Swift (d : Duplex δ σ) (P : σ → Prop) : Prop where
  reads : d.AtOnce P
  write_ne : ∀ {bs s}, bs ≠ [] → P s → (d.write bs s).1 ≠ .waiting
  keeps : ∀ {bs s}, bs ≠ [] → P s → P (d.write bs s).2

end Duplex

/-! ## Collecting -/

/-- How collecting `n` bytes comes out, by the bytes ahead of the stream before and after it. -/
inductive Collected {δ : Type} (n : Nat) : Transfer δ → (before after : Bytes) → Prop
  | complete {bs after : Bytes} (h : bs.length = n) : Collected n (.complete bs) (bs ++ after) after
  | partway {bs after : Bytes} (h : bs.length < n) : Collected n (.partway bs) (bs ++ after) after
  /-- The stream ends too early. -/
  | ended {bs : Bytes} (h : bs.length < n) : Collected n (.stopped (.ended bs.length)) bs []

namespace Duplex

variable {δ σ : Type} {d : Duplex δ σ} {ahead taken : σ → Bytes} {up : σ → Prop}

theorem Gives.collectedAfter (h : d.Gives ahead) (missing : Nat) (pieces : List Bytes) (s : σ) :
    Collected (pieces.reverse.flatten.length + missing) (d.collectAfter missing pieces s).1
      (pieces.reverse.flatten ++ ahead s) (ahead (d.collectAfter missing pieces s).2) := by
  -- By induction along the loop: the pieces so far and the bytes ahead stay the same bytes.
  fun_induction d.collectAfter missing pieces s with
  | case1 pieces s => exact .complete rfl
  | case2 missing pieces s hm s' hr =>
    have hpos : 0 < missing := Nat.pos_of_ne_zero hm
    rw [← h.waiting hpos hr]
    exact .partway (Nat.lt_add_of_pos_right hpos)
  | case3 missing pieces s hm e s' hr => exact absurd hr (h.unfailing (Nat.pos_of_ne_zero hm))
  | case4 missing pieces s hm s' hr =>
    have hpos : 0 < missing := Nat.pos_of_ne_zero hm
    obtain ⟨-, hahead, hend⟩ := h.ready hpos hr
    have hlength : pieces.flatten.length = pieces.reverse.flatten.length := by
      rw [List.length_flatten, List.length_flatten, List.map_reverse, List.sum_reverse]
    rw [hahead, hend rfl, hlength, List.append_nil, List.append_nil]
    exact .ended (Nat.lt_add_of_pos_right hpos)
  | case5 missing pieces s hm b bs s' hr ih =>
    obtain ⟨hle, hahead, -⟩ := h.ready (Nat.pos_of_ne_zero hm) hr
    rw [List.reverse_cons, List.flatten_append, List.flatten_singleton, List.length_append,
      Nat.add_assoc, Nat.add_sub_cancel' hle, List.append_assoc, ← hahead] at ih
    exact ih

/-- **Collecting takes off the first of the bytes ahead**, or all of them if the stream ends too
early. -/
theorem Gives.collected (h : d.Gives ahead) (n : Nat) (s : σ) :
    Collected n (d.collect n s).1 (ahead s) (ahead (d.collect n s).2) := by
  have := h.collectedAfter n [] s
  rw [List.reverse_nil, List.flatten_nil, List.length_nil, Nat.zero_add, List.nil_append] at this
  exact this

/-- What reading at most `limit` bytes keeps, collecting that many keeps. -/
theorem collectAfter_keeps_of_le {P : σ → Prop} {limit : Nat}
    (h : ∀ {n s}, 0 < n → n ≤ limit → P s → P (d.read n s).2) {missing : Nat}
    (hm : missing ≤ limit) (pieces : List Bytes) {s : σ} (hs : P s) :
    P (d.collectAfter missing pieces s).2 := by
  have hread {n : Nat} {s s' : σ} {r : Poll δ Bytes} (hn : ¬n = 0) (hle : n ≤ limit)
      (hr : d.read n s = (r, s')) (hs : P s) : P s' := by
    have := h (Nat.pos_of_ne_zero hn) hle hs
    rw [hr] at this
    exact this
  fun_induction d.collectAfter missing pieces s with
  | case1 => exact hs
  | case2 missing pieces s hne s' hr => exact hread hne hm hr hs
  | case3 missing pieces s hne e s' hr => exact hread hne hm hr hs
  | case4 missing pieces s hne s' hr => exact hread hne hm hr hs
  | case5 missing pieces s hne b bs s' hr ih =>
    exact ih (Nat.le_trans (Nat.sub_le ..) hm) (hread hne hm hr hs)

/-- What reading keeps, collecting keeps. -/
theorem collectAfter_keeps {P : σ → Prop} (h : ∀ {n s}, 0 < n → P s → P (d.read n s).2)
    (missing : Nat) (pieces : List Bytes) {s : σ} (hs : P s) :
    P (d.collectAfter missing pieces s).2 :=
  d.collectAfter_keeps_of_le (fun hn _ => h hn) (Nat.le_refl missing) pieces hs

/-- A stream that does not make its reader wait collects to the end. -/
theorem AtOnce.collectAfter {P : σ → Prop} (h : d.AtOnce P) (missing : Nat)
    (pieces : List Bytes) {s : σ} (hs : P s) (got : Bytes) :
    (d.collectAfter missing pieces s).1 ≠ .partway got := by
  fun_induction d.collectAfter missing pieces s with
  | case1 | case3 | case4 => nofun
  | case2 missing pieces s hm s' hr => exact absurd (congrArg Prod.fst hr) (h.read_ne missing hs)
  | case5 missing pieces s hm b bs s' hr ih =>
    have hs' := h.keeps (Nat.pos_of_ne_zero hm) hs
    rw [hr] at hs'
    exact ih hs'

end Duplex

/-! ## Delivering -/

/-- How delivering `data` comes out, by the bytes that went. -/
inductive Delivered {δ : Type} : (data : Bytes) → Transfer δ → (went : Bytes) → Prop
  | complete {data : Bytes} : Delivered data (.complete []) data
  | partway {went rest : Bytes} (h : rest ≠ []) : Delivered (went ++ rest) (.partway rest) went

namespace Duplex

variable {δ σ : Type} {d : Duplex δ σ} {taken : σ → Bytes} {up : σ → Prop}

/-- **Delivering puts in the first of the bytes**, all of them if the stream does not make it
wait. -/
theorem Takes.delivered (h : d.Takes up taken) (data : Bytes) (s : σ) (hs : up s) :
    ∃ went, Delivered data (d.deliver data s).1 went ∧ up (d.deliver data s).2 ∧
      taken (d.deliver data s).2 = taken s ++ went := by
  -- By induction along the loop: what is left to deliver is a suffix of the data.
  fun_induction d.deliver data s with
  | case1 s => exact ⟨[], .complete, hs, (List.append_nil _).symm⟩
  | case2 s b bs s' hw =>
    obtain ⟨hup, htaken⟩ := h.waiting hs (List.cons_ne_nil _ _) hw
    refine ⟨[], ?_, hup, by rw [htaken, List.append_nil]⟩
    rw [← List.nil_append (b :: bs)]
    exact .partway (List.cons_ne_nil _ _)
  | case3 s b bs e s' hw => exact absurd hw (h.unfailing hs (List.cons_ne_nil _ _))
  | case4 s b bs s' hw => exact absurd (h.ready hs (List.cons_ne_nil _ _) hw).1 (Nat.lt_irrefl 0)
  | case5 s b bs n s' hw ih =>
    obtain ⟨-, hle, hup, htaken⟩ := h.ready hs (List.cons_ne_nil _ _) hw
    obtain ⟨went, hd, hup', htaken'⟩ := ih hup
    refine ⟨b :: bs.take n ++ went, ?_, hup', ?_⟩
    · have hsplit : b :: bs = (b :: bs.take n) ++ bs.drop n := by
        rw [List.cons_append, List.take_append_drop]
      generalize (d.deliver (bs.drop n) s').1 = t at hd
      generalize bs.drop n = rest at hd hsplit
      rw [hsplit]
      cases hd with
      | complete => exact .complete
      | partway hne =>
        rw [← List.append_assoc]
        exact .partway hne
    · rw [htaken', htaken, List.append_assoc, List.take_succ_cons]

/-- What writing keeps, delivering keeps. -/
theorem deliver_keeps {P : σ → Prop} (h : ∀ {bs s}, bs ≠ [] → P s → P (d.write bs s).2)
    (data : Bytes) {s : σ} (hs : P s) : P (d.deliver data s).2 := by
  have hwrite {b : UInt8} {bs : Bytes} {s s' : σ} {r : Poll δ Nat}
      (hw : d.write (b :: bs) s = (r, s')) (hs : P s) : P s' := by
    have := h (List.cons_ne_nil b bs) hs
    rw [hw] at this
    exact this
  fun_induction d.deliver data s with
  | case1 => exact hs
  | case2 s b bs s' hw => exact hwrite hw hs
  | case3 s b bs e s' hw => exact hwrite hw hs
  | case4 s b bs s' hw => exact hwrite hw hs
  | case5 s b bs n s' hw ih => exact ih (hwrite hw hs)

/-- A stream that makes its user wait for nothing takes all of the bytes. -/
theorem Swift.deliver {P : σ → Prop} (h : d.Swift P) (data : Bytes) {s : σ} (hs : P s)
    (rest : Bytes) : (d.deliver data s).1 ≠ .partway rest := by
  fun_induction d.deliver data s with
  | case1 | case3 | case4 => nofun
  | case2 s b bs s' hw =>
    exact absurd (congrArg Prod.fst hw) (h.write_ne (List.cons_ne_nil _ _) hs)
  | case5 s b bs n s' hw ih =>
    have hs' := h.keeps (List.cons_ne_nil b bs) hs
    rw [hw] at hs'
    exact ih hs'

end Duplex

end SealedTunnel
