import SealedTunnel.Proofs.Address
import SealedTunnel.Proofs.Conn.Flow
import SealedTunnel.Proofs.Path.Station
import SealedTunnel.Proofs.Relay.Guide

/-!
# What the far end hears

The far end reads what it is told over its connection: at first the header of an address, and then,
once a stream to that address is open, data that it forwards to there. Whatever it does next is
decided by the bytes that it was given, so it asks for no other address, and forwards nothing but
data, in their order; and it sees the end of them only when the near end has stopped telling.

## Main definitions

* `Listens`: the far end was given some of what is told
* `Egress.Account`: what the near end vouches for when it tells something
* `Egress.Hearing`, `Egress.Gone`: how serving the connection may stand

## Main results

* `Egress.kept_hearing`: serving keeps to it
* `Egress.receive_asks`: a header that was told makes the far end ask for its target
-/

namespace SealedTunnel

open Relay

variable {ε α τ : Type}

/-- Of what is told over a link that is closed or not, the connection has given `heard`. -/
structure Listens (st : Station ε α τ) (queue : τ → Bytes) (closed : τ → Bool)
    (told pending coming : Bytes) (c : Bool) (heard : Bytes) (p : Post α τ) : Prop where
  flow : ∃ begun, Flow st.settings queue closed p.conn.reader p.conn.readLine p.conn.stream told
    pending heard coming begun
  same : closed p.conn.stream = c

/-- The link makes its reader wait only when it is empty, and no read is cut short. -/
structure Station.Prompt (st : Station ε α τ) (queue : τ → Bytes) : Prop where
  forthcoming : st.link.Forthcoming queue
  fuel : ∀ l, (queue l).length < st.fuel l

namespace Listens

variable {st : Station ε α τ} {near : Carrier τ} {drop : τ → τ}
  {queue returning : τ → Bytes} {closed : τ → Bool} {told pending coming heard : Bytes} {c : Bool}
  {p p' : Post α τ} {n : Nat}

theorem within (h : Listens st queue closed told pending coming c heard p) :
    heard <+: told ++ pending :=
  let ⟨_, hflow⟩ := h.flow
  (List.prefix_append ..).trans hflow.upper

theorem congr (h : Listens st queue closed told pending coming c heard p)
    (hreader : p'.conn.reader = p.conn.reader) (hline : p'.conn.readLine = p.conn.readLine)
    (hstream : p'.conn.stream = p.conn.stream) :
    Listens st queue closed told pending coming c heard p' := by
  obtain ⟨⟨begun, hflow⟩, hsame⟩ := h
  refine ⟨⟨begun, ?_⟩, ?_⟩
  · rw [hreader, hline, hstream]
    exact hflow
  · rw [hstream]
    exact hsame

/-- Writing what goes back does not disturb it. -/
theorem write (hlink : near.Joins st.link drop queue closed returning)
    (h : Listens st queue closed told pending coming c heard p) (data : Bytes) :
    Listens st queue closed told pending coming c heard (st.write data p).2 := by
  obtain ⟨conn, pause, stats, log, self⟩ := p
  have hstart : queue conn.stream = queue conn.stream ∧ closed conn.stream = closed conn.stream :=
    ⟨rfl, rfl⟩
  have hwrote := Channel.write_readers
    (P := fun l => queue l = queue conn.stream ∧ closed l = closed conn.stream)
    (fun {bs l} _ hl => ⟨(hlink.write_far bs l).1.trans hl.1, (hlink.write_far bs l).2.trans hl.2⟩)
    (fun {l} hl => ⟨(hlink.flush_far l).1.trans hl.1, (hlink.flush_far l).2.trans hl.2⟩)
    st.settings 0 data hstart
  have hwritten {conn' : Channel τ} {pause' : Option (Nat × Nat)}
      (hw : conn'.reader = conn.reader ∧ conn'.readLine = conn.readLine ∧
        queue conn'.stream = queue conn.stream ∧ closed conn'.stream = closed conn.stream) :
      Listens st queue closed told pending coming c heard ⟨conn', pause', stats, log, self⟩ := by
    obtain ⟨hreader, hline, hqueue, hclosed⟩ := hw
    obtain ⟨⟨begun, hflow⟩, hsame⟩ := h
    refine ⟨⟨begun, ?_⟩, hclosed.trans hsame⟩
    show Flow _ _ _ conn'.reader conn'.readLine _ _ _ _ _ _
    rw [hreader, hline]
    exact hflow.link hqueue hclosed
  unfold Station.write
  cases pause with
  | some wake =>
    dsimp only
    split
    · exact h
    · exact hwritten ⟨rfl, rfl, rfl, rfl⟩
  | none =>
    dsimp only
    generalize conn.write st.settings st.link 0 data = w at hwrote
    obtain ⟨outcome, conn'⟩ := w
    cases outcome with
    | waiting | failed => exact hwritten hwrote
    | ready r =>
      obtain ⟨n, delay⟩ := r
      cases delay with
      | none | some => exact hwritten hwrote

/-- **Reading hears more of it**, and the end only behind all that was told. -/
theorem read (hlink : near.Joins st.link drop queue closed returning)
    (h : Listens st queue closed told pending coming c heard p) (hn : 0 < n) :
    match st.read n p with
    | (.failed _, _) => c = true ∧ told <+: heard
    | (.ready [], p') => (c = true ∧ told <+: heard) ∧
        Listens st queue closed told pending coming c heard p'
    | (.ready bs, p') => bs.length ≤ n ∧
        Listens st queue closed told pending coming c (heard ++ bs) p'
    | (.waiting, p') => Listens st queue closed told pending coming c heard p' ∧
        (st.Prompt queue → told <+: heard) := by
  obtain ⟨⟨begun, hflow⟩, hsame⟩ := h
  have hlength := Channel.length_read_le (hlink.gives []) hn hflow.began 0 (st.fuel p.conn.stream)
  have hwaiting (hprompt : st.Prompt queue) :=
    hflow.told_of_waiting hlink hprompt.forthcoming hn (hprompt.fuel p.conn.stream)
  obtain ⟨hclosed, hheard⟩ := hflow.read hlink hn (st.fuel p.conn.stream)
  obtain ⟨log, hread⟩ := st.read_eq n p
  rw [hread]
  generalize p.conn.read st.settings st.link (st.fuel p.conn.stream) 0 n = r
    at hlength hwaiting hclosed hheard
  obtain ⟨outcome, conn⟩ := r
  dsimp only at hlength hwaiting hclosed
  rw [hsame] at hclosed
  cases hheard with
  | waiting hflow' => exact ⟨⟨⟨_, hflow'⟩, hclosed⟩, fun hprompt => hwaiting hprompt rfl⟩
  | some hflow' => exact ⟨hlength, ⟨_, hflow'⟩, hclosed⟩
  | ended hflow' hend htold => exact ⟨⟨hclosed.symm.trans hend, htold⟩, ⟨_, hflow'⟩, hclosed⟩
  | failed hend htold => exact ⟨hclosed.symm.trans hend, htold⟩

/-- What the far end reads is what it is told. -/
theorem delivers_tunnel (hlink : near.Joins st.link drop queue closed returning) :
    st.tunnel.Delivers
      (fun heard p => Listens st queue closed told pending coming c heard p)
      (fun heard _ => st.Prompt queue → told <+: heard)
      fun heard _ => c = true ∧ told <+: heard where
  ready := by
    intro n heard bs p p' hn h hne hr
    have hread := h.read hlink hn
    rw [show st.read n p = (.ready bs, p') from hr] at hread
    cases bs with
    | nil => exact absurd rfl hne
    | cons b bs => exact hread
  waiting := by
    intro n heard p p' hn h hr
    have hread := h.read hlink hn
    rw [show st.read n p = (.waiting, p') from hr] at hread
    exact hread
  ended := by
    intro n heard p p' hn h hr
    have hread := h.read hlink hn
    rw [show st.read n p = (.ready [], p') from hr] at hread
    exact hread.1
  failed := by
    intro n heard p e p' hn h hr
    have hread := h.read hlink hn
    rw [show st.read n p = (.failed e, p') from hr] at hread
    exact hread

end Listens

namespace Egress

/-- What may be relied on when `told` was told, and `pending` may come: it is of header and data,
and a link that is closed tells that the near end has `ceased`, having told all of it if `whole`,
and at least the header if `named`. -/
structure Account (ceased whole named : Prop) (header data told pending : Bytes) (c : Bool) :
    Prop where
  within : told ++ pending <+: header ++ data
  ceased : c = true → ceased
  whole : c = true → whole → told = header ++ data
  named : c = true → named → header <+: told

/-- How serving a connection may stand while the far end still listens, that was given `heard`. -/
inductive Hearing {σ : Type} (target : String) (heard : Bytes) :
    Outcome ε → List Act → List (Incident ConnectError σ) → Prop
  | receiving {deadline talk} (hsilent : talk.Silent)
      (hleaves : Target.receive.Leaves heard talk) :
      Hearing target heard (.inl (.receiving deadline talk)) [] []
  | connecting {progress} (hheard : heard = Target.header target) :
      Hearing target heard (.inl (.connecting progress)) [] [.asked target]
  | copying {stream up down acts start}
      (hheard : heard = Target.header target ++ took .down acts ++ down.unsent)
      (hgoing : Act.sourceEnded .down ∉ acts) :
      Hearing target heard (.inl (.relaying stream (.copying up down))) acts
        [.asked target, .opened stream, .relays stream start]

/-- What was forwarded is of the data, and all of them where the end was seen. -/
structure Forwards (ceased whole : Prop) (data : Bytes) (acts : List Act) : Prop where
  within : took .down acts <+: data
  ended : Act.sourceEnded .down ∈ acts → ceased ∧ (whole → took .down acts = data)

/-- How serving a connection may stand once the far end no longer listens. -/
inductive Gone {σ : Type} (ceased whole named : Prop) (target : String) (data : Bytes) :
    Outcome ε → List Act → List (Incident ConnectError σ) → Prop
  | late : Gone ceased whole named target data (.inr (.error (.timeout "target header"))) [] []
  /-- The near end has stopped before it has named a target. -/
  | unnamed {why} (hceased : ceased) (hnamed : ¬named) :
      Gone ceased whole named target data (.inr (.error why)) [] []
  | refused {why} : Gone ceased whole named target data (.inr (.error (.dial why.message))) []
      [.asked target, .refused why]
  | closing {stream result acts start} (h : Forwards ceased whole data acts) :
      Gone ceased whole named target data (.inl (.relaying stream (.closing result))) acts
        [.asked target, .opened stream, .relays stream start]
  | relayed {stream result acts start} (h : Forwards ceased whole data acts) :
      Gone ceased whole named target data (.inr result) acts
        [.asked target, .opened stream, .relays stream start]

theorem Forwards.mono {ceased ceased' whole whole' : Prop} {data : Bytes} {acts : List Act}
    (h : Forwards ceased whole data acts) (hmono : ceased → ceased' ∧ (whole' → whole)) :
    Forwards ceased' whole' data acts := by
  refine ⟨h.within, fun hended => ?_⟩
  obtain ⟨hceased, hall⟩ := h.ended hended
  obtain ⟨hceased', hwhole⟩ := hmono hceased
  exact ⟨hceased', fun hwhole' => hall (hwhole hwhole')⟩

/-- Where the near end has ceased, nothing may be added to what is known of it. -/
theorem Gone.mono {σ : Type} {ceased ceased' whole whole' named named' : Prop} {target : String}
    {data : Bytes} {o : Outcome ε} {acts : List Act} {log : List (Incident ConnectError σ)}
    (h : Gone ceased whole named target data o acts log)
    (hmono : ceased → ceased' ∧ (whole' → whole) ∧ (named' → named)) :
    Gone ceased' whole' named' target data o acts log := by
  have hforwards (hf : Forwards ceased whole data acts) : Forwards ceased' whole' data acts :=
    hf.mono fun hceased => ⟨(hmono hceased).1, (hmono hceased).2.1⟩
  cases h with
  | late => exact .late
  | unnamed hceased hnamed =>
    obtain ⟨hceased', -, hnamed'⟩ := hmono hceased
    exact .unnamed hceased' (mt hnamed' hnamed)
  | refused => exact .refused
  | closing hf => exact .closing (hforwards hf)
  | relayed hf => exact .relayed (hforwards hf)

variable {st : Station ε α τ} {near : Carrier τ} {drop : τ → τ}
  {queue returning : τ → Bytes} {closed : τ → Bool} {told pending coming heard : Bytes} {c : Bool}
  {ceased whole named : Prop} {address : Address} {header data : Bytes}
  {target : Nat → Duplex IoError α} {close : Nat → α → α}

/-! ## The header -/

/-- How reading the header comes out. -/
theorem advance_receive (hlink : near.Joins st.link drop queue closed returning)
    (haccount : Account ceased whole named (Target.header address.text) data told pending c)
    (hask : address.Askable) {talk : Talk TunnelError TunnelError String} (hsilent : talk.Silent)
    (hleaves : Target.receive.Leaves heard talk) {p : Post α τ}
    (h : Listens st queue closed told pending coming c heard p) :
    match talk.advance st.tunnel p with
    | (.done name, p') => name = address.text ∧
        Listens st queue closed told pending coming c (Target.header address.text) p'
    | (.fail _, _) => c = true ∧ ¬Target.header address.text <+: told
    | (talk', p') => ∃ heard', Listens st queue closed told pending coming c heard' p' ∧
        talk'.Silent ∧ Target.receive.Leaves heard' talk' ∧
        (st.Prompt queue → ¬Target.header address.text <+: told) := by
  have hne := address.text_ne_empty
  have hl := Address.lengthOk_text hask
  have hadvance := Talk.advance_delivers (Listens.delivers_tunnel hlink) hsilent h
  generalize talk.advance st.tunnel p = r at hadvance
  obtain ⟨talk', p'⟩ := r
  rcases hadvance with ⟨e, more, t', rfl, ⟨hc, htold⟩, hmore, hhungry⟩ |
    ⟨hsilent', more, hlistens, hmore, hwait⟩
  · have hnot := Target.not_header_le_of_hungry hne hl (hleaves.trans hmore) hhungry
    exact ⟨hc, fun hheader => hnot (hheader.trans htold)⟩
  · have hleaves' := hleaves.trans hmore
    have hwithin := hlistens.within.trans haccount.within
    cases talk' with
    | done name =>
      obtain ⟨rfl, hheard⟩ := Target.eq_of_leaves_done hne hl hwithin hleaves'
      exact ⟨rfl, hheard ▸ hlistens⟩
    | fail e => exact absurd hleaves' (Target.not_leaves_fail hne hl hwithin)
    | need | send =>
      obtain ⟨htold, hhungry⟩ := hwait rfl
      have hnot := Target.not_header_le_of_hungry hne hl hleaves' hhungry
      exact ⟨_, hlistens, hsilent', hleaves',
        fun hprompt hheader => hnot (hheader.trans (htold hprompt))⟩

/-! ## The relay -/

section Relay

theorem Forwards.concat {acts : List Act} (h : Forwards ceased whole data acts) (act : Act)
    (hact : act ≠ Act.sourceEnded .down) (htook : act.took .down = []) :
    Forwards ceased whole data (acts ++ [act]) := by
  have hsame : took .down (acts ++ [act]) = took .down acts := by
    rw [took_concat, htook, List.append_nil]
  refine ⟨?_, fun hended => ?_⟩
  · rw [hsame]
    exact h.within
  · rw [hsame]
    exact h.ended (sourceEnded_of_concat hact hended)

/-- What holds while the relay copies, with what is still to be written to the target. -/
structure Copies (st : Station ε α τ) (queue : τ → Bytes) (closed : τ → Bool)
    (told pending coming : Bytes) (c : Bool) (header down : Bytes) (x : Post α τ × List Act) :
    Prop where
  listens : Listens st queue closed told pending coming c (header ++ took .down x.2 ++ down) x.1
  going : Act.sourceEnded .down ∉ x.2

namespace Copies

variable {down down' : Bytes} {p p' : Post α τ} {acts : List Act} {act : Act}

theorem concat (h : Copies st queue closed told pending coming c header down (p, acts))
    (hlistens : Listens st queue closed told pending coming c
      (header ++ (took .down acts ++ act.took .down) ++ down') p')
    (hact : act ≠ Act.sourceEnded .down) :
    Copies st queue closed told pending coming c header down' (p', acts ++ [act]) := by
  refine ⟨?_, mt (sourceEnded_of_concat hact) h.going⟩
  show Listens _ _ _ _ _ _ _ (header ++ took .down (acts ++ [act]) ++ down') p'
  rw [took_concat]
  exact hlistens

/-- With an act by which the target takes nothing, only what was heard may be more. -/
theorem still (h : Copies st queue closed told pending coming c header down (p, acts))
    (hlistens : Listens st queue closed told pending coming c
      (header ++ took .down acts ++ down') p')
    (hact : act ≠ Act.sourceEnded .down) (htook : act.took .down = []) :
    Copies st queue closed told pending coming c header down' (p', acts ++ [act]) := by
  refine h.concat ?_ hact
  rw [htook, List.append_nil]
  exact hlistens

/-- Where it copies no more, it has forwarded data. -/
theorem forwards (h : Copies st queue closed told pending coming c header down (p, acts))
    (haccount : Account ceased whole named header data told pending c) :
    Forwards ceased whole data acts := by
  refine ⟨?_, fun hended => absurd hended h.going⟩
  have hwithin := h.listens.within.trans haccount.within
  rw [List.append_assoc, List.prefix_append_right_inj] at hwithin
  exact (List.prefix_append ..).trans hwithin

end Copies

theorem guided_up (hlink : near.Joins st.link drop queue closed returning)
    (haccount : Account ceased whole named header data told pending c)
    (target : Duplex IoError α) (close : α → α) (down : Bytes) :
    let e := (st.ends target close).recorded
    Lane.Guided e.near e.tunnel e.countUp
      (fun _ => Copies st queue closed told pending coming c header down)
      fun x => Forwards ceased whole data (e.abandon x).2 where
  read := by
    rintro ⟨p, acts⟩ h
    have hread : (st.ends target close).recorded.near.read Lane.chunkLimit (p, acts) =
        ((target.read Lane.chunkLimit p.self).1.map .io id,
          { p with self := (target.read Lane.chunkLimit p.self).2 },
          acts ++ [.read .up ((target.read Lane.chunkLimit p.self).1.map .io id)]) := rfl
    rw [hread]
    generalize (target.read Lane.chunkLimit p.self).1.map TunnelError.io id = outcome
    have hcopies : Copies st queue closed told pending coming c header down
        ({ p with self := (target.read Lane.chunkLimit p.self).2 }, acts ++ [.read .up outcome]) :=
      h.still (h.listens.congr rfl rfl rfl) nofun rfl
    have hstopped := (hcopies.forwards haccount).concat .abandoned nofun rfl
    cases outcome with
    | waiting => exact hcopies
    | failed e => exact hstopped
    | ready bs =>
      cases bs with
      | nil => exact hstopped
      | cons b bs => exact hcopies
  write := by
    rintro rest ⟨p, acts⟩ hne h
    have hwrite : (st.ends target close).recorded.tunnel.write rest (p, acts) =
        ((st.write rest p).1, (st.write rest p).2, acts ++ [.wrote .up rest (st.write rest p).1]) :=
      rfl
    rw [hwrite]
    have hlistens := h.listens.write hlink rest
    generalize st.write rest p = w at hlistens
    obtain ⟨outcome, p'⟩ := w
    have hcopies : Copies st queue closed told pending coming c header down
        (p', acts ++ [.wrote .up rest outcome]) :=
      h.still hlistens nofun (Act.took_of_ne nofun)
    have hstopped := (hcopies.forwards haccount).concat .abandoned nofun rfl
    cases outcome with
    | waiting => exact hcopies
    | failed e => exact hstopped
    | ready n =>
      cases n with
      | zero => exact hstopped
      | succ n => exact hcopies
  count := by
    rintro ⟨p, acts⟩ n h
    exact h.still (h.listens.congr rfl rfl rfl) nofun rfl

theorem guided_down (hlink : near.Joins st.link drop queue closed returning)
    (haccount : Account ceased whole named header data told pending c)
    (target : Duplex IoError α) (close : α → α) :
    let e := (st.ends target close).recorded
    Lane.Guided e.tunnel e.near e.countDown
      (Copies st queue closed told pending coming c header)
      fun x => Forwards ceased whole data (e.abandon x).2 where
  read := by
    rintro ⟨p, acts⟩ h
    have hread : (st.ends target close).recorded.tunnel.read Lane.chunkLimit (p, acts) =
        ((st.read Lane.chunkLimit p).1, (st.read Lane.chunkLimit p).2,
          acts ++ [.read .down (st.read Lane.chunkLimit p).1]) := rfl
    rw [hread]
    have hheard := h.listens.read hlink (n := Lane.chunkLimit) (by decide)
    have hforwards := h.forwards haccount
    have hall := h.listens.within.trans haccount.within
    generalize st.read Lane.chunkLimit p = x at hheard
    obtain ⟨outcome, p'⟩ := x
    cases outcome with
    | waiting => exact h.still hheard.1 nofun rfl
    | failed e =>
      exact (hforwards.concat (.read .down (.failed e)) nofun rfl).concat .abandoned nofun rfl
    | ready bs =>
      cases bs with
      | nil =>
        -- The end shows only behind all that was told, and all of that was forwarded.
        obtain ⟨⟨hclosed, htold⟩, -⟩ := hheard
        dsimp only at htold hall
        rw [List.append_nil] at htold hall
        have hended : Forwards ceased whole data (acts ++ [.read .down (.ready [])]) := by
          refine ⟨?_, fun _ => ⟨haccount.ceased hclosed, fun hwhole => ?_⟩⟩
          · rw [took_concat, Act.took_read, List.append_nil]
            exact hforwards.within
          · rw [haccount.whole hclosed hwhole, List.prefix_append_right_inj] at htold
            rw [took_concat, Act.took_read, List.append_nil]
            exact hforwards.within.eq_of_length_le htold.length_le
        exact hended.concat .abandoned nofun rfl
      | cons b bs =>
        obtain ⟨-, hlistens⟩ := hheard
        dsimp only at hlistens
        rw [List.append_nil] at hlistens
        exact h.still hlistens nofun rfl
  write := by
    rintro rest ⟨p, acts⟩ hne h
    have hwrite : (st.ends target close).recorded.near.write rest (p, acts) =
        ((target.write rest p.self).1.map .io id,
          { p with self := (target.write rest p.self).2 },
          acts ++ [.wrote .down rest ((target.write rest p.self).1.map .io id)]) := rfl
    rw [hwrite]
    generalize (target.write rest p.self).1.map TunnelError.io id = outcome
    generalize (target.write rest p.self).2 = self
    have hlistens : Listens st queue closed told pending coming c
        (header ++ took .down acts ++ rest) { p with self } := h.listens.congr rfl rfl rfl
    have hforwards := h.forwards haccount
    cases outcome with
    | waiting => exact h.still hlistens nofun rfl
    | failed e =>
      exact (hforwards.concat (.wrote .down rest (.failed e)) nofun rfl).concat .abandoned nofun rfl
    | ready n =>
      cases n with
      | zero =>
        exact (hforwards.concat (.wrote .down rest (.ready 0)) nofun rfl).concat .abandoned nofun
          rfl
      | succ n =>
        refine h.concat ?_ nofun
        rw [Act.took_wrote_ready, ← List.append_assoc, List.append_assoc, List.take_append_drop]
        exact hlistens
  count := by
    rintro ⟨p, acts⟩ n h
    exact h.still (h.listens.congr rfl rfl rfl) nofun rfl

theorem guided (hlink : near.Joins st.link drop queue closed returning)
    (haccount : Account ceased whole named header data told pending c)
    (target : Duplex IoError α) (close : α → α) :
    Relay.Guided (st.ends target close).recorded
      (fun _ => Copies st queue closed told pending coming c header)
      (fun x => Forwards ceased whole data x.2) fun x => Forwards ceased whole data x.2 where
  up := guided_up hlink haccount target close
  down _ := guided_down hlink haccount target close
  close := by
    rintro ⟨p, acts⟩ h
    rw [Ends.closeTunnel_recorded]
    generalize (st.ends target close).closeTunnel p = r
    obtain ⟨outcome, p'⟩ := r
    have hclosed := Forwards.concat h (.closedTunnel outcome) nofun rfl
    have hover := (hclosed.concat .closedNear nofun rfl).concat .ended nofun rfl
    cases outcome with
    | waiting => exact hclosed
    | ready | failed => exact hover

end Relay

/-! ## Serving -/

/-- How serving the connection may stand. -/
def Hears (st : Station ε α τ) (queue : τ → Bytes) (closed : τ → Bool)
    (told pending coming : Bytes) (c : Bool) (ceased whole named : Prop) (target : String)
    (data : Bytes) (o : Outcome ε)
    (x : (Post α τ × List Act) × Post.Log ConnectError α τ) : Prop :=
  (∃ heard, Hearing target heard o x.1.2 x.2 ∧
      Listens st queue closed told pending coming c heard x.1.1) ∨
    Gone ceased whole named target data o x.1.2 x.2

/-- Reading the header touches nothing but the connection. -/
theorem advance_tunnel (st : Station ε α τ) (target : Nat → Duplex IoError α)
    (close : Nat → α → α) (talk : Talk TunnelError TunnelError String) (p : Post α τ)
    (acts : List Act) (log : Post.Log ConnectError α τ) :
    talk.advance (st.egress target close).acted.recorded.tunnel ((p, acts), log) =
      ((talk.advance st.tunnel p).1, ((talk.advance st.tunnel p).2, acts), log) := by
  show talk.advance ((st.tunnel.beside _).beside _) _ = _
  rw [Talk.advance_beside, Talk.advance_beside]

/-- Once the far end no longer listens, it only closes, whatever the streams do. -/
theorem kept_gone {σ : Type} (site : Site ε σ) (ceased whole named : Prop) (target : String)
    (data : Bytes) : Kept site.acted.recorded fun o x =>
      Gone ceased whole named target data o x.1.2 x.2 where
  receiving h := by cases h
  connecting h := by cases h
  relaying := by
    rintro stream relay ⟨⟨x, acts⟩, log⟩ h
    cases h with
    | @closing _ result _ start hforwards =>
    -- The acts that are left belong to no lane, so they neither forward nor see an end.
    have hkeeps {acts : List Act} {act : Act} (hact : act.way? = none)
        (h : Forwards ceased whole data acts) : Forwards ceased whole data (acts ++ [act]) := by
      refine h.concat act ?_ (Act.took_of_ne ?_)
      · rintro rfl
        cases hact
      · rw [hact]
        nofun
    dsimp only at hforwards
    obtain ⟨hrelay, hforwards'⟩ :=
      Relay.step_closing hkeeps (site.relayTo stream) result x hforwards
    rw [Site.relayTo_recorded, Relay.step_announced,
      show site.acted.relayTo stream = (site.relayTo stream).recorded from rfl]
    generalize Relay.step (site.relayTo stream).recorded (.closing result) (x, acts) = r
      at hrelay hforwards'
    obtain ⟨relay', x', acts'⟩ := r
    rcases hrelay with rfl | rfl
    · exact .closing hforwards'
    · cases result with
      | ok | error => exact .relayed hforwards'

/-- **Serving keeps to it**: it asks for the address that was told, and forwards the data behind
it. -/
theorem kept_hearing (hlink : near.Joins st.link drop queue closed returning)
    (haccount : Account ceased whole named (Target.header address.text) data told pending c)
    (hask : address.Askable) (target : Nat → Duplex IoError α) (close : Nat → α → α) :
    Kept (st.egress target close).acted.recorded
      (Hears st queue closed told pending coming c ceased whole named address.text data) where
  receiving := by
    rintro deadline talk ⟨⟨p, acts⟩, log⟩ h
    rcases h with ⟨heard, hhearing, hlistens⟩ | hgone
    · cases hhearing with
      | receiving hsilent hleaves =>
      have hadvance := advance_receive hlink haccount hask hsilent hleaves hlistens
      rw [advance_tunnel]
      generalize talk.advance st.tunnel p = r at hadvance
      obtain ⟨talk', p'⟩ := r
      cases talk' with
      | done name =>
        obtain ⟨rfl, hlistens'⟩ := hadvance
        exact .inl ⟨_, .connecting rfl, hlistens'.congr rfl rfl rfl⟩
      | fail e =>
        obtain ⟨hc, hheader⟩ := hadvance
        exact .inr (.unnamed (haccount.ceased hc) (mt (haccount.named hc) hheader))
      | need | send =>
        obtain ⟨heard', hlistens', hsilent', hleaves', -⟩ := hadvance
        exact ⟨.inl ⟨heard', .receiving hsilent' hleaves', hlistens'⟩, fun _ => .inr .late⟩
    · cases hgone
  connecting := by
    rintro progress ⟨⟨p, acts⟩, log⟩ h
    rcases h with ⟨heard, hhearing, hlistens⟩ | hgone
    · cases hhearing with
      | connecting hheard =>
      have hresume : (st.egress target close).acted.recorded.connector.resume progress
          ((p, []), [.asked address.text]) =
          ((st.connector.resume progress p.self).1,
            ({ p with self := (st.connector.resume progress p.self).2 }, []),
            [.asked address.text] ++ (st.connector.resume progress p.self).1.incidents) := rfl
      rw [hresume]
      generalize (st.connector.resume progress p.self).2 = self
      have hlistens' : Listens st queue closed told pending coming c heard { p with self } :=
        hlistens.congr rfl rfl rfl
      cases (st.connector.resume progress p.self).1 with
      | pending => exact .inl ⟨heard, .connecting hheard, hlistens'⟩
      | refused => exact .inr .refused
      | opened stream =>
        refine .inl ⟨heard, .copying ?_ List.not_mem_nil, hlistens'.congr rfl rfl rfl⟩
        show heard = Target.header address.text ++ [] ++ []
        rw [hheard, List.append_nil, List.append_nil]
    · cases hgone
  relaying := by
    rintro stream relay ⟨⟨p, acts⟩, log⟩ h
    rw [Site.relayTo_recorded, Relay.step_announced,
      show (st.egress target close).acted.relayTo stream =
        (st.ends (target stream) (close stream)).recorded from rfl]
    have hlog : ∃ start, log = [.asked address.text, .opened stream, .relays stream start] := by
      rcases h with ⟨heard, hhearing, -⟩ | hgone
      · cases hhearing
        exact ⟨_, rfl⟩
      · cases hgone
        exact ⟨_, rfl⟩
    have hholds : relay.Holds
        (fun _ => Copies st queue closed told pending coming c (Target.header address.text))
        (fun x => Forwards ceased whole data x.2) (fun x => Forwards ceased whole data x.2)
        (p, acts) := by
      rcases h with ⟨heard, hhearing, hlistens⟩ | hgone
      · cases hhearing with
        | copying hheard hgoing => exact ⟨hheard ▸ hlistens, hgoing⟩
      · cases hgone with
        | closing hforwards => exact hforwards
    obtain ⟨start, rfl⟩ := hlog
    have hstep := (guided hlink haccount (target stream) (close stream)).step hholds
    generalize relay.step (st.ends (target stream) (close stream)).recorded (p, acts) = r at hstep
    obtain ⟨relay', p', acts'⟩ := r
    cases relay' with
    | copying up down => exact .inl ⟨_, .copying rfl hstep.going, hstep.listens⟩
    | closing result => exact .inr (.closing hstep)
    | finished result =>
      cases result with
      | ok | error => exact .inr (.relayed hstep)

/-- What was asked for stays written down. -/
theorem kept_asked {δ σ : Type} (site : Site δ σ) (target : String) :
    Kept site.recorded fun _ x => .asked target ∈ x.2 where
  receiving := by
    rintro deadline talk ⟨x, log⟩ h
    rw [show site.recorded.tunnel = site.tunnel.beside _ from rfl, Talk.advance_beside]
    generalize talk.advance site.tunnel x = r
    obtain ⟨talk', x'⟩ := r
    cases talk' with
    | done name => exact List.mem_append_left _ h
    | fail e => exact h
    | need | send => exact ⟨h, fun _ => h⟩
  connecting := by
    rintro progress ⟨x, log⟩ h
    rw [Site.connector_recorded, Opener.resume_recorded]
    generalize site.connector.resume progress x = r
    obtain ⟨answer, x'⟩ := r
    have hmore := List.mem_append_left answer.incidents h
    cases answer with
    | pending | refused => exact hmore
    | opened stream => exact List.mem_append_left _ hmore
  relaying := by
    rintro stream relay ⟨x, log⟩ h
    rw [Site.relayTo_recorded, Relay.step_announced]
    generalize relay.step (site.relayTo stream) x = r
    obtain ⟨relay', x'⟩ := r
    cases relay' with
    | copying | closing => exact h
    | finished result => cases result <;> exact h

/-- **A header that was told makes the far end ask for its target** when it goes on, if the link
does not keep it waiting. -/
theorem receive_asks (hlink : near.Joins st.link drop queue closed returning)
    (haccount : Account ceased whole named (Target.header address.text) data told pending c)
    (hask : address.Askable) (hprompt : st.Prompt queue)
    (hheader : Target.header address.text <+: told) (target : Nat → Duplex IoError α)
    (close : Nat → α → α) (deadline : Nat) {talk : Talk TunnelError TunnelError String}
    (hsilent : talk.Silent) (hleaves : Target.receive.Leaves heard talk) {p : Post α τ}
    (hlistens : Listens st queue closed told pending coming c heard p) (acts : List Act)
    (log : Post.Log ConnectError α τ) :
    let r := (Egress.receiving deadline talk).serve (st.egress target close).acted.recorded
      ((p, acts), log)
    .asked address.text ∈ r.2.2 := by
  have hadvance := advance_receive hlink haccount hask hsilent hleaves hlistens
  unfold serve receive
  dsimp only
  rw [advance_tunnel]
  generalize talk.advance st.tunnel p = r at hadvance
  obtain ⟨talk', p'⟩ := r
  cases talk' with
  | done name =>
    obtain ⟨rfl, -⟩ := hadvance
    exact (kept_asked _ _).connectOn (List.mem_append_right _ (List.mem_singleton_self _))
  | fail e => exact absurd hheader hadvance.2
  | need | send =>
    obtain ⟨-, -, -, -, hnot⟩ := hadvance
    exact absurd hheader (hnot hprompt)

end Egress

end SealedTunnel
