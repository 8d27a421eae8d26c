import SealedTunnel.Proofs.Address
import SealedTunnel.Proofs.Path.Telling
import SealedTunnel.Proofs.Relay.Guide

/-!
# What the near end tells

A client asks for an address and sends some data behind its request, of which it does not matter
how much has come when. What the near end tells over its connection is first the header of the
address, and behind it the data of the client. Nothing else is told, nothing twice, and nothing is
left out but behind a point at which the near end has stopped; if it has stopped because the client
has ended, nothing is left out at all.

## Main definitions

* `Station.Hears`: the bytes of a client are ahead of the near end
* `Ingress.Telling`: how serving the client may stand, by what was told

## Main results

* `Ingress.kept_telling`: serving keeps to it
-/

namespace SealedTunnel

open Relay

variable {ε δ α τ : Type}

/-- The bytes of the client are ahead, and only reading takes of them. -/
structure Station.Hears (st : Station ε α τ) (client : Duplex IoError α) (ahead : α → Bytes) :
    Prop where
  gives : client.Gives ahead
  write : ∀ bs a, ahead (client.write bs a).2 = ahead a
  start : ∀ target a, ahead (st.connector.start target a).2 = ahead a
  resume : ∀ progress a, ahead (st.connector.resume progress a).2 = ahead a

namespace Ingress

/-- Nothing more is told in this stage, and no stream is opened. -/
def Stopped : Outcome δ → Prop
  | .inl (.refusing ..) | .inl (.retreating ..) | .inl (.relaying _ (.closing _)) | .inr _ => True
  | .inl (.greeting ..) | .inl (.opening ..) | .inl (.accepting ..) | .inl (.relaying ..) => False

/-- What was told when the telling has stopped, by the acts of the relay and the incidents. -/
structure Rests (header data : Bytes) (acts : List Act)
    (log : Post.Log TunnelError α τ) (told pending : Bytes) : Prop where
  within : told ++ pending <+: header ++ data
  ended : Act.sourceEnded .up ∈ acts → told = header ++ data
  opened : ∀ n, .opened n ∈ log → header <+: told

/-- How serving a client may stand that asks for an address and sends data, by what was told. -/
inductive Telling (s : Settings) (closed : τ → Bool) (ahead : α → Bytes) (address : Address)
    (data : Bytes) : Outcome (Dialing ε) → Post α τ → List Act →
      Post.Log TunnelError α τ → (told pending coming : Bytes) → Prop
  | greeting {deadline talk session p} (hopen : closed p.conn.stream = false)
      (htalk : talk.on (ahead p.self) = (.ok (address, session), data)) :
      Telling s closed ahead address data (.inl (.greeting deadline talk)) p [] [] [] [] []
  | connecting {session progress p} (hopen : closed p.conn.stream = false)
      (hahead : ahead p.self = data) :
      Telling s closed ahead address data
        (.inl (.opening session address.text (.connecting address.text progress))) p []
        [.asked address.text] [] [] []
  | naming {session conn rest p told pending coming}
      (h : Says s closed (Target.header address.text ++ data) [] data rest p told pending coming)
      (hahead : ahead p.self = data) :
      Telling s closed ahead address data
        (.inl (.opening session address.text
          (.naming conn (.send rest Tunnel.writeStop (.done ()))))) p []
        [.asked address.text] told pending coming
  | accepting {stream talk done p log told pending coming}
      (h : Says s closed (Target.header address.text ++ data) (Target.header address.text) data [] p
        told pending coming)
      (htalk : talk.on (ahead p.self) = (.ok done, data)) :
      Telling s closed ahead address data (.inl (.accepting stream talk)) p [] log told pending
        coming
  | copying {stream up down p acts log told pending coming}
      (h : Says s closed (Target.header address.text ++ data) (Target.header address.text)
        (ahead p.self) up.unsent p told pending coming)
      (hgoing : Act.sourceEnded .up ∉ acts) :
      Telling s closed ahead address data (.inl (.relaying stream (.copying up down))) p acts log
        told pending coming
  | stopped {o p acts log told pending coming} (ho : Stopped o)
      (h : Rests (Target.header address.text) data acts log told pending) :
      Telling s closed ahead address data o p acts log told pending coming

theorem opened_not_mem_asked (n : Nat) (target : String) :
    (.opened n : Incident TunnelError (Post α τ × List Act)) ∉ [.asked target] := by
  intro hmem
  cases List.mem_singleton.1 hmem

namespace Telling

variable {s : Settings} {closed : τ → Bool} {ahead : α → Bytes} {address : Address} {data : Bytes}
  {o : Outcome (Dialing ε)} {p p' : Post α τ} {acts : List Act}
  {log : Post.Log TunnelError α τ} {told pending coming : Bytes}

/-- Wherever it stands, what was told is what might stop here. -/
theorem rests (h : Telling s closed ahead address data o p acts log told pending coming) :
    Rests (Target.header address.text) data acts log told pending := by
  cases h with
  | greeting => exact ⟨List.nil_prefix, nofun, nofun⟩
  | connecting =>
    exact ⟨List.nil_prefix, nofun, fun n hmem => absurd hmem (opened_not_mem_asked n _)⟩
  | naming hsaid =>
    exact ⟨hsaid.within, nofun, fun n hmem => absurd hmem (opened_not_mem_asked n _)⟩
  | accepting hsaid => exact ⟨hsaid.within, nofun, fun _ _ => hsaid.base_prefix⟩
  | copying hsaid hgoing =>
    exact ⟨hsaid.within, fun hended => absurd hended hgoing, fun _ _ => hsaid.base_prefix⟩
  | stopped _ h => exact h

/-- Only when it has stopped is the link closed. -/
theorem stopped_of_closed
    (h : Telling s closed ahead address data o p acts log told pending coming)
    (hclosed : closed p.conn.stream = true) : Stopped o := by
  have hfalse (hopen : closed p.conn.stream = false) : False := by
    rw [hopen] at hclosed
    cases hclosed
  cases h with
  | greeting hopen | connecting hopen => exact (hfalse hopen).elim
  | naming hsaid | accepting hsaid | copying hsaid => exact (hfalse hsaid.isOpen).elim
  | stopped ho => exact ho

/-- It depends on nothing else than the connection, as far as writing goes, and the bytes that are
ahead. -/
theorem congr (h : Telling s closed ahead address data o p acts log told pending coming)
    (hreader : p'.conn.reader = p.conn.reader) (hline : p'.conn.writeLine = p.conn.writeLine)
    (hpause : p'.pause = p.pause) (hclosed : closed p'.conn.stream = closed p.conn.stream)
    (hahead : ahead p'.self = ahead p.self) :
    Telling s closed ahead address data o p' acts log told pending coming := by
  cases h with
  | greeting hopen htalk => exact .greeting (hclosed.trans hopen) (hahead ▸ htalk)
  | connecting hopen hdata => exact .connecting (hclosed.trans hopen) (hahead.trans hdata)
  | naming hsaid hdata =>
    exact .naming (hsaid.congr hreader hline hpause hclosed) (hahead.trans hdata)
  | accepting hsaid htalk =>
    exact .accepting (hsaid.congr hreader hline hpause hclosed) (hahead ▸ htalk)
  | copying hsaid hgoing =>
    rw [← hahead] at hsaid
    exact .copying (hsaid.congr hreader hline hpause hclosed) hgoing
  | stopped ho h => exact .stopped ho h

end Telling

variable {st : Station ε α τ} {far : Carrier τ} {returning : τ → Bytes} {ear : Listener τ}
  {client : Duplex IoError α} {close : α → α} {ahead : α → Bytes} {address : Address}
  {header data : Bytes}

/-! ## The client -/

/-- A conversation with the client comes to its outcome, or fails, and nothing else is touched. -/
theorem advance_client (hclient : st.Hears client ahead) {ε' α' : Type}
    (talk : Talk IoError ε' α') (p : Post α τ) (acts : List Act) (log : Post.Log TunnelError α τ)
    (address : String) (close : α → α) :
    ∃ talk' self, talk.advance (st.ingress address client close).acted.recorded.client
        ((p, acts), log) = (talk', ({ p with self }, acts), log) ∧
      match talk' with
      | .fail _ => True
      | talk' => talk.on (ahead p.self) = talk'.on (ahead self) := by
  have hgives : (Post.stream (τ := τ) client).Gives fun p => ahead p.self := by
    have hwithin : (Post.stream (τ := τ) client).Within Post.self client :=
      ⟨fun _ _ => rfl, fun _ _ => rfl⟩
    exact hwithin.gives hclient.gives
  have hon := talk.on_advance_or_fail hgives (fun bs p => hclient.write bs p.self) p
  have hself := talk.advance_keeps_both (d := Post.stream (τ := τ) client)
    (P := fun p' => ∃ self, p' = { p with self })
    (by rintro n _ ⟨self, rfl⟩; exact ⟨_, rfl⟩) (by rintro bs _ ⟨self, rfl⟩; exact ⟨_, rfl⟩)
    ⟨p.self, rfl⟩
  have hadvance : talk.advance (st.ingress address client close).acted.recorded.client
      ((p, acts), log) = ((talk.advance (Post.stream client) p).1,
        ((talk.advance (Post.stream client) p).2, acts), log) := by
    show talk.advance (((Post.stream client).beside _).beside _) _ = _
    rw [Talk.advance_beside, Talk.advance_beside]
  rw [hadvance]
  generalize talk.advance (Post.stream client) p = x at hon hself
  obtain ⟨talk', p'⟩ := x
  obtain ⟨self, rfl⟩ := hself
  refine ⟨talk', self, rfl, ?_⟩
  rcases hon with ⟨e, rfl⟩ | hon
  · trivial
  · cases talk' with
    | fail => trivial
    | done | need | send => exact hon

/-! ## The relay -/

section Relay

variable {log : Post.Log TunnelError α τ}

/-- What holds while the relay copies, with what is still to be written into the tunnel. -/
def Copies (st : Station ε α τ) (ear : Listener τ) (ahead : α → Bytes) (header data up : Bytes)
    (x : Post α τ × List Act) : Prop :=
  ∃ told pending coming,
    Says st.settings ear.closed (header ++ data) header (ahead x.1.self) up x.1 told pending
        coming ∧
      ear.Flow x.1.conn.stream told pending coming ∧ Act.sourceEnded .up ∉ x.2

/-- What holds once it has stopped. -/
def Closes (ear : Listener τ) (header data : Bytes)
    (log : Post.Log TunnelError α τ) (x : Post α τ × List Act) : Prop :=
  ∃ told pending coming, Rests header data x.2 log told pending ∧
    ear.Flow x.1.conn.stream told pending coming

theorem Rests.concat {acts : List Act} {told pending : Bytes}
    (h : Rests header data acts log told pending) (act : Act)
    (hact : act ≠ Act.sourceEnded .up) : Rests header data (acts ++ [act]) log told pending :=
  ⟨h.within, fun hended => h.ended (sourceEnded_of_concat hact hended), h.opened⟩

theorem not_mem_concat {acts : List Act} (h : Act.sourceEnded .up ∉ acts) (act : Act)
    (hact : act ≠ Act.sourceEnded .up) : Act.sourceEnded .up ∉ acts ++ [act] :=
  mt (sourceEnded_of_concat hact) h

/-- Where it copies no more, it has told a part of all. -/
theorem closes_of (log : Post.Log TunnelError α τ) (p p' : Post α τ)
    {told pending coming : Bytes} {acts : List Act} (hbase : header <+: told)
    (hwithin : told ++ pending <+: header ++ data)
    (hflow : ear.Flow p.conn.stream told pending coming)
    (hstream : p'.conn.stream = p.conn.stream) (hgoing : Act.sourceEnded .up ∉ acts) :
    Closes ear header data log (p', acts) :=
  ⟨told, pending, coming, ⟨hwithin, fun hended => absurd hended hgoing, fun _ _ => hbase⟩,
    hstream ▸ hflow⟩

theorem guided_up (hst : st.Reaches far returning ear) (hclient : st.Hears client ahead) :
    let e := (st.ends client close).recorded
    Lane.Guided e.near e.tunnel e.countUp (Copies st ear ahead header data)
      fun x => Closes ear header data log (e.abandon x) where
  read := by
    rintro ⟨p, acts⟩ ⟨told, pending, coming, hsaid, hflow, hgoing⟩
    have hread : (st.ends client close).recorded.near.read Lane.chunkLimit (p, acts) =
        ((client.read Lane.chunkLimit p.self).1.map .io id,
          { p with self := (client.read Lane.chunkLimit p.self).2 },
          acts ++ [.read .up ((client.read Lane.chunkLimit p.self).1.map .io id)]) := rfl
    rw [hread]
    cases hx : client.read Lane.chunkLimit p.self with
    | mk outcome self =>
    have hpos : 0 < Lane.chunkLimit := by decide
    cases outcome with
    | waiting =>
      refine ⟨told, pending, coming, ?_, hflow, not_mem_concat hgoing _ nofun⟩
      have hahead := hclient.gives.waiting hpos hx
      rw [← hahead] at hsaid
      exact ⟨hsaid.isOpen, hsaid.began, hsaid.writing⟩
    | failed e => exact absurd hx (hclient.gives.unfailing hpos)
    | ready bs =>
      obtain ⟨-, hahead, hend⟩ := hclient.gives.ready hpos hx
      cases bs with
      | nil =>
        obtain ⟨said, hbase, hall, hwriter⟩ := hsaid.writing
        obtain ⟨-, -, rfl, rfl, rfl⟩ := hwriter.of_nil
        rw [hahead, hend rfl, List.append_nil, List.append_nil, List.append_nil] at hall
        refine ⟨told, [], [], ⟨?_, fun _ => hall, fun _ _ => hbase⟩, hflow⟩
        have htold : told ++ [] = header ++ data := (List.append_nil told).trans hall
        exact htold ▸ List.prefix_rfl
      | cons b bs =>
        refine ⟨told, pending, coming, ?_, hflow, not_mem_concat hgoing _ nofun⟩
        rw [hahead] at hsaid
        have hnext := hsaid.next
        exact ⟨hnext.isOpen, hnext.began, hnext.writing⟩
  write := by
    rintro rest ⟨p, acts⟩ hne ⟨told, pending, coming, hsaid, hflow, hgoing⟩
    obtain ⟨told', pending', coming', hwrote, hflow'⟩ := hsaid.write hst hflow hne
    have hself := Says.self_write st rest p
    have hwrite : (st.ends client close).recorded.tunnel.write rest (p, acts) =
        ((st.write rest p).1, (st.write rest p).2, acts ++ [.wrote .up rest (st.write rest p).1]) :=
      rfl
    rw [hwrite]
    generalize st.write rest p = w at hwrote hflow' hself
    obtain ⟨outcome, p'⟩ := w
    dsimp only at hself
    rw [← hself] at hwrote
    have hgoing' (outcome : Poll TunnelError Nat) :=
      not_mem_concat hgoing (.wrote .up rest outcome) nofun
    cases outcome with
    | waiting => exact ⟨told', pending', coming', hwrote, hflow', hgoing' _⟩
    | failed e =>
      exact closes_of log p' _ hwrote.1 hwrote.2 hflow' rfl
        (not_mem_concat (hgoing' _) .abandoned nofun)
    | ready n =>
      cases n with
      | zero => exact absurd hwrote.1 (Nat.lt_irrefl 0)
      | succ n => exact ⟨told', pending', coming', hwrote.2, hflow', hgoing' _⟩
  count := by
    rintro ⟨p, acts⟩ n ⟨told, pending, coming, hsaid, hflow, hgoing⟩
    exact ⟨told, pending, coming, ⟨hsaid.isOpen, hsaid.began, hsaid.writing⟩, hflow,
      not_mem_concat hgoing _ nofun⟩

theorem guided_down (hst : st.Reaches far returning ear) (hclient : st.Hears client ahead)
    (up : Bytes) :
    let e := (st.ends client close).recorded
    Lane.Guided e.tunnel e.near e.countDown (fun _ => Copies st ear ahead header data up)
      fun x => Closes ear header data log (e.abandon x) where
  read := by
    rintro ⟨p, acts⟩ ⟨told, pending, coming, hsaid, hflow, hgoing⟩
    obtain ⟨hself, hsaid', hflow'⟩ := hsaid.read hst hflow (n := Lane.chunkLimit) (by decide)
    have hread : (st.ends client close).recorded.tunnel.read Lane.chunkLimit (p, acts) =
        ((st.read Lane.chunkLimit p).1, (st.read Lane.chunkLimit p).2,
          acts ++ [.read .down (st.read Lane.chunkLimit p).1]) := rfl
    rw [hread]
    generalize st.read Lane.chunkLimit p = x at hself hsaid' hflow'
    obtain ⟨outcome, p'⟩ := x
    dsimp only at hself
    rw [← hself] at hsaid'
    have hgoing' (outcome : Poll TunnelError Bytes) :=
      not_mem_concat hgoing (.read .down outcome) nofun
    -- If this ends the relay, the other lane is cut off wherever its writing stands.
    have hstopped := closes_of log p' ((st.ends client close).abandon p')
      hsaid'.base_prefix hsaid'.within hflow' rfl
      (not_mem_concat (hgoing' outcome) .abandoned nofun)
    cases outcome with
    | waiting => exact ⟨told, pending, coming, hsaid', hflow', hgoing' _⟩
    | failed e => exact hstopped
    | ready bs =>
      cases bs with
      | nil => exact hstopped
      | cons b bs => exact ⟨told, pending, coming, hsaid', hflow', hgoing' _⟩
  write := by
    rintro rest ⟨p, acts⟩ hne ⟨told, pending, coming, hsaid, hflow, hgoing⟩
    have hwrite : (st.ends client close).recorded.near.write rest (p, acts) =
        ((client.write rest p.self).1.map .io id,
          { p with self := (client.write rest p.self).2 },
          acts ++ [.wrote .down rest ((client.write rest p.self).1.map .io id)]) := rfl
    have hahead := hclient.write rest p.self
    rw [hwrite]
    generalize client.write rest p.self = x at hahead
    obtain ⟨outcome, self⟩ := x
    have hsaid' : Says st.settings ear.closed (header ++ data) header (ahead self) up
        { p with self } told pending coming := by
      rw [← hahead] at hsaid
      exact ⟨hsaid.isOpen, hsaid.began, hsaid.writing⟩
    have hgoing' (outcome : Poll TunnelError Nat) :=
      not_mem_concat hgoing (.wrote .down rest outcome) nofun
    have hstopped (outcome : Poll TunnelError Nat) := closes_of log p
      ((st.ends client close).abandon { p with self }) hsaid.base_prefix hsaid.within hflow rfl
      (not_mem_concat (hgoing' outcome) .abandoned nofun)
    cases outcome with
    | waiting => exact ⟨told, pending, coming, hsaid', hflow, hgoing' _⟩
    | failed e => exact hstopped _
    | ready n =>
      cases n with
      | zero => exact hstopped _
      | succ n => exact ⟨told, pending, coming, hsaid', hflow, hgoing' _⟩
  count := by
    rintro ⟨p, acts⟩ n ⟨told, pending, coming, hsaid, hflow, hgoing⟩
    exact ⟨told, pending, coming, ⟨hsaid.isOpen, hsaid.began, hsaid.writing⟩, hflow,
      not_mem_concat hgoing _ nofun⟩

/-- Closing tells nothing more. -/
theorem closes_closeTunnel (client : Duplex IoError α) (close : α → α)
    (hst : st.Reaches far returning ear) {x : Post α τ × List Act}
    (h : Closes ear header data log x) :
    Closes ear header data log ((st.ends client close).recorded.closeTunnel x).2 := by
  obtain ⟨p, acts⟩ := x
  obtain ⟨told, pending, coming, hrests, hflow⟩ := h
  have hacts (outcome : Poll TunnelError Unit) := hrests.concat (.closedTunnel outcome) nofun
  rcases Channel.stream_close st.link 0 p.conn with hsame | hshut
  · exact ⟨told, pending, coming, hacts _, hflow.link (congrArg ear.queue hsame)
      (congrArg ear.closed hsame)⟩
  · obtain ⟨hqueue, hcases⟩ := hst.link.finish p.conn.stream
    replace hqueue := (congrArg ear.queue hshut).trans hqueue
    rcases hcases with ⟨-, hclosed⟩ | ⟨-, hclosed⟩
    · exact ⟨told, pending, [], hacts _,
        hflow.shut hqueue ((congrArg ear.closed hshut).trans hclosed)⟩
    · exact ⟨told, pending, coming, hacts _,
        hflow.link hqueue ((congrArg ear.closed hshut).trans hclosed)⟩

theorem guided (close : α → α) (hst : st.Reaches far returning ear)
    (hclient : st.Hears client ahead) :
    Relay.Guided (st.ends client close).recorded (fun up _ => Copies st ear ahead header data up)
      (Closes ear header data log) (Closes ear header data log) where
  up _ := guided_up hst hclient
  down := guided_down hst hclient
  close := by
    intro x hx
    have hx' := closes_closeTunnel client close hst hx
    generalize (st.ends client close).recorded.closeTunnel x = c at hx'
    obtain ⟨outcome, p, acts⟩ := c
    obtain ⟨told, pending, coming, hrests, hflow⟩ := hx'
    have hover : Closes ear header data log
        ((st.ends client close).recorded.ended
          ((st.ends client close).recorded.closeNear (p, acts))) :=
      ⟨told, pending, coming, (hrests.concat .closedNear nofun).concat .ended nofun, hflow⟩
    cases outcome with
    | waiting => exact ⟨told, pending, coming, hrests, hflow⟩
    | ready | failed => exact hover

end Relay

/-! ## Dialing -/

/-- What holds while the target is being named, with what is left of its header. -/
def Names (st : Station ε α τ) (ear : Listener τ) (ahead : α → Bytes) (header data rest : Bytes)
    (p : Post α τ) : Prop :=
  ahead p.self = data ∧ ∃ told pending coming,
    Says st.settings ear.closed (header ++ data) [] data rest p told pending coming ∧
      ear.Flow p.conn.stream told pending coming

theorem guided_naming (hst : st.Reaches far returning ear) :
    st.tunnel.Guided (Names st ear ahead header data) fun p =>
      ∃ told pending coming, told ++ pending <+: header ++ data ∧
        ear.Flow p.conn.stream told pending coming := by
  rintro rest p hne ⟨hahead, told, pending, coming, hsaid, hflow⟩
  obtain ⟨told', pending', coming', hwrote, hflow'⟩ := hsaid.write hst hflow hne
  have hself := Says.self_write st rest p
  rw [show st.tunnel.write rest p = st.write rest p from rfl]
  generalize st.write rest p = w at hwrote hflow' hself
  obtain ⟨outcome, p'⟩ := w
  dsimp only at hself
  rw [← hself] at hahead
  cases outcome with
  | waiting => exact ⟨hahead, told', pending', coming', hwrote, hflow'⟩
  | failed e => exact ⟨told', pending', coming', hwrote.2, hflow'⟩
  | ready n =>
    cases n with
    | zero => exact absurd hwrote.1 (Nat.lt_irrefl 0)
    | succ n => exact ⟨hahead, told', pending', coming', hwrote.2, hflow'⟩

/-- How naming the target comes out. -/
theorem name_naming (hst : st.Reaches far returning ear) {rest : Bytes} {p : Post α τ}
    (address : String) (conn : Nat) (h : Names st ear ahead header data rest p) :
    match Dialing.name (st.dialer address) conn (.send rest Tunnel.writeStop (.done ())) p with
    | (.pending progress, p') => ∃ rest', progress =
        .naming conn (.send rest' Tunnel.writeStop (.done ())) ∧
          Names st ear ahead header data rest' p'
    | (.opened _, p') => ahead p'.self = data ∧ ∃ told pending coming,
        Says st.settings ear.closed (header ++ data) header data [] p' told pending coming ∧
          ear.Flow p'.conn.stream told pending coming
    | (.refused _, p') => ∃ told pending coming, told ++ pending <+: header ++ data ∧
        ear.Flow p'.conn.stream told pending coming := by
  have hd := (guided_naming hst).deliver rest h
  unfold Dialing.name
  rw [show (st.dialer address).tunnel conn = st.tunnel from rfl, Talk.advance]
  generalize st.tunnel.deliver rest p = x at hd
  obtain ⟨transfer, p'⟩ := x
  cases transfer with
  | complete =>
    obtain ⟨hahead, told, pending, coming, hsaid, hflow⟩ := hd
    obtain ⟨said, -, hall, hwriter⟩ := hsaid.writing
    rw [List.append_nil] at hall
    obtain rfl := List.append_cancel_right hall
    exact ⟨hahead, told, pending, coming, ⟨hsaid.isOpen, hsaid.began, said, List.prefix_rfl,
      by rw [List.append_nil], hwriter⟩, hflow⟩
  | partway rest' => exact ⟨rest', rfl, hd.2⟩
  | stopped why =>
    obtain ⟨told, pending, coming, hwithin, hflow⟩ := hd
    exact ⟨told, pending, [], hwithin,
      hflow.shut (hst.link.queue_drop _) (hst.link.closed_drop _)⟩

/-! ## Serving -/

/-- How serving a client may stand, by what was told to a far end that listens. -/
def Tells (st : Station ε α τ) (ear : Listener τ) (ahead : α → Bytes) (address : Address)
    (data : Bytes) (o : Outcome (Dialing ε))
    (x : (Post α τ × List Act) × Post.Log TunnelError α τ) : Prop :=
  ∃ told pending coming,
    Telling st.settings ear.closed ahead address data o x.1.1 x.1.2 x.2 told pending coming ∧
      ear.Flow x.1.1.conn.stream told pending coming

/-- Wherever serving stops, a part of all is told. -/
theorem Tells.stop {o : Outcome (Dialing ε)} {p : Post α τ} {acts : List Act}
    {log : Post.Log TunnelError α τ}
    (h : Tells st ear ahead address data o ((p, acts), log)) (o' : Outcome (Dialing ε))
    (p' : Post α τ) (ho : Stopped o') (hstream : p'.conn.stream = p.conn.stream) :
    Tells st ear ahead address data o' ((p', acts), log) := by
  obtain ⟨told, pending, coming, h, hflow⟩ := h
  exact ⟨told, pending, coming, .stopped ho h.rests, hstream ▸ hflow⟩

section Recorded

variable (farAddress : String) (close : α → α)

theorem start_recorded (target : String) (p : Post α τ) (acts : List Act)
    (log : Post.Log TunnelError α τ) :
    (st.ingress farAddress client close).acted.recorded.opener.start target ((p, acts), log) =
      (.connecting target (st.connector.start farAddress p.self).1,
        ({ p with self := (st.connector.start farAddress p.self).2 }, acts),
        log ++ [.asked target]) := rfl

theorem resume_recorded (progress : Dialing ε) (p : Post α τ) (acts : List Act)
    (log : Post.Log TunnelError α τ) :
    (st.ingress farAddress client close).acted.recorded.opener.resume progress ((p, acts), log) =
      ((Dialing.resume (st.dialer farAddress) progress p).1,
        ((Dialing.resume (st.dialer farAddress) progress p).2, acts),
        log ++ (Dialing.resume (st.dialer farAddress) progress p).1.incidents) := rfl

theorem closeTunnel_recorded (stream : Nat) (p : Post α τ) (acts : List Act)
    (log : Post.Log TunnelError α τ) :
    ((st.ingress farAddress client close).acted.recorded.relayTo stream).closeTunnel
      ((p, acts), log) = (((st.ends client close).recorded.closeTunnel (p, acts)).1,
        ((st.ends client close).recorded.closeTunnel (p, acts)).2, log) := rfl

/-- How opening a stream comes out. -/
def Opens (st : Station ε α τ) (ear : Listener τ) (ahead : α → Bytes) (address : Address)
    (data : Bytes) (session : Socks.Session)
    (x : (Post α τ × List Act) × Post.Log TunnelError α τ) :
    Opening TunnelError (Dialing ε) → Prop
  | .pending progress => Tells st ear ahead address data
      (.inl (.opening session address.text progress)) x
  | .opened stream => Tells st ear ahead address data
      (.inl (.accepting stream (session.reply .succeeded))) x
  | .refused why => Tells st ear ahead address data
      (.inl (.refusing address.text why (session.reply .hostUnreachable))) x

theorem opens_name (hst : st.Reaches far returning ear) (session : Socks.Session) {rest : Bytes}
    {p : Post α τ} (conn : Nat) (h : Names st ear ahead (Target.header address.text) data rest p) :
    let named := Dialing.name (st.dialer farAddress) conn (.send rest Tunnel.writeStop (.done ())) p
    Opens st ear ahead address data session
      ((named.2, []), [.asked address.text] ++ named.1.incidents) named.1 := by
  have hname := name_naming hst farAddress conn h
  generalize Dialing.name (st.dialer farAddress) conn
    (.send rest Tunnel.writeStop (.done ())) p = named at hname
  obtain ⟨answer, p'⟩ := named
  cases answer with
  | pending progress =>
    obtain ⟨rest', rfl, hahead, told, pending, coming, hsaid, hflow⟩ := hname
    exact ⟨told, pending, coming, .naming hsaid hahead, hflow⟩
  | opened stream =>
    obtain ⟨hahead, told, pending, coming, hsaid, hflow⟩ := hname
    exact ⟨told, pending, coming, .accepting hsaid (congrArg (Prod.mk _) hahead), hflow⟩
  | refused why =>
    obtain ⟨told, pending, coming, hwithin, hflow⟩ := hname
    refine ⟨told, pending, coming, .stopped trivial ⟨hwithin, nofun, ?_⟩, hflow⟩
    rintro n hmem
    rcases List.mem_append.1 hmem with hmem | hmem <;> cases List.mem_singleton.1 hmem

theorem opens_opening
    {x : (Post α τ × List Act) × Post.Log TunnelError α τ}
    (hst : st.Reaches far returning ear) (hclient : st.Hears client ahead)
    (hask : address.Askable) {session : Socks.Session} {target : String} {progress : Dialing ε}
    (h : Tells st ear ahead address data (.inl (.opening session target progress)) x) :
    let answer := (st.ingress farAddress client close).acted.recorded.opener.resume progress x
    target = address.text ∧ Opens st ear ahead address data session answer.2 answer.1 := by
  obtain ⟨⟨p, acts⟩, log⟩ := x
  obtain ⟨told, pending, coming, h, hflow⟩ := h
  dsimp only
  rw [resume_recorded]
  cases h with
  | stopped ho => cases ho
  | @naming _ conn rest _ _ _ _ hsaid hahead =>
    exact ⟨rfl, opens_name farAddress hst session conn
      ⟨hahead, told, pending, coming, hsaid, hflow⟩⟩
  | @connecting _ progress _ hopen hahead =>
    refine ⟨rfl, ?_⟩
    have hself := hclient.resume progress p.self
    have hconnector : (st.dialer farAddress).connector.resume progress p =
        ((st.connector.resume progress p.self).1,
          { p with self := (st.connector.resume progress p.self).2 }) := rfl
    rw [Dialing.resume, hconnector]
    generalize st.connector.resume progress p.self = c at hself
    obtain ⟨answer, self⟩ := c
    dsimp only at hself
    rw [hahead] at hself
    cases answer with
    | pending progress' => exact ⟨[], [], [], .connecting hopen hself, hflow⟩
    | refused why =>
      refine ⟨[], [], [], .stopped trivial ⟨List.nil_prefix, nofun, ?_⟩, hflow⟩
      rintro n hmem
      rcases List.mem_append.1 hmem with hmem | hmem <;> cases List.mem_singleton.1 hmem
    | opened raw =>
      dsimp only
      rw [Address.send_text hask]
      refine opens_name farAddress hst session raw ⟨hself, [], [], [], ?_, hflow⟩
      exact ⟨hopen, ⟨[], Reader.began_nil rfl⟩, [], List.prefix_rfl, rfl, .idle⟩

end Recorded

/-- **Serving keeps to it**: it tells the header and the data of the client, and nothing else. -/
theorem kept_telling (hst : st.Reaches far returning ear) (hclient : st.Hears client ahead)
    (hask : address.Askable) (farAddress : String) (close : α → α) :
    Kept (st.ingress farAddress client close).acted.recorded (Tells st ear ahead address data) where
  greeting := by
    rintro deadline talk ⟨⟨p, acts⟩, log⟩ h
    obtain ⟨talk', self, hadvance, hon⟩ := advance_client hclient talk p acts log farAddress close
    rw [hadvance]
    have hstop (result : Except ProxyError Unit) :=
      h.stop (.inr result) { p with self } trivial rfl
    obtain ⟨told, pending, coming, h, hflow⟩ := h
    cases h with
    | stopped ho => cases ho
    | @greeting _ _ session _ hopen htalk =>
    cases talk' with
    | done asked =>
      obtain ⟨hasked, hahead⟩ := Prod.mk.inj (hon.symm.trans htalk)
      obtain rfl := Except.ok.inj hasked
      dsimp only
      rw [start_recorded]
      exact ⟨[], [], [], .connecting hopen ((hclient.start farAddress self).trans hahead), hflow⟩
    | fail e => exact hstop _
    | need | send =>
      exact ⟨⟨[], [], [], .greeting hopen (hon.symm.trans htalk), hflow⟩, fun _ => hstop _⟩
  opening := by
    intro session target progress x h
    obtain ⟨rfl, hopens⟩ := opens_opening farAddress close hst hclient hask h
    generalize (st.ingress farAddress client close).acted.recorded.opener.resume progress x = c
      at hopens
    obtain ⟨answer, x'⟩ := c
    cases answer with
    | pending | opened => exact hopens
    | refused why => exact Tells.stop hopens _ _ trivial rfl
  refusing := by
    rintro target why talk ⟨⟨p, acts⟩, log⟩ h
    obtain ⟨talk', self, hadvance, -⟩ := advance_client hclient talk p acts log farAddress close
    rw [hadvance]
    cases talk' with
    | done | fail | need | send => exact h.stop _ { p with self } trivial rfl
  accepting := by
    rintro stream talk ⟨⟨p, acts⟩, log⟩ h
    obtain ⟨talk', self, hadvance, hon⟩ := advance_client hclient talk p acts log farAddress close
    rw [hadvance]
    have hstop (why : ProxyError) :=
      h.stop (.inl (.retreating stream why)) { p with self } trivial rfl
    obtain ⟨told, pending, coming, h, hflow⟩ := h
    cases h with
    | stopped ho => cases ho
    | @accepting _ _ done _ _ _ _ _ hsaid htalk =>
    cases talk' with
    | done u =>
      obtain ⟨-, hahead⟩ := Prod.mk.inj (hon.symm.trans htalk)
      refine ⟨told, pending, coming, .copying ?_ List.not_mem_nil, hflow⟩
      show Says _ _ _ _ (ahead self) _ _ _ _ _
      rw [hahead]
      exact ⟨hsaid.isOpen, hsaid.began, hsaid.writing⟩
    | fail e => exact hstop _
    | need | send =>
      exact ⟨told, pending, coming, .accepting ⟨hsaid.isOpen, hsaid.began, hsaid.writing⟩
        (hon.symm.trans htalk), hflow⟩
  retreating := by
    rintro stream why ⟨⟨p, acts⟩, log⟩ ⟨told, pending, coming, h, hflow⟩
    cases h with
    | stopped _ hrests =>
    have hcloses := closes_closeTunnel client close hst (x := (p, acts))
      ⟨told, pending, coming, hrests, hflow⟩
    rw [closeTunnel_recorded]
    generalize (st.ends client close).recorded.closeTunnel (p, acts) = c at hcloses
    obtain ⟨outcome, p', acts'⟩ := c
    obtain ⟨told, pending, coming, hrests, hflow⟩ := hcloses
    cases outcome with
    | waiting | ready | failed => exact ⟨told, pending, coming, .stopped trivial hrests, hflow⟩
  relaying := by
    rintro stream relay ⟨⟨p, acts⟩, log⟩ ⟨told, pending, coming, h, hflow⟩
    rw [Site.relayTo_recorded, Relay.step_announced,
      show (st.ingress farAddress client close).acted.relayTo stream =
        (st.ends client close).recorded from rfl]
    have hholds : relay.Holds
        (fun up _ => Copies st ear ahead (Target.header address.text) data up)
        (Closes ear (Target.header address.text) data log)
        (Closes ear (Target.header address.text) data log)
        (p, acts) := by
      cases h with
      | copying hsaid hgoing => exact ⟨told, pending, coming, hsaid, hflow, hgoing⟩
      | stopped ho hrests =>
        cases relay with
        | copying | finished => cases ho
        | closing => exact ⟨told, pending, coming, hrests, hflow⟩
    have hstep := (guided close hst hclient).step hholds
    generalize relay.step (st.ends client close).recorded (p, acts) = c at hstep
    obtain ⟨relay', p', acts'⟩ := c
    cases relay' with
    | copying up down =>
      obtain ⟨told, pending, coming, hsaid, hflow, hgoing⟩ := hstep
      exact ⟨told, pending, coming, .copying hsaid hgoing, hflow⟩
    | closing result =>
      obtain ⟨told, pending, coming, hrests, hflow⟩ := hstep
      exact ⟨told, pending, coming, .stopped trivial hrests, hflow⟩
    | finished result =>
      obtain ⟨told, pending, coming, hrests, hflow⟩ := hstep
      cases result with
      | ok | error => exact ⟨told, pending, coming, .stopped trivial hrests, hflow⟩

/-! ## After the telling -/

/-- What is known of the acts and the incidents once the telling has stopped. -/
structure Rested {σ : Type} (whole named : Prop) (o : Outcome δ)
    (x : (σ × List Act) × List (Incident TunnelError (σ × List Act))) : Prop where
  stopped : Stopped o
  whole : Act.sourceEnded .up ∈ x.1.2 → whole
  named : (∃ n, .opened n ∈ x.2) → named

/-- An act of no lane is not the end of a source. -/
theorem whole_concat {whole : Prop} {acts : List Act} {act : Act} (hact : act.way? = none)
    (h : Act.sourceEnded .up ∈ acts → whole) : Act.sourceEnded .up ∈ acts ++ [act] → whole := by
  intro hended
  refine h (sourceEnded_of_concat ?_ hended)
  rintro rfl
  cases hact

/-- **Once the telling has stopped, it has stopped for good**, whatever the streams do. -/
theorem kept_rested {σ : Type} (site : Site δ σ) (whole named : Prop) :
    Kept site.acted.recorded (Rested whole named) where
  greeting h := h.stopped.elim
  opening h := h.stopped.elim
  accepting h := h.stopped.elim
  refusing := by
    rintro target why talk ⟨⟨x, acts⟩, log⟩ ⟨-, hwhole, hnamed⟩
    have hadvance : talk.advance site.acted.recorded.client ((x, acts), log) =
        ((talk.advance site.client x).1, ((talk.advance site.client x).2, acts), log) := by
      show talk.advance ((site.client.beside _).beside _) _ = _
      rw [Talk.advance_beside, Talk.advance_beside]
    rw [hadvance]
    cases (talk.advance site.client x).1 with
    | done | fail | need | send => exact ⟨trivial, hwhole, hnamed⟩
  retreating := by
    rintro stream why ⟨⟨x, acts⟩, log⟩ ⟨-, hwhole, hnamed⟩
    have hclose : (site.acted.recorded.relayTo stream).closeTunnel ((x, acts), log) =
        (((site.relayTo stream).closeTunnel x).1, (((site.relayTo stream).closeTunnel x).2,
          acts ++ [.closedTunnel ((site.relayTo stream).closeTunnel x).1]), log) := rfl
    rw [hclose]
    cases ((site.relayTo stream).closeTunnel x).1 with
    | waiting | ready | failed => exact ⟨trivial, whole_concat rfl hwhole, hnamed⟩
  relaying := by
    rintro stream relay ⟨⟨x, acts⟩, log⟩ ⟨hstopped, hwhole, hnamed⟩
    cases relay with
    | copying | finished => exact hstopped.elim
    | closing result =>
    obtain ⟨hrelay, hwhole'⟩ := Relay.step_closing (P := (Act.sourceEnded .up ∈ · → whole))
      whole_concat (site.relayTo stream) result x hwhole
    rw [Site.relayTo_recorded, Relay.step_announced,
      show site.acted.relayTo stream = (site.relayTo stream).recorded from rfl]
    generalize Relay.step (site.relayTo stream).recorded (.closing result) (x, acts) = r
      at hrelay hwhole'
    obtain ⟨relay', x', acts'⟩ := r
    rcases hrelay with rfl | rfl
    · exact ⟨trivial, hwhole', hnamed⟩
    · cases result with
      | ok | error => exact ⟨trivial, hwhole', hnamed⟩

end Ingress

end SealedTunnel
