import SealedTunnel.Proofs.Conn.Flow
import SealedTunnel.Proofs.Path.Station

/-!
# Telling bytes over a connection

A task that is alone on its connection writes one byte string after the other. What it has told is
what it has written, and at times a frame ahead of that: a write is not over before its frame is
out, and while it pauses.

## Main definitions

* `Writer`: where the writing of a byte string stands
* `Says`: what is still to be written of a byte string, and what was told of it

## Main results

* `Says.write`: a write tells what it has consumed
* `Says.read`: reading does not disturb the writing
-/

namespace SealedTunnel

variable {ε α τ : Type}

/-- Where a writer stands that is alone in the line: `said` was written before and `rest` is being
written; `told` are the bytes of the frames that are out, and of the frame on its way, which carries
`pending`, `coming` is not out yet. -/
inductive Writer (rest said : Bytes) :
    WriteLine → Option (Nat × Nat) → (told pending coming : Bytes) → Prop
  | idle : Writer rest said [] none said [] []
  | frame {chunk more coming loans} (hne : chunk ≠ []) (hrest : rest = chunk ++ more) :
      Writer rest said [⟨0, coming, chunk.length, loans⟩] none said chunk coming
  /-- The frame is out, but the write is not over. -/
  | paused {wakeAt chunk more} (hne : chunk ≠ []) (hrest : rest = chunk ++ more) :
      Writer rest said [] (some (wakeAt, chunk.length)) (said ++ chunk) [] []

namespace Writer

variable {rest said told pending coming : Bytes} {line : WriteLine} {pause : Option (Nat × Nat)}

theorem said_prefix (h : Writer rest said line pause told pending coming) : said <+: told := by
  cases h with
  | idle | frame => exact List.prefix_rfl
  | paused => exact List.prefix_append ..

theorem told_prefix (h : Writer rest said line pause told pending coming) :
    told ++ pending <+: said ++ rest := by
  cases h with
  | idle => exact (List.prefix_append_right_inj said).2 List.nil_prefix
  | frame _ hrest =>
    rw [hrest]
    exact (List.prefix_append_right_inj said).2 (List.prefix_append ..)
  | paused _ hrest =>
    rw [hrest, List.append_nil]
    exact (List.prefix_append_right_inj said).2 (List.prefix_append ..)

/-- With nothing to be written, all is told. -/
theorem of_nil (h : Writer [] said line pause told pending coming) :
    line = [] ∧ pause = none ∧ told = said ∧ pending = [] ∧ coming = [] := by
  cases h with
  | idle => exact ⟨rfl, rfl, rfl, rfl, rfl⟩
  | frame hne hrest | paused hne hrest =>
    exact absurd (List.append_eq_nil_iff.1 hrest.symm).1 hne

end Writer

/-- What is told at a station reaches a listener: the link joins them, and their settings agree. -/
structure Station.Reaches (st : Station ε α τ) (far : Carrier τ) (returning : τ → Bytes)
    (ear : Listener τ) : Prop where
  link : st.link.Joins far st.drop ear.queue ear.closed returning
  agree : Settings.Agree st.settings ear.settings
  check : st.settings.obfuscation.check = .ok ()

/-- Of the bytes `all`, at least `base` was written before, `rest` is being written and `more` comes
behind it. -/
structure Says (s : Settings) (closed : τ → Bool) (all base more rest : Bytes) (p : Post α τ)
    (told pending coming : Bytes) : Prop where
  isOpen : closed p.conn.stream = false
  began : ∃ begun, p.conn.reader.Began s begun
  writing : ∃ said, base <+: said ∧ said ++ rest ++ more = all ∧
    Writer rest said p.conn.writeLine p.pause told pending coming

namespace Says

variable {st : Station ε α τ} {far : Carrier τ} {returning : τ → Bytes} {ear : Listener τ}
  {s : Settings} {closed : τ → Bool} {all base more rest told pending coming : Bytes}
  {p p' : Post α τ}

theorem base_prefix (h : Says s closed all base more rest p told pending coming) :
    base <+: told :=
  let ⟨_, hbase, _, hwriter⟩ := h.writing
  hbase.trans hwriter.said_prefix

theorem within (h : Says s closed all base more rest p told pending coming) :
    told ++ pending <+: all :=
  let ⟨_, _, hall, hwriter⟩ := h.writing
  hwriter.told_prefix.trans (hall ▸ List.prefix_append ..)

/-- It depends on nothing else than the connection, and on that only as far as writing goes. -/
theorem congr (h : Says s closed all base more rest p told pending coming)
    (hreader : p'.conn.reader = p.conn.reader) (hline : p'.conn.writeLine = p.conn.writeLine)
    (hpause : p'.pause = p.pause) (hclosed : closed p'.conn.stream = closed p.conn.stream) :
    Says s closed all base more rest p' told pending coming := by
  refine ⟨hclosed.trans h.isOpen, ?_, ?_⟩
  · rw [hreader]
    exact h.began
  · rw [hline, hpause]
    exact h.writing

/-- The writing goes on with the bytes that come next. -/
theorem next (h : Says s closed all base (rest ++ more) [] p told pending coming) :
    Says s closed all base more rest p told pending coming := by
  obtain ⟨said, hbase, hall, hwriter⟩ := h.writing
  obtain ⟨hline, hpause, rfl, rfl, rfl⟩ := hwriter.of_nil
  refine ⟨h.isOpen, h.began, told, hbase, ?_, ?_⟩
  · rw [← hall, List.append_nil, List.append_assoc]
  · rw [hline, hpause]
    exact .idle

/-- How a write comes out, of which `rest` is what is to be written. -/
def Wrote (s : Settings) (closed : τ → Bool) (all base more rest : Bytes) (p : Post α τ)
    (told pending coming : Bytes) : Poll TunnelError Nat → Prop
  | .waiting => Says s closed all base more rest p told pending coming
  | .failed _ => base <+: told ∧ told ++ pending <+: all
  | .ready n => 0 < n ∧ Says s closed all base more (rest.drop n) p told pending coming

/-- A frame in the line goes into the link. -/
theorem proceed (hst : st.Reaches far returning ear)
    (hpause : p.pause = none) {said chunk after : Bytes} {loans : List Buffer} (ch : Channel τ)
    (hbase : base <+: said) (hall : said ++ (chunk ++ after) ++ more = all) (hne : chunk ≠ [])
    (hbegan : ∃ begun, ch.reader.Began st.settings begun)
    (hline : ch.writeLine = [⟨0, coming, chunk.length, loans⟩])
    (hopen : ear.closed ch.stream = false)
    (hflow : ear.Flow ch.stream said chunk coming) :
    let w := st.wrote p (ch.proceed st.settings st.link 0)
    ∃ told pending coming,
      Wrote st.settings ear.closed all base more (chunk ++ after) w.2 told pending coming w.1 ∧
        ear.Flow w.2.conn.stream told pending coming := by
  have hsplit : said ++ chunk ++ after ++ more = all := by
    rw [← hall, List.append_assoc said]
  obtain ⟨stream, hopen', ⟨pool, entropy, pause, hr, hflow'⟩ | ⟨pool, hr, hflow'⟩ |
    ⟨rest, hr, hflow'⟩⟩ := hflow.proceed hst.link st.settings hline hopen
  · rw [hr]
    cases pause with
    | none =>
      refine ⟨said ++ chunk, [], [], ⟨List.length_pos_iff.2 hne, hopen', hbegan, said ++ chunk,
        hbase.trans (List.prefix_append ..), ?_, ?_⟩, hflow'⟩
      · rw [List.drop_left]
        exact hsplit
      · show Writer _ _ [] p.pause _ _ _
        rw [hpause]
        exact .idle
    | some delay =>
      exact ⟨said ++ chunk, [], [], ⟨hopen', hbegan, said, hbase, hall, .paused hne rfl⟩, hflow'⟩
  · rw [hr]
    refine ⟨said ++ chunk, [], [], ⟨hbase.trans (List.prefix_append ..), ?_⟩, hflow'⟩
    rw [List.append_nil, ← hsplit, List.append_assoc]
    exact List.prefix_append ..
  · rw [hr]
    refine ⟨said, chunk, rest, ⟨hopen', hbegan, said, hbase, hall, ?_⟩, hflow'⟩
    show Writer _ _ _ p.pause _ _ _
    rw [hpause]
    exact .frame hne rfl

/-- **A write tells what it has consumed**, and fails only with a part of the bytes told. -/
theorem write (hst : st.Reaches far returning ear)
    (h : Says st.settings ear.closed all base more rest p told pending coming)
    (hflow : ear.Flow p.conn.stream told pending coming)
    (hrest : rest ≠ []) :
    let w := st.write rest p
    ∃ told' pending' coming',
      Wrote st.settings ear.closed all base more rest w.2 told' pending' coming' w.1 ∧
        ear.Flow w.2.conn.stream told' pending' coming' := by
  obtain ⟨conn, pause, stats, log, self⟩ := p
  obtain ⟨hopen, hbegan, said, hbase, hall, hwriter⟩ := h
  dsimp only at hopen hbegan hwriter hflow
  generalize hline : conn.writeLine = writers at hwriter
  cases hwriter with
  | idle =>
    have hout : ¬conn.writeLine.has 0 = true := by
      rw [hline]
      exact Bool.false_ne_true
    dsimp only [Station.write]
    rw [Channel.write, if_neg hout, if_neg (mt List.isEmpty_iff.1 hrest)]
    rcases hflow.make hst.agree hst.check hrest hopen with
      ⟨e, pool, hmake⟩ | ⟨payload, loans, pool, entropy, hmake, hflow'⟩
    · rw [hmake]
      refine ⟨told, [], [], ⟨hbase, ?_⟩, hflow⟩
      rw [List.append_nil, ← hall, List.append_assoc]
      exact List.prefix_append ..
    · rw [hmake]
      have hsplit : st.settings.chunkOf rest ++ rest.drop st.settings.chunkLimit = rest :=
        List.take_append_drop ..
      have hjoined : (Channel.join 0 ⟨Wire.frame payload, (st.settings.chunkOf rest).length, loans⟩
          { conn with pool, entropy }).writeLine =
            [⟨0, Wire.frame payload, (st.settings.chunkOf rest).length, loans⟩] := by
        rw [Channel.join, hline]
        rfl
      rw [← hsplit] at hall
      have hproceed := proceed (p := ⟨conn, none, stats, log, self⟩) hst rfl
        (Channel.join 0 _ { conn with pool, entropy })
        hbase hall (st.settings.chunkOf_ne_nil hrest) hbegan hjoined hopen hflow'
      rw [hsplit] at hproceed
      exact hproceed
  | frame hne hchunk =>
    subst hchunk
    have hin : conn.writeLine.has 0 = true := by
      rw [hline]
      rfl
    dsimp only [Station.write]
    rw [Channel.write, if_pos hin]
    exact proceed hst rfl conn hbase hall hne hbegan hline hopen hflow
  | paused hne hchunk =>
    rename_i wakeAt chunk after
    subst hchunk
    dsimp only [Station.write]
    split
    · refine ⟨said ++ chunk, [], [], ⟨hopen, hbegan, said, hbase, hall, ?_⟩, hflow⟩
      dsimp only
      rw [hline]
      exact .paused hne rfl
    · refine ⟨said ++ chunk, [], [], ⟨List.length_pos_iff.2 hne, hopen, hbegan, said ++ chunk,
        hbase.trans (List.prefix_append ..), ?_, ?_⟩, hflow⟩
      · rw [List.drop_left, ← hall, List.append_assoc said]
      · dsimp only
        rw [hline]
        exact .idle

/-- Writing leaves alone what is not of the tunnel. -/
theorem self_write (st : Station ε α τ) (rest : Bytes) (p : Post α τ) :
    (st.write rest p).2.self = p.self := by
  unfold Station.write
  split
  · split <;> rfl
  · unfold Station.wrote
    split <;> rfl

/-- Reading leaves the writing as it is, and so does the link. -/
theorem read (hst : st.Reaches far returning ear)
    (h : Says st.settings ear.closed all base more rest p told pending coming)
    (hflow : ear.Flow p.conn.stream told pending coming)
    {n : Nat} (hn : 0 < n) :
    let p' := (st.read n p).2
    p'.self = p.self ∧ Says st.settings ear.closed all base more rest p' told pending coming ∧
      ear.Flow p'.conn.stream told pending coming := by
  obtain ⟨begun', hbegan⟩ := h.began
  obtain ⟨hqueue, hclosed⟩ := Channel.read_keeps
    (P := fun l => ear.queue l = ear.queue p.conn.stream ∧ ear.closed l = ear.closed p.conn.stream)
    (fun {n l} _ hl =>
      have hread := hst.link.read_near n l
      ⟨hread.1.trans hl.1, hread.2.trans hl.2⟩)
    hbegan (st.fuel p.conn.stream) 0 n ⟨rfl, rfl⟩
  obtain ⟨hwriters, -⟩ :=
    Channel.read_writers st.settings st.link (st.fuel p.conn.stream) 0 n p.conn
  obtain ⟨begun'', hbegan', -⟩ :=
    Channel.read_serves hst.link.returns hn hbegan 0 (st.fuel p.conn.stream)
  obtain ⟨log, hread⟩ := st.read_eq n p
  dsimp only
  rw [hread]
  refine ⟨rfl, ⟨hclosed.trans h.isOpen, ⟨begun'', hbegan'⟩, ?_⟩, hflow.link hqueue hclosed⟩
  dsimp only
  rw [hwriters]
  exact h.writing

end Says

end SealedTunnel
