import SealedTunnel.Proofs.Conn.Reading
import SealedTunnel.Proofs.Conn.Writing
import SealedTunnel.Proofs.Loopback.Pipe

/-!
# Buffers do not show

The pool of a connection saves allocations and does nothing else. Two connections that differ in
their buffers only, in how many there are, how large they are and what is left in them, and in which
of them the readers and writers hold, answer every call alike and do the same to the stream.

## Main definitions

* `Reader.SameButBuffers`, `Channel.SameButBuffers`: readers and connections that differ in their
  buffers only
* `Channel.Act`, `Channel.performAll`: what tasks do on a connection, one after the other

## Main results

* `Channel.SameButBuffers.perform`: one step of a task is the same on both
* `Channel.write_delivers`: a write makes one frame of the first bytes of the data and emits it
* `Channel.buffers_do_not_show`: all of this, for every run of the tasks
-/

namespace SealedTunnel

/-- A turn without the buffers that its owner holds. -/
def Turn.bare (turn : Turn) : Turn :=
  { turn with loans := [] }

namespace WriteLine

/-- A line without the buffers that those in it hold. -/
def bare (line : WriteLine) : WriteLine :=
  List.map Turn.bare line

variable {a b line : WriteLine}

theorem bare_enter (line : WriteLine) (owner : Nat) (p : Prepared) :
    (line.enter owner p).bare = line.bare ++ [⟨owner, p.frame, p.consumed, []⟩] := by
  rw [bare, enter, List.map_append]
  rfl

@[simp] theorem bare_push (line : WriteLine) (rest : Bytes) :
    (line.push rest).bare = line.bare.push rest := by
  cases line <;> rfl

@[simp] theorem bare_leave (line : WriteLine) (owner : Nat) :
    (line.leave owner).bare = line.bare.leave owner := by
  rw [bare, leave, leave, bare, List.filter_map]
  rfl

@[simp] theorem has_bare (line : WriteLine) (owner : Nat) :
    line.bare.has owner = line.has owner := by
  rw [bare, has, has, List.any_map]
  rfl

@[simp] theorem holder?_bare (line : WriteLine) :
    line.bare.holder? = line.holder?.map Turn.bare := by
  cases line <;> rfl

end WriteLine

/-! ## Fetching -/

/-- The same of a frame is fetched, into whichever buffers. -/
inductive Fetching.SameButBuffers : Fetching → Fetching → Prop
  | length (talk : Talk IoError FetchEnd Nat) : SameButBuffers (.length talk) (.length talk)
  | payload (p q : Buffer) (talk : Talk IoError FetchEnd Bytes) :
      SameButBuffers (.payload p talk) (.payload q talk)

/-- The same has come of fetching, in whichever buffers. -/
inductive Fetched.SameButBuffers : Fetched → Fetched → Prop
  | waiting {f g : Fetching} (h : f.SameButBuffers g) : SameButBuffers (.waiting f) (.waiting g)
  | payload (p q : Buffer) (bytes : Bytes) :
      SameButBuffers (.payload p bytes) (.payload q bytes)
  | stopped (why : FetchEnd) : SameButBuffers (.stopped why) (.stopped why)

/-- Two readers that differ in their buffers only. -/
structure Reader.SameButBuffers (a b : Reader) : Prop where
  leftover : a.leftover = b.leftover
  fetching : Option.Rel Fetching.SameButBuffers a.fetching b.fetching

/-- Two reads that differ in their buffers only. -/
structure ReadStep.SameButBuffers {τ : Type} (x y : ReadStep τ) : Prop where
  outcome : x.outcome = y.outcome
  reader : x.reader.SameButBuffers y.reader
  source : x.source = y.source

theorem Reader.SameButBuffers.abandon {a b : Reader} (h : a.SameButBuffers b) :
    a.abandon.SameButBuffers b.abandon :=
  ⟨h.leftover, .none⟩

theorem Reader.SameButBuffers.of_idle (leftover : Bytes) :
    SameButBuffers ⟨leftover, none⟩ ⟨leftover, none⟩ :=
  ⟨rfl, .none⟩

section Fetching

variable {τ : Type} {f g : Fetching}

theorem Fetching.advancePayload_same (d : Duplex IoError τ) (b b' : Buffer)
    (talk : Talk IoError FetchEnd Bytes) (p q : Pool) (t : τ) :
    let x := advancePayload d b talk p t
    let y := advancePayload d b' talk q t
    x.1.SameButBuffers y.1 ∧ x.2.2 = y.2.2 := by
  unfold advancePayload
  generalize talk.advance d t = r
  obtain ⟨rest, t'⟩ := r
  cases rest with
  | done bytes => exact ⟨.payload b b' bytes, rfl⟩
  | fail why => exact ⟨.stopped why, rfl⟩
  | need | send => exact ⟨.waiting (.payload b b' _), rfl⟩

theorem Fetching.SameButBuffers.advance (h : f.SameButBuffers g) (d : Duplex IoError τ)
    (p q : Pool) (t : τ) :
    let x := f.advance d p t
    let y := g.advance d q t
    x.1.SameButBuffers y.1 ∧ x.2.2 = y.2.2 := by
  cases h with
  | payload b b' talk => exact advancePayload_same d b b' talk p q t
  | length talk =>
    dsimp only [Fetching.advance]
    generalize talk.advance d t = r
    obtain ⟨rest, t'⟩ := r
    cases rest with
    | done n => exact advancePayload_same d _ _ (fetchPayload n) _ _ t'
    | fail why => exact ⟨.stopped why, rfl⟩
    | need | send => exact ⟨.waiting (.length _), rfl⟩

theorem Fetching.same_start (s : Settings) : (start s).SameButBuffers (start s) :=
  .length s.fetchLength

/-- Whichever buffers a payload is undone in, the same data is fetched. -/
theorem Fetching.SameButBuffers.fetchData (h : f.SameButBuffers g) (s : Settings) (n : Nat)
    (d : Duplex IoError τ) (fuel : Nat) (p q : Pool) (t : τ) :
    (Reader.fetchData s n d fuel f p t).SameButBuffers (Reader.fetchData s n d fuel g q t) := by
  -- By induction on the frames: a buffer is used for one frame, and the next takes another.
  induction fuel generalizing f g p q t with
  | zero => exact ⟨rfl, ⟨rfl, .some h⟩, rfl⟩
  | succ fuel ih =>
    obtain ⟨hfetched, hsource⟩ := h.advance d p q t
    rw [Reader.fetchData, Reader.fetchData]
    generalize f.advance d p t = x at hfetched hsource
    generalize g.advance d q t = y at hfetched hsource
    obtain ⟨fetched, p', t'⟩ := x
    obtain ⟨fetched', q', t''⟩ := y
    dsimp only at hfetched hsource
    subst hsource
    cases hfetched with
    | waiting hf => exact ⟨rfl, ⟨rfl, .some hf⟩, rfl⟩
    | stopped why => cases why <;> exact ⟨rfl, .of_idle [], rfl⟩
    | payload b b' bytes =>
      have hp := s.decodeWith_fst b bytes p'
      have hq := s.decodeWith_fst b' bytes q'
      dsimp only
      generalize s.decodeWith b bytes p' = x at hp
      generalize s.decodeWith b' bytes q' = y at hq
      obtain ⟨outcome, p''⟩ := x
      obtain ⟨outcome', q''⟩ := y
      dsimp only at hp hq
      obtain rfl := hp.trans hq.symm
      cases outcome with
      | error e => exact ⟨rfl, .of_idle [], rfl⟩
      | ok data =>
        cases data with
        | nil => exact ih (Fetching.same_start s) p'' q'' t'
        | cons => exact ⟨rfl, .of_idle _, rfl⟩

theorem Reader.SameButBuffers.read {a b : Reader} (h : a.SameButBuffers b) (s : Settings) (n : Nat)
    (d : Duplex IoError τ) (fuel : Nat) (p q : Pool) (t : τ) :
    (a.read s n d fuel p t).SameButBuffers (b.read s n d fuel q t) := by
  obtain ⟨leftover, fetching⟩ := a
  obtain ⟨leftover', fetching'⟩ := b
  obtain ⟨rfl, hfetching⟩ := h
  rw [Reader.read, Reader.read]
  split
  · cases hfetching with
    | none => exact (Fetching.same_start s).fetchData s n d fuel p q t
    | some hf => exact hf.fetchData s n d fuel p q t
  · exact ⟨rfl, ⟨rfl, hfetching⟩, rfl⟩

end Fetching

namespace Channel

variable {τ : Type} {s : Settings} {a b : Channel τ}

/-- Two connections that differ in their buffers only. -/
structure SameButBuffers (a b : Channel τ) : Prop where
  reader : a.reader.SameButBuffers b.reader
  readLine : a.readLine = b.readLine
  writeLine : a.writeLine.bare = b.writeLine.bare
  entropy : a.entropy = b.entropy
  stream : a.stream = b.stream

/-! ## Reading -/

section Reading

variable {d : Duplex IoError τ}

theorem SameButBuffers.read (h : a.SameButBuffers b) (fuel owner n : Nat) :
    (a.read s d fuel owner n).1 = (b.read s d fuel owner n).1 ∧
      (a.read s d fuel owner n).2.SameButBuffers (b.read s d fuel owner n).2 := by
  rcases Nat.eq_zero_or_pos n with rfl | hn
  · exact ⟨rfl, h⟩
  cases hf : (a.readLine.enter owner).isFirst owner with
  | false =>
    have hf' : (b.readLine.enter owner).isFirst owner = false := by rw [← h.readLine, hf]
    rw [read_of_not_first hn hf, read_of_not_first hn hf', h.readLine]
    exact ⟨rfl, h.reader, rfl, h.writeLine, h.entropy, h.stream⟩
  | true =>
    have hf' : (b.readLine.enter owner).isFirst owner = true := by rw [← h.readLine, hf]
    obtain ⟨houtcome, hreader, hsource⟩ := h.reader.read s n d fuel a.pool b.pool b.stream
    rw [read_of_first hn hf, read_of_first hn hf', h.readLine, h.stream, houtcome]
    exact ⟨rfl, hreader, rfl, h.writeLine, h.entropy, hsource⟩

theorem SameButBuffers.abandonRead (h : a.SameButBuffers b) (owner : Nat) :
    (a.abandonRead owner).SameButBuffers (b.abandonRead owner) := by
  refine ⟨?_, ?_, h.writeLine, h.entropy, h.stream⟩
  · unfold Channel.abandonRead
    dsimp only
    rw [h.readLine]
    split
    · exact h.reader.abandon
    · exact h.reader
  · show a.readLine.leave owner = b.readLine.leave owner
    rw [h.readLine]

end Reading

/-! ## Writing -/

variable {d : Carrier τ}

theorem SameButBuffers.withStream (h : a.SameButBuffers b) (stream : τ) :
    SameButBuffers { a with stream } { b with stream } :=
  ⟨h.reader, h.readLine, h.writeLine, h.entropy, rfl⟩

theorem SameButBuffers.leave (h : a.SameButBuffers b) (owner : Nat) :
    (a.leave owner).SameButBuffers (b.leave owner) := by
  refine ⟨h.reader, h.readLine, ?_, h.entropy, h.stream⟩
  show (a.writeLine.leave owner).bare = (b.writeLine.leave owner).bare
  rw [WriteLine.bare_leave, WriteLine.bare_leave, h.writeLine]

theorem SameButBuffers.join (h : a.SameButBuffers b) (owner : Nat) {p q : Prepared}
    (hframe : p.frame = q.frame) (hconsumed : p.consumed = q.consumed) :
    (a.join owner p).SameButBuffers (b.join owner q) := by
  refine ⟨h.reader, h.readLine, ?_, h.entropy, h.stream⟩
  show (a.writeLine.enter owner p).bare = (b.writeLine.enter owner q).bare
  rw [WriteLine.bare_enter, WriteLine.bare_enter, h.writeLine, hframe, hconsumed]

/-- The holders of both lines are the same, up to the buffers they hold. -/
theorem SameButBuffers.holder (h : a.SameButBuffers b) :
    a.writeLine.holder?.map Turn.bare = b.writeLine.holder?.map Turn.bare := by
  rw [← WriteLine.holder?_bare, ← WriteLine.holder?_bare, h.writeLine]

theorem SameButBuffers.push (h : a.SameButBuffers b) (owner : Nat) :
    (a.push d owner).1 = (b.push d owner).1 ∧
      (a.push d owner).2.SameButBuffers (b.push d owner).2 := by
  have hholder := h.holder
  rw [Channel.push, Channel.push, h.stream]
  generalize a.writeLine.holder? = x at hholder
  generalize b.writeLine.holder? = y at hholder
  cases x with
  | none =>
    cases y with
    | none => exact ⟨rfl, h⟩
    | some turn' => cases hholder
  | some turn =>
    cases y with
    | none => cases hholder
    | some turn' =>
      obtain ⟨turnOwner, rest, consumed, loans⟩ := turn
      obtain ⟨turnOwner', rest', consumed', loans'⟩ := turn'
      obtain ⟨rfl, rfl, rfl, -⟩ := Turn.mk.inj (Option.some.inj hholder)
      dsimp only
      by_cases hturn : turnOwner = owner
      · rw [if_neg (not_not_intro hturn), if_neg (not_not_intro hturn)]
        generalize d.emit rest b.stream = r
        obtain ⟨transfer, stream⟩ := r
        cases transfer with
        | complete => exact ⟨rfl, (h.withStream stream).leave owner⟩
        | partway rest' =>
          refine ⟨rfl, h.reader, h.readLine, ?_, h.entropy, rfl⟩
          show (a.writeLine.push rest').bare = (b.writeLine.push rest').bare
          rw [WriteLine.bare_push, WriteLine.bare_push, h.writeLine]
        | stopped why => cases why <;> exact ⟨rfl, (h.withStream stream).leave owner⟩
      · rw [if_pos hturn, if_pos hturn]
        exact ⟨rfl, h⟩

theorem SameButBuffers.proceed (h : a.SameButBuffers b) (owner : Nat) :
    (a.proceed s d owner).1 = (b.proceed s d owner).1 ∧
      (a.proceed s d owner).2.SameButBuffers (b.proceed s d owner).2 := by
  obtain ⟨houtcome, hsame⟩ := h.push (d := d) owner
  rw [Channel.proceed, Channel.proceed]
  generalize a.push d owner = x at houtcome hsame
  generalize b.push d owner = y at houtcome hsame
  obtain ⟨outcome, a'⟩ := x
  obtain ⟨outcome', b'⟩ := y
  dsimp only at houtcome hsame
  subst houtcome
  cases outcome with
  | waiting => exact ⟨rfl, hsame⟩
  | failed e => exact ⟨rfl, hsame⟩
  | ready n =>
    dsimp only
    rw [hsame.entropy]
    cases s.drawPause n b'.entropy with
    | error e => exact ⟨rfl, hsame⟩
    | ok r => exact ⟨rfl, hsame.reader, hsame.readLine, hsame.writeLine, rfl, hsame.stream⟩

theorem SameButBuffers.has (h : a.SameButBuffers b) (owner : Nat) :
    a.writeLine.has owner = b.writeLine.has owner := by
  rw [← WriteLine.has_bare, h.writeLine, WriteLine.has_bare]

theorem SameButBuffers.write (ho : s.obfuscation.check = .ok ()) (h : a.SameButBuffers b)
    (owner : Nat) (data : Bytes) :
    (a.write s d owner data).1 = (b.write s d owner data).1 ∧
      (a.write s d owner data).2.SameButBuffers (b.write s d owner data).2 := by
  rw [Channel.write, Channel.write, h.has owner]
  by_cases hin : b.writeLine.has owner = true
  · rw [if_pos hin, if_pos hin]
    exact h.proceed owner
  by_cases hd : data = []
  · subst hd
    rw [if_neg hin, if_neg hin]
    exact ⟨rfl, h⟩
  have hne : ¬data.isEmpty = true := mt List.isEmpty_iff.1 hd
  rw [if_neg hin, if_neg hin, if_neg hne, if_neg hne]
  rcases make_eq ho hd a with ⟨e, pool, hp, ha⟩ | ⟨payload, entropy, loans, pool, hp, ha⟩ <;>
    rcases make_eq ho hd b with
      ⟨e', pool', hp', hb⟩ | ⟨payload', entropy', loans', pool', hp', hb⟩ <;>
    rw [h.entropy] at hp <;> obtain heq := hp.symm.trans hp'
  · obtain rfl := Except.error.inj heq
    rw [ha, hb]
    exact ⟨rfl, h.reader, h.readLine, h.writeLine, h.entropy, h.stream⟩
  · cases heq
  · cases heq
  · obtain ⟨rfl, rfl⟩ := Prod.mk.inj (Except.ok.inj heq)
    rw [ha, hb]
    have hsame : SameButBuffers { a with pool, entropy } { b with pool := pool', entropy } :=
      ⟨h.reader, h.readLine, h.writeLine, rfl, h.stream⟩
    refine SameButBuffers.proceed (hsame.join owner ?_ ?_) owner
    · rfl
    · rfl

theorem SameButBuffers.lineUp (h : a.SameButBuffers b) (owner : Nat) :
    (a.lineUp owner).SameButBuffers (b.lineUp owner) := by
  unfold Channel.lineUp
  rw [h.has owner]
  split
  · exact h
  · exact h.join owner rfl rfl

theorem SameButBuffers.close (d : Carrier τ) (h : a.SameButBuffers b) (owner : Nat) :
    (a.close d owner).1 = (b.close d owner).1 ∧
      (a.close d owner).2.SameButBuffers (b.close d owner).2 := by
  have hlined := h.lineUp owner
  rw [Channel.close, Channel.close]
  generalize a.lineUp owner = a' at hlined
  generalize b.lineUp owner = b' at hlined
  have hholder := hlined.holder
  generalize a'.writeLine.holder? = x at hholder
  generalize b'.writeLine.holder? = y at hholder
  cases x with
  | none =>
    cases y with
    | none => exact ⟨rfl, hlined⟩
    | some turn' => cases hholder
  | some turn =>
    cases y with
    | none => cases hholder
    | some turn' =>
      have hbare : turn.bare = turn'.bare := Option.some.inj hholder
      have howner := congrArg Turn.owner hbare
      change turn.owner = turn'.owner at howner
      dsimp only
      rw [howner, hlined.stream]
      split
      · generalize d.finish b'.stream = r
        obtain ⟨outcome, stream⟩ := r
        have hshut := hlined.withStream stream
        cases outcome with
        | waiting => exact ⟨rfl, hshut⟩
        | ready | failed => exact ⟨rfl, hshut.leave owner⟩
      · exact ⟨rfl, hlined⟩

/-- What a frame that is emitted comes to for its writer. -/
def Delivers (s : Settings) (owner : Nat) (chunk : Bytes) (entropy : Entropy)
    (r : Poll TunnelError (Nat × Option UInt64) × Channel τ) : Transfer IoError × τ → Prop
  | (.complete _, stream) =>
    r.2.stream = stream ∧ r.2.writeLine = [] ∧
      ((∃ pause, r.1 = .ready (chunk.length, pause)) ∨
        r.1 = .failed (.crypto .noEntropy) ∧ ∃ e, s.drawPause chunk.length entropy = .error e)
  | (.partway rest, stream) =>
    r.2.stream = stream ∧ r.2.writeLine.bare = [⟨owner, rest, chunk.length, []⟩] ∧ r.1 = .waiting
  | (.stopped _, stream) =>
    r.2.stream = stream ∧ r.2.writeLine = [] ∧ ∃ e, r.1 = .failed (.io e)

/-- **A write emits one frame**: the payload of the first bytes of the data, behind its
header. -/
theorem write_delivers (ho : s.obfuscation.check = .ok ()) {data : Bytes} (hd : data ≠ [])
    {ch : Channel τ} (hline : ch.writeLine = []) (owner : Nat) :
    ((∃ pool, ch.write s d owner data = (.failed (.crypto .noEntropy), { ch with pool })) ∧
        ∃ e, s.payload (s.chunkOf data) ch.entropy = .error e) ∨
      ∃ payload entropy, s.payload (s.chunkOf data) ch.entropy = .ok (payload, entropy) ∧
        Delivers s owner (s.chunkOf data) entropy (ch.write s d owner data)
          (d.emit (Wire.frame payload) ch.stream) := by
  have hout : ¬ch.writeLine.has owner = true := by
    rw [hline]
    exact Bool.false_ne_true
  rw [Channel.write, if_neg hout, if_neg (mt List.isEmpty_iff.1 hd)]
  rcases make_eq ho hd ch with ⟨e, pool, hp, hmake⟩ | ⟨payload, entropy, loans, pool, hp, hmake⟩
  · rw [hmake, ← Settings.eq_noEntropy_of_payload hp]
    exact .inl ⟨⟨pool, rfl⟩, e, hp⟩
  · refine .inr ⟨payload, entropy, hp, ?_⟩
    rw [hmake]
    let turn : Turn := ⟨owner, Wire.frame payload, (s.chunkOf data).length, loans⟩
    let joined : Channel τ := { ch with pool, entropy, writeLine := [turn] }
    have hjoined : Channel.join owner ⟨Wire.frame payload, (s.chunkOf data).length, loans⟩
        { ch with pool, entropy } = joined := by
      rw [join, hline]
      rfl
    have hpush := push_of_turn (d := d) (show joined.writeLine = turn :: [] from rfl)
    have hleave : WriteLine.leave [turn] owner = [] := by simp [WriteLine.leave, turn]
    dsimp only
    rw [hjoined, proceed, show joined.push d owner = _ from hpush]
    show Delivers s owner _ entropy _ (d.emit turn.rest joined.stream)
    generalize d.emit turn.rest joined.stream = r
    obtain ⟨transfer, stream⟩ := r
    cases transfer with
    | complete bs =>
      have hconsumed : turn.consumed = (s.chunkOf data).length := rfl
      have hentropy : (Channel.leave turn.owner { joined with stream }).entropy = entropy := rfl
      dsimp only
      rw [hconsumed, hentropy]
      cases hpause : s.drawPause (s.chunkOf data).length entropy with
      | error e =>
        rw [Settings.eq_noEntropy_of_drawPause hpause]
        exact ⟨rfl, hleave, .inr ⟨rfl, e, hpause⟩⟩
      | ok r => exact ⟨rfl, hleave, .inl ⟨r.1, rfl⟩⟩
    | partway rest => exact ⟨rfl, rfl, rfl⟩
    | stopped why => cases why <;> exact ⟨rfl, hleave, _, rfl⟩

/-! ## Runs -/

/-- What a task does on a connection in one step. -/
inductive Act where
  | read (owner room : Nat)
  | write (owner : Nat) (data : Bytes)
  | close (owner : Nat)
  | abandonRead (owner : Nat)
  | abandonWrite (owner : Nat)
  /-- Another connection that shares the pool uses it. -/
  | usePool (use : Pool → Pool)

/-- What a task learns from a step. -/
inductive Answer where
  | read (r : Poll TunnelError Bytes)
  | wrote (r : Poll TunnelError (Nat × Option UInt64))
  | closed (r : Poll TunnelError Unit)
  | nothing

/-- A task does one step. -/
def perform (s : Settings) (d : Carrier τ) (fuel : Nat) (act : Act) (ch : Channel τ) :
    Answer × Channel τ :=
  match act with
  | .read owner room => let (r, ch) := ch.read s d fuel owner room; (.read r, ch)
  | .write owner data => let (r, ch) := ch.write s d owner data; (.wrote r, ch)
  | .close owner => let (r, ch) := ch.close d owner; (.closed r, ch)
  | .abandonRead owner => (.nothing, ch.abandonRead owner)
  | .abandonWrite owner => (.nothing, ch.leave owner)
  | .usePool use => (.nothing, { ch with pool := use ch.pool })

/-- The tasks do one step after the other. -/
def performAll (s : Settings) (d : Carrier τ) (fuel : Nat) :
    List Act → Channel τ → List Answer × Channel τ
  | [], ch => ([], ch)
  | act :: acts, ch =>
    let (answer, ch) := ch.perform s d fuel act
    let (answers, ch) := performAll s d fuel acts ch
    (answer :: answers, ch)

theorem SameButBuffers.perform (ho : s.obfuscation.check = .ok ()) (fuel : Nat)
    (h : a.SameButBuffers b) (act : Act) :
    (a.perform s d fuel act).1 = (b.perform s d fuel act).1 ∧
      (a.perform s d fuel act).2.SameButBuffers (b.perform s d fuel act).2 := by
  cases act with
  | read owner room =>
    obtain ⟨houtcome, hsame⟩ := h.read (s := s) (d := d) fuel owner room
    exact ⟨congrArg Answer.read houtcome, hsame⟩
  | write owner data =>
    obtain ⟨houtcome, hsame⟩ := h.write (d := d) ho owner data
    exact ⟨congrArg Answer.wrote houtcome, hsame⟩
  | close owner =>
    obtain ⟨houtcome, hsame⟩ := h.close d owner
    exact ⟨congrArg Answer.closed houtcome, hsame⟩
  | abandonRead owner => exact ⟨rfl, h.abandonRead owner⟩
  | abandonWrite owner => exact ⟨rfl, h.leave owner⟩
  | usePool use => exact ⟨rfl, h.reader, h.readLine, h.writeLine, h.entropy, h.stream⟩

theorem SameButBuffers.performAll (ho : s.obfuscation.check = .ok ()) (fuel : Nat)
    (acts : List Act) (h : a.SameButBuffers b) :
    (a.performAll s d fuel acts).1 = (b.performAll s d fuel acts).1 ∧
      (a.performAll s d fuel acts).2.SameButBuffers
        (b.performAll s d fuel acts).2 := by
  induction acts generalizing a b with
  | nil => exact ⟨rfl, h⟩
  | cons act acts ih =>
    obtain ⟨hanswer, hsame⟩ := h.perform (d := d) ho fuel act
    obtain ⟨hanswers, hsame⟩ := ih hsame
    exact ⟨congrArg₂ List.cons hanswer hanswers, hsame⟩

/-- **The pool is an optimisation and nothing else.** Connections that differ in their buffers only
answer every run of tasks alike, and do the same to the stream. A write delivers, in one go, the
header and the payload of the first bytes of the data, and flushes; the payload depends on these
bytes and on the random ones alone; where there is no payload, nothing but buffers is used, and data
of no bytes is not written at all. -/
theorem buffers_do_not_show (ho : s.obfuscation.check = .ok ()) (d : Carrier τ) (fuel : Nat) :
    (∀ (a b : Channel τ) (acts : List Act), a.SameButBuffers b →
      (a.performAll s d fuel acts).1 = (b.performAll s d fuel acts).1 ∧
        (a.performAll s d fuel acts).2.SameButBuffers
          (b.performAll s d fuel acts).2) ∧
      (∀ (ch : Channel τ) (owner : Nat) (data : Bytes), data ≠ [] → ch.writeLine = [] →
        ((∃ pool, ch.write s d owner data = (.failed (.crypto .noEntropy), { ch with pool })) ∧
            ∃ e, s.payload (s.chunkOf data) ch.entropy = .error e) ∨
          ∃ payload entropy, s.payload (s.chunkOf data) ch.entropy = .ok (payload, entropy) ∧
            Delivers s owner (s.chunkOf data) entropy (ch.write s d owner data)
              (d.emit (Bytes.bigEndian Header.size payload.length ++ payload) ch.stream)) ∧
      (∀ (ch : Channel τ) (owner : Nat), ch.writeLine.has owner = false →
        ch.write s d owner [] = (.ready (0, none), ch)) ∧
      ∀ data : Bytes, s.chunkOf data = data.take
        (match s.compression with
        | .snappy => min s.maxPayload 65534
        | .none => s.maxPayload) := by
  refine ⟨?_, ?_, ?_, fun _ => rfl⟩
  · intro a b acts h
    exact h.performAll ho fuel acts
  · intro ch owner data hd hline
    exact write_delivers ho hd hline owner
  · intro ch owner hout
    rw [Channel.write, hout]
    rfl

/-- A pool that keeps nothing, and one that has a used buffer. -/
theorem write_used_buffer :
    let pool : Pool := { Pool.empty 4 1 with idle := [⟨0, 4, [9, 9, 9, 9], rfl⟩], made := 1 }
    let stream : Pipe := { capacity := 64 }
    let s : Settings := { obfuscation := .disabled }
    let a : Channel Pipe := { pool := .empty 0 0, entropy := .ofBytes [], stream }
    let b : Channel Pipe := { pool, entropy := .ofBytes [], stream }
    let acts := [Act.write 0 [1, 2, 3], .close 0]
    s.obfuscation.check = .ok () ∧ a.SameButBuffers b ∧
      (a.performAll s Pipe.ends 1 acts).2.stream.queue.toList = [0, 0, 0, 3, 1, 2, 3] ∧
      (b.performAll s Pipe.ends 1 acts).2.stream.queue.toList = [0, 0, 0, 3, 1, 2, 3] ∧
      (a.performAll s Pipe.ends 1 acts).1 =
        (b.performAll s Pipe.ends 1 acts).1 := by
  intro pool stream s a b acts
  have hsame : a.SameButBuffers b := ⟨.of_idle [], rfl, rfl, rfl, rfl⟩
  have hsent : (a.performAll s Pipe.ends 1 acts).2.stream.queue.toList =
      [0, 0, 0, 3, 1, 2, 3] := by decide +kernel
  obtain ⟨hanswers, hafter⟩ :=
    (buffers_do_not_show (s := s) rfl Pipe.ends 1).1 a b acts hsame
  refine ⟨rfl, hsame, hsent, ?_, hanswers⟩
  rw [← hafter.stream]
  exact hsent

end Channel

end SealedTunnel
