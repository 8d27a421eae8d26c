import SealedTunnel.Proofs.Conn.Buffers
import SealedTunnel.Proofs.Stream.Requests

/-!
# The memory of a reader

Whatever the other end sends, a connection holds a bounded number of bytes for its readers. No
payload is longer than the other end may make one, because a header that says so is refused before
a place is made for the payload; and what a payload carries is never longer than a frame's data may
be. Each form of a frame has a bound of its own for that: the length of the payload itself, the two
bytes in front of a padded text, the marker of a body, or the length that a block declares. What a
caller has no room for is a byte less at least.

## Main definitions

* `Carrier.Keeps`, `Carrier.metered`: what the stream under a connection keeps, and writes down
* `Reader.Bounded`, `Channel.Bounded`: what is known of a reader, and of a connection

## Main results

* `Settings.length_le_of_decode`: what a payload carries
* `Settings.asks_fetch`: what is asked for when a frame is fetched
* `Reader.read_bounded`, `Channel.Bounded.performAll`: a read, and every run of the tasks
* `Channel.memory_is_bounded`: all of it for a connection from its first byte on
-/

namespace SealedTunnel

/-! ## What a payload carries -/

namespace Settings

variable {s : Settings} {payload text body data room : Bytes}

theorem sealedLength_of_openPayload (h : s.openPayload payload = .ok (text, room)) :
    s.sealedLength text.length = payload.length := by
  unfold openPayload at h
  unfold sealedLength
  cases hc : s.cipher with
  | none =>
    rw [hc] at h
    obtain ⟨rfl, -⟩ := Prod.mk.inj (Except.ok.inj h)
    rfl
  | some c =>
    rw [hc] at h
    dsimp only at h
    cases hopen : c.openInPlace payload with
    | error e =>
      rw [hopen] at h
      cases h
    | ok opened =>
      rw [hopen] at h
      obtain rfl := Except.ok.inj h
      exact c.sealedLength_of_openInPlace _ hopen

/-- A payload that the other end may send opens to a text that it may have sealed. -/
theorem length_le_of_openPayload (hl : payload.length ≤ s.maxFrameLength)
    (h : s.openPayload payload = .ok (text, room)) : text.length ≤ s.maxText := by
  rw [← sealedLength_of_openPayload h, maxFrameLength_eq] at hl
  unfold sealedLength at hl
  split at hl
  · simp only [Cipher.sealedLength] at hl
    omega
  · exact hl

theorem length_le_of_unpad (hl : text.length ≤ s.maxText) (h : s.unpad text = .ok body) :
    body.length ≤ maxFramePayload := by
  unfold unpad at h
  unfold maxText at hl
  split at h
  · exact Padding.length_le_of_decode h
  · rename_i hplain
    obtain rfl := Except.ok.inj h
    rwa [if_neg hplain] at hl

theorem length_le_of_expand (hl : body.length ≤ maxFramePayload) (h : s.expand body = .ok data) :
    data.length ≤ maxFramePayload := by
  unfold expand at h
  split at h
  · split at h
    · obtain rfl := Except.ok.inj h
      exact Nat.zero_le _
    · cases hb : Body.decode body with
      | error e =>
        rw [hb] at h
        cases h
      | ok contents =>
        rw [hb] at h
        obtain rfl := Except.ok.inj h
        exact Body.length_le_of_decode hl hb
  · obtain rfl := Except.ok.inj h
    exact hl

/-- **No payload carries more than the data of a frame**, whatever it is made of. -/
theorem length_le_of_decode (hl : payload.length ≤ s.maxFrameLength)
    (h : s.decode payload = .ok data) : data.length ≤ maxFramePayload := by
  unfold decode at h
  cases hopen : s.openPayload payload with
  | error e =>
    rw [hopen] at h
    cases h
  | ok opened =>
    obtain ⟨text, room⟩ := opened
    rw [hopen] at h
    change s.decodeText text = .ok data at h
    unfold decodeText at h
    cases hbody : s.unpad text with
    | error e =>
      rw [hbody] at h
      cases h
    | ok body =>
      rw [hbody] at h
      have htext := length_le_of_openPayload hl hopen
      exact length_le_of_expand (length_le_of_unpad htext hbody) h

/-! ## Fetching -/

theorem headerSize_le_maxFrameLength (s : Settings) : Header.size ≤ s.maxFrameLength := by
  have htext : Header.size ≤ s.maxText := by
    unfold maxText
    split <;> decide
  rw [maxFrameLength_eq]
  exact Nat.le_trans htext (le_sealedLength _)

theorem maxFrameLength_le_sum (s : Settings) : s.maxFrameLength ≤ 65535 + 2 + 32768 + 28 := by
  have htext : s.maxText ≤ 65535 + (2 + 32768) := by
    unfold maxText
    split <;> decide
  rw [maxFrameLength_eq]
  refine Nat.le_trans (sealedLength_mono htext) ?_
  unfold sealedLength
  split <;> decide

theorem asks_fetchLength (s : Settings) :
    s.fetchLength.Asks s.maxFrameLength fun length => length ≤ s.maxFrameLength := by
  have hheader : Header.fetch.Asks s.maxFrameLength fun _ => True := by
    refine ⟨s.headerSize_le_maxFrameLength, ?_⟩
    intro header _
    dsimp only
    cases Header.decode header with
    | ok length => trivial
    | error fault => trivial
  refine hheader.bind ?_
  intro length _
  by_cases hl : length > s.maxFrameLength
  · rw [if_pos hl]
    trivial
  · rw [if_neg hl]
    exact Nat.not_lt.1 hl

/-- **Fetching a frame asks for no payload that the other end may not send.** -/
theorem asks_fetch (s : Settings) :
    s.fetch.Asks s.maxFrameLength fun payload => payload.length ≤ s.maxFrameLength := by
  refine s.asks_fetchLength.bind ?_
  intro length hl
  refine ⟨hl, ?_⟩
  intro payload hpayload
  show payload.length ≤ s.maxFrameLength
  rw [hpayload]
  exact hl

end Settings

/-! ## A reader -/

/-- What is known of a reader: what it has kept is less than the data of a frame, and what it still
asks for is no more than a payload. -/
structure Reader.Bounded (s : Settings) (r : Reader) : Prop where
  leftover : r.leftover.length < maxFramePayload
  asks : (r.talk s).Asks s.maxFrameLength fun payload => payload.length ≤ s.maxFrameLength

/-- What is known after a read: what it has given and what it has kept come from one frame. -/
structure ReadStep.Bounded {τ : Type} (s : Settings) (I : τ → Prop) (step : ReadStep τ) : Prop where
  reader : step.reader.Bounded s
  source : I step.source
  given : ∀ {bs}, step.outcome = .ready bs →
    bs.length + step.reader.leftover.length ≤ maxFramePayload

namespace Reader

variable {τ : Type} {s : Settings} {d : Duplex IoError τ} {I : τ → Prop} {n : Nat} {r : Reader}

theorem Bounded.fresh (s : Settings) : Bounded s {} :=
  ⟨by decide, s.asks_fetch⟩

theorem Bounded.abandon (h : r.Bounded s) : r.abandon.Bounded s :=
  ⟨h.leftover, s.asks_fetch⟩

/-- The payload that is fetched next is one that the other end may send. -/
theorem Bounded.length_fetched (h : r.Bounded s) (hd : d.Honest) {buffer : Buffer}
    {payload : Bytes} {pool pool' : Pool} {t t' : τ}
    (hdone : (r.fetching.getD (.start s)).advance d pool t = (.payload buffer payload, pool', t')) :
    payload.length ≤ s.maxFrameLength := by
  have hasks := h.asks.advance hd t
  have hmatches := ((r.fetching.getD (.start s)).advance_matches d pool t).1
  rw [hdone] at hmatches
  change Talk.Asks _ _ ((r.fetching.getD (.start s)).talk.advance d t).1 at hasks
  generalize ((r.fetching.getD (.start s)).talk.advance d t).1 = rest at hasks hmatches
  cases hmatches
  exact hasks

/-- Nothing is kept while a frame is being fetched. -/
theorem bounded_wait {fetching : Fetching}
    (hf : fetching.talk.Asks s.maxFrameLength fun payload => payload.length ≤ s.maxFrameLength)
    (pool : Pool) {t : τ} (ht : I t) :
    ReadStep.Bounded s I ⟨.waiting, ⟨[], some fetching⟩, pool, t⟩ :=
  ⟨⟨by simp [maxFramePayload], hf⟩, ht, nofun⟩

/-- A caller with room is given a byte at least, so less than the data of a frame is kept. -/
theorem bounded_give (hn : 0 < n) {data : Bytes} (hd : data ≠ [])
    (hl : data.length ≤ maxFramePayload) (pool : Pool) {t : τ} (ht : I t) :
    ReadStep.Bounded s I ⟨.ready (data.take n), ⟨data.drop n, none⟩, pool, t⟩ := by
  have hpos := List.length_pos_iff.2 hd
  refine ⟨⟨?_, s.asks_fetch⟩, ht, ?_⟩
  · rw [List.length_drop]
    omega
  · intro bs hbs
    obtain rfl := Poll.ready.inj hbs
    rw [← List.length_append, List.take_append_drop]
    exact hl

theorem fetchData_bounded (hd : d.Honest) (hI : d.Keeps s.maxFrameLength I) (hn : 0 < n)
    (fuel : Nat) {fetching : Fetching}
    (hf : fetching.talk.Asks s.maxFrameLength fun payload => payload.length ≤ s.maxFrameLength)
    (pool : Pool) {t : τ} (ht : I t) :
    (fetchData s n d fuel fetching pool t).Bounded s I := by
  -- By induction on the frames that carry nothing: behind each the next one is fetched anew.
  induction fuel generalizing fetching pool t with
  | zero => exact bounded_wait hf pool ht
  | succ fuel ih =>
    have hasks := hf.advance hd t
    have ht' := hf.advance_keeps hd hI ht
    have hround := fetchData_round s n d fuel fetching pool t
    generalize fetchData s n d (fuel + 1) fetching pool t = step at hround ⊢
    generalize fetching.talk.advance d t = r at hasks ht' hround
    cases hround with
    | waiting htalk =>
      subst htalk
      exact bounded_wait hasks _ ht'
    | closed =>
      refine ⟨.fresh s, ht', ?_⟩
      intro bs hbs
      obtain rfl := Poll.ready.inj hbs
      exact Nat.zero_le _
    | unfetched | undecoded => exact ⟨.fresh s, ht', nofun⟩
    | empty =>
      have hstart : (Fetching.start s).talk.Asks s.maxFrameLength
        fun payload => payload.length ≤ s.maxFrameLength := s.asks_fetch
      exact ih hstart _ ht'
    | data hdata hne =>
      exact bounded_give hn hne (Settings.length_le_of_decode hasks hdata) _ ht'

/-- **A read keeps the bounds.** -/
theorem read_bounded (hd : d.Honest) (hI : d.Keeps s.maxFrameLength I) (hn : 0 < n) (fuel : Nat)
    (h : r.Bounded s) (pool : Pool) {t : τ} (ht : I t) :
    (r.read s n d fuel pool t).Bounded s I := by
  rw [read]
  by_cases hleft : r.leftover.isEmpty
  · rw [if_pos hleft]
    exact fetchData_bounded hd hI hn fuel h.asks pool ht
  · rw [if_neg hleft]
    have hl := h.leftover
    refine ⟨⟨?_, h.asks⟩, ht, ?_⟩
    · rw [List.length_drop]
      exact Nat.lt_of_le_of_lt (Nat.sub_le ..) hl
    · intro bs hbs
      obtain rfl := Poll.ready.inj hbs
      rw [← List.length_append, List.take_append_drop]
      exact Nat.le_of_lt hl

end Reader

/-! ## A connection -/

namespace Carrier

variable {τ : Type}

/-- `I` is kept by reading at most `limit` bytes at a time, and by whatever else is done. -/
structure Keeps (d : Carrier τ) (limit : Nat) (I : τ → Prop) : Prop
    extends d.toDuplex.Keeps limit I where
  flush : ∀ {s}, I s → I (d.flush s).2
  shut : ∀ {s}, I s → I (d.shut s).2

/-- The same stream; how much it is asked for is written down. -/
def metered (d : Carrier τ) : Carrier (τ × List Nat) :=
  { d.toDuplex.metered with
    flush := fun s => let (r, s') := d.flush s.1; (r, s', s.2)
    shut := fun s => let (r, s') := d.shut s.1; (r, s', s.2) }

theorem keeps_metered (d : Carrier τ) (limit : Nat) :
    d.metered.Keeps limit fun s => ∀ n ∈ s.2, n ≤ limit where
  toKeeps := d.toDuplex.keeps_metered limit
  flush := id
  shut := id

end Carrier

namespace Channel

variable {τ : Type} {s : Settings} {d : Carrier τ} {I : τ → Prop} {ch : Channel τ}

/-- What is known of a connection: the bounds of its reader, and what its stream has kept. -/
structure Bounded (s : Settings) (I : τ → Prop) (ch : Channel τ) : Prop where
  reader : ch.reader.Bounded s
  stream : I ch.stream

theorem Bounded.read (hd : d.Honest) (hI : d.Keeps s.maxFrameLength I) (h : ch.Bounded s I)
    (fuel owner n : Nat) : (ch.read s d fuel owner n).2.Bounded s I := by
  rcases Nat.eq_zero_or_pos n with rfl | hn
  · exact h
  cases hf : (ch.readLine.enter owner).isFirst owner with
  | false =>
    rw [read_of_not_first hn hf]
    exact ⟨h.reader, h.stream⟩
  | true =>
    rw [read_of_first hn hf]
    have hstep := Reader.read_bounded hd hI.toKeeps hn fuel h.reader ch.pool h.stream
    exact ⟨hstep.reader, hstep.source⟩

/-- **A step of a task keeps the bounds.** -/
theorem Bounded.perform (hd : d.Honest) (hI : d.Keeps s.maxFrameLength I) (fuel : Nat)
    (h : ch.Bounded s I) (act : Act) : (ch.perform s d fuel act).2.Bounded s I := by
  cases act with
  | read owner room => exact h.read hd hI fuel owner room
  | write owner data =>
    obtain ⟨hreader, -, hstream⟩ := write_readers (fun _ => hI.write) hI.flush s owner data h.stream
    exact ⟨hreader ▸ h.reader, hstream⟩
  | close owner =>
    refine ⟨?_, ?_⟩
    · show (ch.close d owner).2.reader.Bounded s
      rw [reader_close]
      exact h.reader
    · show I (ch.close d owner).2.stream
      rcases stream_close d owner ch with heq | heq
      · rw [heq]
        exact h.stream
      · rw [heq, Carrier.finish_snd]
        exact hI.shut h.stream
  | abandonRead owner =>
    refine ⟨?_, h.stream⟩
    show Reader.Bounded s (if _ then _ else _)
    split
    · exact h.reader.abandon
    · exact h.reader
  | abandonWrite owner => exact ⟨h.reader, h.stream⟩
  | usePool use => exact ⟨h.reader, h.stream⟩

/-- **Every run of the tasks keeps them.** -/
theorem Bounded.performAll (hd : d.Honest) (hI : d.Keeps s.maxFrameLength I) (fuel : Nat)
    (h : ch.Bounded s I) (acts : List Act) : (ch.performAll s d fuel acts).2.Bounded s I := by
  induction acts generalizing ch with
  | nil => exact h
  | cons act acts ih => exact ih (h.perform hd hI fuel act)

/-- **The memory of a reader is bounded.** Over any stream that keeps its side, and after any run of
the tasks of a connection, a reader keeps less than the data of a frame; it has never asked for more
bytes at a time than the longest payload has, and goes on like that; whatever payload it fetches
next is not longer than that, and carries no more than the data of a frame; and a read gives and
keeps no more than that together. A block that declares more is refused, however blocks are
expanded. -/
theorem memory_is_bounded (s : Settings) (hd : d.Honest) (fuel : Nat) :
    s.maxFrameLength ≤ 65535 + 2 + 32768 + 28 ∧
    (∀ (pool : Pool) (entropy : Entropy) (start : τ) (acts : List Act),
      let first : Channel (τ × List Nat) := { pool, entropy, stream := (start, []) }
      let ch := (first.performAll s d.metered fuel acts).2
      ch.reader.leftover.length ≤ 65534 ∧
      (∀ n ∈ ch.stream.2, n ≤ s.maxFrameLength) ∧
      (∀ pool pool' t t' buffer payload,
        (ch.reader.fetching.getD (.start s)).advance d.toDuplex pool t =
          (.payload buffer payload, pool', t') →
        payload.length ≤ s.maxFrameLength ∧
        ∀ data, s.decode payload = .ok data → data.length ≤ 65535) ∧
      ∀ room fuel, 0 < room →
        let step := ch.reader.read s room d.metered fuel ch.pool ch.stream
        ∀ bs, step.outcome = .ready bs → bs.length + step.reader.leftover.length ≤ 65535) ∧
    ∀ (expand? : Bytes → Option Bytes) (block : Bytes) (n : Nat),
      Snappy.Block.declaredLength? block = some n → 65535 < n →
      Body.decodeVia expand? (Body.snappyMarker :: block) = .error (.expandsTooFar n 65535) := by
  have hmeter := d.keeps_metered s.maxFrameLength
  refine ⟨s.maxFrameLength_le_sum, ?_, ?_⟩
  · intro pool entropy start acts first ch
    have hfirst : first.Bounded s fun t => ∀ m ∈ t.2, m ≤ s.maxFrameLength :=
      ⟨.fresh s, by simp [first]⟩
    have hch := hfirst.performAll hd.metered hmeter fuel acts
    refine ⟨Nat.le_of_lt_succ hch.reader.leftover, hch.stream, ?_, ?_⟩
    · intro pool pool' t t' buffer payload hdone
      have hpayload := hch.reader.length_fetched hd hdone
      exact ⟨hpayload, fun data hdata => Settings.length_le_of_decode hpayload hdata⟩
    · intro room fuel hroom step bs hbs
      have hstep := Reader.read_bounded hd.metered hmeter.toKeeps hroom fuel hch.reader ch.pool
        hch.stream
      exact hstep.given hbs
  · intro expand? block n hn hlarge
    exact Body.decodeVia_of_lt expand? hn hlarge

/-- A frame of three bytes is read in two pieces, and the header behind it declares one byte more
than there may be: of that frame nothing is asked for. -/
theorem memory_is_bounded_refused_frame :
    let queue := ByteQueue.push {} [0, 0, 0, 3, 7, 8, 9, 0, 1, 0, 0, 5, 5]
    let s : Settings := { obfuscation := .disabled }
    let first : Channel (Pipe × List Nat) :=
      { pool := .empty 0 0, entropy := .ofBytes [], stream := ({ capacity := 64, queue }, []) }
    let run (acts : List Act) :=
      first.performAll s Pipe.ends.metered 2 acts
    Pipe.ends.Honest ∧ s.maxFrameLength = 65535 ∧
      (run [.read 0 1]).2.reader.leftover = [8, 9] ∧
      (run [.read 0 1, .read 0 9, .read 0 9]).2.stream.2 = [4, 3, 4] ∧
      (run [.read 0 1, .read 0 9, .read 0 9]).2.reader.leftover.length ≤ 65534 := by
  intro queue s first run
  refine ⟨Pipe.honest, by decide, by decide +kernel, by decide +kernel, ?_⟩
  obtain ⟨-, hbounds, -⟩ := memory_is_bounded s Pipe.honest 2
  exact (hbounds _ _ _ [.read 0 1, .read 0 9, .read 0 9]).1

end Channel

end SealedTunnel
