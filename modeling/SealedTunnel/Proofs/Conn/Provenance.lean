import SealedTunnel.Conn.Wire
import SealedTunnel.Proofs.Conn.Serving
import SealedTunnel.Proofs.Frame.Header

/-!
# Where the data of a connection comes from

Whoever holds the key of a connection makes payloads by writing. Suppose that of the payloads in a
byte string only such ones open. Then whatever else is in the byte string, and in whatever order,
all that a reader is given are chunks that were written, each of them whole but the last; and it is
given nothing of a frame before all of the frame was taken off the stream, and opened.

## Main definitions

* `Settings.Made`: a payload that someone with the key has made of a chunk
* `Settings.Authentic`: a byte string in which only such payloads open
* `Settings.Vouched`: some bytes are whole chunks that were written, and a part of the next
* `Channel.Released`: what a connection has given comes from whole frames

## Main results

* `Settings.decode_made`: such a payload decodes to its chunk
* `Settings.made_of_mem_parse`: what an authentic byte string carries was written
* `Settings.Authentic.vouched`: what whole frames of it carry is vouched for
* `Channel.read_releases`: a read gives only what whole frames carry
* `Channel.readAll_releases`: so do all reads up to the first failure
-/

namespace SealedTunnel

theorem Wire.frame_injective {a b : Bytes} (h : Wire.frame a = Wire.frame b) : a = b := by
  have hdrop (p : Bytes) : (Wire.frame p).drop Header.size = p :=
    List.drop_left' (Bytes.length_bigEndian Header.size p.length)
  rw [← hdrop a, h, hdrop]

theorem Wire.split_nil : Wire.split [] = { rest := [] } := by
  rw [Wire.split]
  rfl

namespace Settings

variable {s : Settings} {payload data chunk wire : Bytes}

/-! ## Payloads that were written -/

/-- A frame that was made is the header and the payload of its chunk, whatever buffers it was made
in, and whatever the limits on its padding are. -/
theorem prepare_eq_ok {pool pool' : Pool} {e e' : Entropy} {p : Prepared}
    (h : s.prepare data pool e = .ok ((p, pool'), e')) :
    ∃ payload, s.payload (s.chunkOf data) e = .ok (payload, e') ∧ p.frame = Wire.frame payload ∧
      data.take p.consumed = s.chunkOf data := by
  have hl := s.length_chunkOf_le data
  obtain ⟨inScratch, hbody⟩ := bodyInto_eq hl pool.acquire.1.bytes
  rw [prepare_of_body hbody] at h
  dsimp only at h
  obtain ⟨padded, e₁, hpadded, h⟩ := Draw.bind_eq_ok.1 h
  obtain ⟨frame, e₂, hframe, h⟩ := Draw.bind_eq_ok.1 h
  obtain ⟨hp, rfl⟩ := Prod.mk.inj (Except.ok.inj h)
  obtain ⟨rfl, -⟩ := Prod.mk.inj hp
  replace hframe := Draw.orGiveBack_eq_ok.1 hframe
  have htext : s.drawText (s.bodyOf (s.chunkOf data)) e = .ok (padded.bytes, e₁) := by
    rw [← paddedInto_eq (length_bodyOf_le hl) pool.acquire.2.acquire.1.bytes, Draw.map_apply,
      Draw.orGiveBack_eq_ok.1 hpadded]
    rfl
  have hfits : Header.Fits (s.sealedLength padded.bytes.length) := by
    unfold frameInto at hframe
    cases hencode : Header.encode (s.sealedLength padded.bytes.length) with
    | ok header => exact (Header.encode_eq_ok_iff.1 hencode).2
    | error fault =>
      rw [hencode] at hframe
      cases hframe
  rcases frameInto_cases hfits pool.acquire.2.acquire.2.acquire.1.bytes e₁ with
    ⟨err, hfails, -⟩ | ⟨frame', payload, e₃, hframe', hsealed, hbytes⟩
  · cases hfails.symm.trans hframe
  · obtain ⟨rfl, rfl⟩ := Prod.mk.inj (Except.ok.inj (hframe'.symm.trans hframe))
    refine ⟨payload, (Draw.bind_of_ok htext).trans hsealed, hbytes, ?_⟩
    show data.take (data.take s.chunkLimit).length = data.take s.chunkLimit
    rw [List.length_take, ← List.take_eq_take_min]

/-- Someone who holds the key has made the payload of the chunk, by one write with settings that
agree with these. -/
inductive Made (s : Settings) : (payload chunk : Bytes) → Prop
  | write {a : Settings} {data payload : Bytes} {pool pool' : Pool} {e e' : Entropy} {p : Prepared}
      (hagree : Agree a s) (hne : data ≠ [])
      (hmade : a.prepare data pool e = .ok ((p, pool'), e'))
      (hframe : p.frame = Wire.frame payload) : Made s payload (data.take p.consumed)

/-- **What was written is read**: such a payload decodes to its chunk. -/
theorem decode_made (h : s.Made payload chunk) : s.decode payload = .ok chunk := by
  cases h with
  | @write a data _ _ _ _ _ _ hagree hne hmade hframe =>
    obtain ⟨payload', hpayload, hframe', hchunk⟩ := prepare_eq_ok hmade
    rw [hframe] at hframe'
    rw [Wire.frame_injective hframe', hchunk]
    exact decode_payload hagree (a.length_chunkOf_le data) hpayload

/-- A byte string of whose payloads only such ones open. -/
def Authentic (s : Settings) (wire : Bytes) : Prop :=
  ∀ payload ∈ (Wire.split wire).payloads, ∀ opened, s.openPayload payload = .ok opened →
    ∃ chunk, s.Made payload chunk

/-- The payload that is fetched first is the first of the byte string. -/
theorem split_of_fetched {rest : Bytes} (h : s.fetch.on wire = (.ok payload, rest)) :
    (Wire.split wire).payloads = payload :: (Wire.split rest).payloads := by
  have hfirst : Wire.first? wire = .ok (some (payload, rest)) := by
    rw [on_fetch] at h
    unfold Wire.first?
    dsimp only at h ⊢
    rw [List.length_take]
    by_cases hshort : wire.length < Header.size
    · rw [if_pos hshort] at h
      cases (Prod.mk.inj h).1
    · rw [if_neg hshort] at h
      rw [if_neg (by omega)]
      cases hd : Header.decode (wire.take Header.size) with
      | error fault =>
        rw [hd] at h
        cases (Prod.mk.inj h).1
      | ok length =>
        rw [hd] at h
        dsimp only at h
        split at h
        · cases (Prod.mk.inj h).1
        · split at h
          · cases (Prod.mk.inj h).1
          · obtain ⟨hpayload, rfl⟩ := Prod.mk.inj h
            obtain rfl := Except.ok.inj hpayload
            show Except.ok (if _ then _ else _) = _
            rw [List.length_take, if_neg (by omega)]
  rw [Wire.split]
  split
  · rename_i hnone
    rw [hfirst] at hnone
    cases hnone
  · rename_i hnone
    rw [hfirst] at hnone
    cases hnone
  · rename_i hsome
    rw [hfirst] at hsome
    obtain ⟨rfl, rfl⟩ := Prod.mk.inj (Option.some.inj (Except.ok.inj hsome))
    rfl

/-- **What an authentic byte string carries was written.** -/
theorem made_of_mem_parse (h : s.Authentic wire) (hdata : data ∈ (s.parse wire).data) :
    ∃ payload ∈ (Wire.split wire).payloads, s.Made payload data := by
  induction wire using s.frames_induction with
  | unfetched hf =>
    rw [parse_of_unfetched hf] at hdata
    cases hdata
  | undecoded hf hd =>
    rw [parse_of_decode_error hf hd] at hdata
    cases hdata
  | @frame used payload rest first hused hd ih =>
    have hsplit := split_of_fetched (hused rest)
    rw [parse_of_decode_ok (hused rest) hd] at hdata
    rw [hsplit]
    have hbehind (hmem : data ∈ (s.parse rest).data) :
        ∃ payload' ∈ payload :: (Wire.split rest).payloads, s.Made payload' data := by
      have hrest : s.Authentic rest := fun p hp => h p (hsplit ▸ List.mem_cons_of_mem _ hp)
      obtain ⟨payload', hp, hmade⟩ := ih hrest hmem
      exact ⟨payload', List.mem_cons_of_mem _ hp, hmade⟩
    by_cases hnil : first = []
    · subst hnil
      exact hbehind hdata
    · rw [Parsed.behind_of_ne hnil] at hdata
      rcases List.mem_cons.1 hdata with rfl | hmem
      · obtain ⟨opened, hopen⟩ : ∃ opened, s.openPayload payload = .ok opened := by
          unfold decode at hd
          cases ho : s.openPayload payload with
          | error e =>
            rw [ho] at hd
            cases hd
          | ok opened => exact ⟨opened, rfl⟩
        obtain ⟨chunk, hmade⟩ := h payload (hsplit ▸ List.mem_cons_self) opened hopen
        have hsame := decode_made hmade
        rw [hd] at hsame
        obtain rfl := Except.ok.inj hsame
        exact ⟨payload, List.mem_cons_self, hmade⟩
      · exact hbehind hmem

/-! ## Whole frames -/

/-- The payloads of whole frames, and of what is behind them. -/
theorem payloads_append {frames : Bytes} {chunks : List Bytes}
    (h : s.parse frames = { data := chunks, ending := .closed }) (more : Bytes) :
    (Wire.split (frames ++ more)).payloads =
      (Wire.split frames).payloads ++ (Wire.split more).payloads := by
  induction frames using s.frames_induction generalizing chunks with
  | unfetched hf =>
    rw [parse_of_unfetched hf] at h
    obtain ⟨-, rfl, -⟩ := Parsed.mk.inj h
    rw [eq_nil_of_closed hf, Wire.split_nil]
    rfl
  | undecoded hf hd =>
    rw [parse_of_decode_error hf hd] at h
    cases (Parsed.mk.inj h).2.1
  | @frame used payload rest first hused hd ih =>
    rw [parse_of_decode_ok (hused rest) hd] at h
    rw [List.append_assoc, split_of_fetched (hused (rest ++ more)), split_of_fetched (hused rest),
      List.cons_append]
    by_cases hnil : first = []
    · subst hnil
      rw [ih h]
    · rw [Parsed.behind_of_ne hnil] at h
      obtain ⟨-, hending, hrest⟩ := Parsed.mk.inj h
      have hclosed : s.parse rest = { data := (s.parse rest).data, ending := .closed } := by
        rw [← hending, ← hrest]
      rw [ih hclosed]

/-- Some bytes are vouched for by the wire: whole frames, the first of it, carry chunks that were
written, and the bytes are some of the chunks, in order, and a part of the next. -/
inductive Vouched (s : Settings) (wire : Bytes) : Bytes → Prop
  | chunks {frames rest part : Bytes} {whole more : List Bytes} (hwire : wire = frames ++ rest)
      (hparse : s.parse frames = { data := whole ++ more, ending := .closed })
      (hmade : ∀ chunk ∈ whole ++ more, ∃ payload ∈ (Wire.split frames).payloads,
        s.Made payload chunk)
      (hpart : part <+: more.headD []) : Vouched s wire (whole.flatten ++ part)

/-- The first bytes of some chunks are whole chunks, and a part of the next. -/
theorem whole_chunks {chunks : List Bytes} {got : Bytes} (h : got <+: chunks.flatten) :
    ∃ whole more part, chunks = whole ++ more ∧ got = whole.flatten ++ part ∧
      part <+: more.headD [] := by
  induction chunks generalizing got with
  | nil => exact ⟨[], [], got, rfl, rfl, h⟩
  | cons chunk chunks ih =>
    rw [List.flatten_cons] at h
    rcases Nat.le_total got.length chunk.length with hle | hle
    · exact ⟨[], chunk :: chunks, got, rfl, rfl,
        List.prefix_of_prefix_length_le h (List.prefix_append ..) hle⟩
    · obtain ⟨got', rfl⟩ := List.prefix_of_prefix_length_le (List.prefix_append ..) h hle
      obtain ⟨whole, more, part, rfl, rfl, hpart⟩ := ih ((List.prefix_append_right_inj chunk).1 h)
      exact ⟨chunk :: whole, more, part, rfl, (List.append_assoc ..).symm, hpart⟩

/-- Whole frames, the first of an authentic byte string, are authentic. -/
theorem Authentic.whole {frames rest : Bytes} {chunks : List Bytes}
    (h : s.Authentic (frames ++ rest))
    (hparse : s.parse frames = { data := chunks, ending := .closed }) : s.Authentic frames := by
  intro payload hp
  refine h payload ?_
  rw [payloads_append hparse]
  exact List.mem_append_left _ hp

/-- **What authentic frames carry is vouched for**, whatever is behind them. -/
theorem Authentic.vouched {frames got : Bytes} {chunks : List Bytes} (h : s.Authentic frames)
    (hparse : s.parse frames = { data := chunks, ending := .closed })
    (hgot : got <+: chunks.flatten) (rest : Bytes) : s.Vouched (frames ++ rest) got := by
  obtain ⟨whole, more, part, rfl, rfl, hpart⟩ := whole_chunks hgot
  refine .chunks rfl hparse (fun chunk hchunk => made_of_mem_parse h ?_) hpart
  rw [hparse]
  exact hchunk

/-- Where no payload opens, nothing is carried. -/
theorem parse_data_of_none_opens
    (h : ∀ payload ∈ (Wire.split wire).payloads, ∀ opened, s.openPayload payload ≠ .ok opened) :
    (s.parse wire).data = [] := by
  have hauthentic : s.Authentic wire := fun p hp opened ho => absurd ho (h p hp opened)
  refine List.eq_nil_iff_forall_not_mem.2 fun data hdata => ?_
  obtain ⟨payload, hp, hmade⟩ := made_of_mem_parse hauthentic hdata
  have hdecode := decode_made hmade
  unfold decode at hdecode
  cases ho : s.openPayload payload with
  | error e =>
    rw [ho] at hdecode
    cases hdecode
  | ok opened => exact h payload hp opened ho

/-- Where no payload opens, nothing is vouched for. -/
theorem Vouched.eq_nil_of_none_opens {got : Bytes} (hgot : s.Vouched wire got)
    (h : ∀ payload ∈ (Wire.split wire).payloads, ∀ opened, s.openPayload payload ≠ .ok opened) :
    got = [] := by
  cases hgot with
  | chunks hwire hparse hmade hpart =>
    have hdata := parse_data_of_none_opens h
    rw [hwire, parse_append hparse] at hdata
    obtain ⟨hchunks, -⟩ := List.append_eq_nil_iff.1 hdata
    obtain ⟨rfl, rfl⟩ := List.append_eq_nil_iff.1 hchunks
    exact List.prefix_nil.1 hpart

end Settings

/-! ## What is released -/

/-- What a reader has given comes from whole frames: it has taken the frames and the first bytes of
one more off the stream, the frames carry the chunks, and these are given but for the leftover. -/
structure Reader.Released (s : Settings) (r : Reader) (frames begun : Bytes) (chunks : List Bytes)
    (got : Bytes) : Prop where
  whole : s.parse frames = { data := chunks, ending := .closed }
  began : r.Began s begun
  given : got ++ r.leftover = chunks.flatten

namespace Reader

variable {τ : Type} {s : Settings} {d : Duplex IoError τ} {ahead : τ → Bytes} {n : Nat}
  {begun : Bytes}

/-- Fetching data takes whole frames off the stream, or fails. -/
theorem fetchData_releases (h : d.Gives ahead) (fuel : Nat) {fetching : Fetching}
    (hs : fetching.talk.Silent) (hl : s.fetch.Leaves begun fetching.talk)
    (hh : fetching.talk.Hungry) (pool : Pool) (t : τ) :
    let step := fetchData s n d fuel fetching pool t
    (∃ e, step.outcome = .failed e) ∨ ∃ frames begun' chunks,
      begun ++ ahead t = frames ++ begun' ++ ahead step.source ∧
        step.reader.Released s frames begun' chunks step.outcome.bytes := by
  induction fuel generalizing fetching begun pool t with
  | zero =>
    exact .inr ⟨[], begun, [], rfl, s.parse_nil, ⟨hs, hl, hh, .inl rfl⟩, rfl⟩
  | succ fuel ih =>
    obtain ⟨hsilent, got, hgot, hleaves⟩ := Talk.advance_of_gives h hs t
    have hon : s.fetch.on (begun ++ ahead t) = _ := (hl _).trans (Talk.on_advance h hs t)
    have hhungry := Talk.hungry_advance h hs t
    have hround := fetchData_round s n d fuel fetching pool t
    generalize fetchData s n d (fuel + 1) fetching pool t = step at hround ⊢
    generalize fetching.talk.advance d t = r at hsilent hgot hleaves hon hhungry hround
    have hwhole : begun ++ ahead t = begun ++ got ++ ahead r.2 := by
      rw [hgot, List.append_assoc]
    -- Unless the stream has stopped it, fetching stands behind the bytes that it has been given.
    have hstands (hne : ∀ e, r.1 ≠ .fail e) : s.fetch.Leaves (begun ++ got) r.1 := by
      rcases hleaves with hleaves | ⟨e, he, -⟩
      · exact .trans hl hleaves
      · exact absurd he (hne e)
    have hframe {payload data : Bytes} (hr : r.1 = .done payload)
        (hd : s.decode payload = .ok data) :
        s.parse (begun ++ got) = ({ ending := .closed } : Parsed).behind data := by
      have hdone := hstands (by rw [hr]; nofun) []
      rw [hr, List.append_nil] at hdone
      rw [← s.parse_nil]
      exact Settings.parse_of_decode_ok hdone hd
    cases hround with
    | waiting htalk hover =>
      subst htalk
      refine .inr ⟨[], begun ++ got, [], hwhole, s.parse_nil,
        ⟨hsilent, hstands ?_, hhungry hover, .inl rfl⟩, rfl⟩
      intro e he
      exact absurd (congrArg Talk.isOver he) (Bool.eq_false_iff.1 hover)
    | unfetched | undecoded => exact .inl ⟨_, rfl⟩
    | @closed _ t' =>
      have hnil := Settings.eq_nil_of_closed hon
      have hend : ahead t' = [] := by
        rw [hwhole] at hnil
        exact (List.append_eq_nil_iff.1 hnil).2
      exact .inr ⟨[], [], [], hnil.trans hend.symm, s.parse_nil, began_nil rfl, rfl⟩
    | @empty _ _ t' hd =>
      have hparse := hframe rfl hd
      rcases ih (Fetching.silent_start s) (.refl _) (Fetching.hungry_start s) _ t' with
        hfailed | ⟨frames, begun', chunks, htaken, hreleased⟩
      · exact .inl hfailed
      · refine .inr ⟨begun ++ got ++ frames, begun', chunks, ?_, ?_, hreleased.began,
          hreleased.given⟩
        · rw [hwhole, List.append_assoc (begun ++ got), List.append_assoc (begun ++ got), ← htaken]
          rfl
        · rw [Settings.parse_append hparse, hreleased.whole]
          rfl
    | @data _ data _ _ hd hne =>
      have hparse := hframe rfl hd
      rw [Parsed.behind_of_ne hne] at hparse
      refine .inr ⟨begun ++ got, [], [data], ?_, hparse, began_nil rfl, ?_⟩
      · rw [hwhole, List.append_nil]
      · rw [List.flatten_singleton]
        exact List.take_append_drop n data

/-- A read gives the first of the leftover, or of what is fetched, and keeps the rest. -/
theorem read_releases (h : d.Gives ahead) {r : Reader} {frames : Bytes} {chunks : List Bytes}
    {got : Bytes} (hr : r.Released s frames begun chunks got) (fuel : Nat) (pool : Pool) (t : τ) :
    let step := r.read s n d fuel pool t
    (∃ e, step.outcome = .failed e) ∨ ∃ frames' begun' chunks',
      frames ++ begun ++ ahead t = frames' ++ begun' ++ ahead step.source ∧
        step.reader.Released s frames' begun' chunks' (got ++ step.outcome.bytes) := by
  have hgiven := hr.given
  rw [read]
  by_cases hleft : r.leftover = []
  · rw [if_pos (List.isEmpty_iff.2 hleft)]
    rw [hleft, List.append_nil] at hgiven
    rcases fetchData_releases (n := n) h fuel hr.began.silent hr.began.leaves hr.began.hungry
      pool t with hfailed | ⟨frames', begun', chunks', htaken, hnew⟩
    · exact .inl hfailed
    · refine .inr ⟨frames ++ frames', begun', chunks ++ chunks', ?_, ?_, hnew.began, ?_⟩
      · rw [List.append_assoc frames, htaken, List.append_assoc frames, List.append_assoc frames]
      · rw [Settings.parse_append hr.whole, hnew.whole]
      · rw [List.append_assoc, hnew.given, hgiven, List.flatten_append]
  · have hnone := hr.began.apart.resolve_left hleft
    rw [if_neg (mt List.isEmpty_iff.1 hleft)]
    refine .inr ⟨frames, begun, chunks, rfl, hr.whole,
      ⟨hr.began.silent, hr.began.leaves, hr.began.hungry, .inr hnone⟩, ?_⟩
    show got ++ r.leftover.take n ++ r.leftover.drop n = chunks.flatten
    rw [List.append_assoc, List.take_append_drop]
    exact hgiven

end Reader

theorem Owed.length_give_le (s : Settings) (n : Nat) (o : Owed) :
    (o.give s n).1.bytes.length ≤ n := by
  unfold give
  split
  · exact List.length_take_le ..
  · split
    · exact List.length_take_le ..
    · exact Nat.zero_le n
    · exact Nat.zero_le n

namespace Channel

variable {τ : Type} {s : Settings} {d : Duplex IoError τ} {ahead : τ → Bytes} {n owner fuel : Nat}
  {wire got : Bytes} {ch : Channel τ}

/-- Of the bytes that were on the wire, a connection has taken whole frames and the first bytes of
one more, and what it has given comes from these frames. -/
def Released (s : Settings) (ahead : τ → Bytes) (wire got : Bytes) (ch : Channel τ) : Prop :=
  ∃ frames begun chunks, wire = frames ++ begun ++ ahead ch.stream ∧
    ch.reader.Released s frames begun chunks got

theorem released_fresh (s : Settings) (ahead : τ → Bytes) (hfresh : ch.reader = {}) :
    ch.Released s ahead (ahead ch.stream) [] := by
  refine ⟨[], [], [], rfl, s.parse_nil, Reader.began_nil ?_, ?_⟩
  · rw [hfresh]
  · rw [hfresh]
    rfl

theorem length_read_le (h : d.Gives ahead) (hn : 0 < n) (hr : ch.reader.Began s begun)
    (owner fuel : Nat) : (ch.read s d fuel owner n).1.bytes.length ≤ n := by
  obtain ⟨begun', -, hstep, -⟩ := read_serves h hn hr owner fuel
  by_cases hwait : (ch.read s d fuel owner n).1 = .waiting
  · rw [hwait]
    exact Nat.zero_le n
  · have := Owed.length_give_le s n (ch.reader.owed s begun (ahead ch.stream))
    rw [hstep.give_eq hwait] at this
    exact this

/-- **A read gives only what whole frames carry**, or fails. -/
theorem read_releases (h : d.Gives ahead) (hr : ch.Released s ahead wire got)
    (fuel owner n : Nat) :
    let r := ch.read s d fuel owner n
    ((∃ e, r.1 = .failed e) ∨ r.2.Released s ahead wire (got ++ r.1.bytes)) ∧
      r.1.bytes.length ≤ n ∧ ahead r.2.stream <:+ ahead ch.stream := by
  obtain ⟨frames, begun, chunks, hwire, hreleased⟩ := hr
  have hsame (line : ReadLine) :
      Released s ahead wire (got ++ []) { ch with readLine := line } := by
    rw [List.append_nil]
    exact ⟨frames, begun, chunks, hwire, hreleased⟩
  rcases Nat.eq_zero_or_pos n with rfl | hn
  · exact ⟨.inr (hsame _), Nat.zero_le _, List.suffix_rfl⟩
  obtain ⟨begun', -, -, hsuffix, -⟩ := read_serves h hn hreleased.began owner fuel
  refine ⟨?_, length_read_le h hn hreleased.began owner fuel, hsuffix⟩
  cases hf : (ch.readLine.enter owner).isFirst owner with
  | false =>
    rw [read_of_not_first hn hf]
    exact .inr (hsame _)
  | true =>
    rw [read_of_first hn hf]
    rcases Reader.read_releases (n := n) h hreleased fuel ch.pool ch.stream with
      hfailed | ⟨frames', begun', chunks', htaken, hnew⟩
    · exact .inl hfailed
    · exact .inr ⟨frames', begun', chunks', hwire.trans htaken, hnew⟩

/-- A connection, as the stream that a task uses, gives only what whole frames carry. -/
theorem delivers_released {d : Carrier τ} (h : d.Gives ahead) (s : Settings) (fuel owner : Nat)
    (wire : Bytes) :
    (toDuplex s d fuel owner).Delivers (Released s ahead wire) (fun _ _ => True)
      fun _ _ => True where
  ready := by
    intro n got bs ch ch' _ hs _ hr
    obtain ⟨hnew, hlength, -⟩ := read_releases h hs fuel owner n
    rw [show ch.read s d fuel owner n = (.ready bs, ch') from hr] at hnew hlength
    refine ⟨hlength, hnew.resolve_left ?_⟩
    rintro ⟨e, ⟨⟩⟩
  waiting := by
    intro n got ch ch' _ hs hr
    obtain ⟨hnew, -, -⟩ := read_releases h hs fuel owner n
    rw [show ch.read s d fuel owner n = (.waiting, ch') from hr] at hnew
    have hreleased := hnew.resolve_left (by rintro ⟨e, ⟨⟩⟩)
    rw [show Poll.bytes .waiting = [] from rfl, List.append_nil] at hreleased
    exact ⟨hreleased, trivial⟩
  ended _ _ _ := trivial
  failed _ _ _ := trivial

/-- **All reads up to the first failure give only what whole frames carry**, of those that were
taken off the stream until then. -/
theorem readAll_releases (h : d.Gives ahead) (hr : ch.Released s ahead wire got)
    (fuel owner : Nat) (sizes : List Nat) :
    let run := ch.readAll s d fuel owner sizes
    ∃ frames begun chunks, wire = frames ++ begun ++ ahead run.2.stream ∧
      s.parse frames = { data := chunks, ending := .closed } ∧
      got ++ run.1.flatMap (fun r => r.2.bytes) <+: chunks.flatten := by
  induction sizes generalizing ch got with
  | nil =>
    obtain ⟨frames, begun, chunks, hwire, hreleased⟩ := hr
    refine ⟨frames, begun, chunks, hwire, hreleased.whole, ch.reader.leftover, ?_⟩
    rw [readAll, List.flatMap_nil, List.append_nil]
    exact hreleased.given
  | cons n ns ih =>
    obtain ⟨hread, -, hsuffix⟩ := read_releases h hr fuel owner n
    rw [readAll]
    generalize ch.read s d fuel owner n = r at hread hsuffix
    obtain ⟨outcome, ch'⟩ := r
    have hmore (hne : ∀ e, outcome ≠ .failed e) :
        ∃ frames begun chunks, wire = frames ++ begun ++
            ahead (ch'.readAll s d fuel owner ns).2.stream ∧
          s.parse frames = { data := chunks, ending := .closed } ∧
          got ++ (outcome.bytes ++
            (ch'.readAll s d fuel owner ns).1.flatMap fun r => r.2.bytes) <+: chunks.flatten := by
      rcases hread with ⟨e, he⟩ | hreleased
      · exact absurd he (hne e)
      · rw [← List.append_assoc]
        exact ih hreleased
    cases outcome with
    | waiting | ready =>
      refine hmore ?_
      intro e he
      cases he
    | failed e =>
      obtain ⟨frames, begun, chunks, hwire, hreleased⟩ := hr
      obtain ⟨taken, htaken⟩ := hsuffix
      refine ⟨frames, begun ++ taken, chunks, ?_, hreleased.whole, ch.reader.leftover, ?_⟩
      · show wire = frames ++ (begun ++ taken) ++ ahead ch'.stream
        rw [hwire, ← htaken]
        simp only [List.append_assoc]
      · show got ++ ([] ++ []) ++ ch.reader.leftover = chunks.flatten
        rw [List.append_nil, List.append_nil]
        exact hreleased.given

end Channel

end SealedTunnel
