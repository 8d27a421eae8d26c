import SealedTunnel.Proofs.Conn.Serving
import SealedTunnel.Proofs.Conn.Writing

/-!
# What flows over a link

One end of a link tells, in frames, and the other end hears. At any time the reader has heard, or
has ahead of it, all that was told, and nothing that was not; of the frame on its way it may have
ahead what that carries. That stays so if the writer breaks off in the middle of a frame and closes:
then the bytes of that frame are the only ones that are missing.

## Main definitions

* `Flow`: what was told over a link, and what was heard of it
* `Listener`: all of that which does not change while more is told

## Main results

* `Flow.make`, `Flow.proceed`: a frame goes into the link, and what it carries is told
* `Flow.shut`: closing loses nothing that was told
* `Flow.read`: what a read gives is heard, and the end shows only behind all that was told
-/

namespace SealedTunnel

variable {τ : Type}

namespace Settings

variable {s : Settings} {wire : Bytes}

/-- What more bytes carry comes behind what the first of them carry. -/
theorem data_parse_append (s : Settings) (wire more : Bytes) :
    (s.parse wire).data <+: (s.parse (wire ++ more)).data := by
  induction wire using s.frames_induction with
  | unfetched hf =>
    rw [parse_of_unfetched hf]
    exact List.nil_prefix
  | undecoded hf hd =>
    rw [parse_of_decode_error hf hd]
    exact List.nil_prefix
  | @frame used payload rest data hused hd ih =>
    rw [List.append_assoc, parse_of_decode_ok (hused rest) hd,
      parse_of_decode_ok (hused (rest ++ more)) hd]
    by_cases hnil : data = []
    · subst hnil
      exact ih
    · rw [Parsed.behind_of_ne hnil, Parsed.behind_of_ne hnil]
      exact (List.prefix_append_right_inj [data]).2 ih

/-- Where the end comes between two frames, nothing is behind it. -/
theorem parse_of_closed (h : (s.parse wire).ending = .closed) :
    s.parse wire = { data := (s.parse wire).data, ending := .closed } := by
  induction wire using s.frames_induction with
  | @unfetched wire rest ending hf =>
    rw [parse_of_unfetched hf] at h ⊢
    obtain rfl : ending = .closed := h
    have hnil := eq_nil_of_closed hf
    subst hnil
    obtain ⟨-, rfl⟩ := Prod.mk.inj hf
    rfl
  | undecoded hf hd =>
    rw [parse_of_decode_error hf hd] at h
    cases h
  | @frame used payload rest data hused hd ih =>
    rw [parse_of_decode_ok (hused rest) hd] at h ⊢
    by_cases hnil : data = []
    · subst hnil
      exact ih h
    · rw [Parsed.behind_of_ne hnil] at h ⊢
      rw [ih h]

end Settings

namespace Reader

variable {s : Settings} {r : Reader} {begun begun' : Bytes}

/-- What is owed depends on what fetching goes on with, not on how it came there. -/
theorem Began.owed_eq (h : r.Began s begun) (h' : r.Began s begun') (ahead : Bytes) :
    r.owed s begun ahead = r.owed s begun' ahead := by
  rw [owed, owed, Settings.parse_eq_fetch, Settings.parse_eq_fetch, h.leaves, h'.leaves]

/-- All data that a reader with these bytes ahead is owed. -/
def content (s : Settings) (r : Reader) (begun ahead : Bytes) : Bytes :=
  (r.owed s begun ahead).content

theorem content_append (s : Settings) (r : Reader) (begun ahead more : Bytes) :
    r.content s begun ahead <+: r.content s begun (ahead ++ more) := by
  obtain ⟨data, hdata⟩ := s.data_parse_append (begun ++ ahead) more
  refine ⟨data.flatten, ?_⟩
  unfold content owed Owed.content
  rw [← List.append_assoc begun, ← hdata, List.flatten_append, List.append_assoc]

/-- A frame that is begun is not whole. -/
theorem Began.parse_data (h : r.Began s begun) : (s.parse begun).data = [] := by
  have hon := h.leaves []
  rw [List.append_nil] at hon
  cases hfetch : s.fetch.on begun with
  | mk outcome rest =>
    cases outcome with
    | error e => rw [Settings.parse_of_unfetched hfetch]
    | ok payload => exact absurd (hon.symm.trans hfetch) (h.hungry payload rest)

section Waiting

variable {d : Duplex IoError τ} {ahead : τ → Bytes} {n fuel : Nat}

theorem fetchData_waiting (h : d.Gives ahead) (hforth : d.Forthcoming ahead) {fetching : Fetching}
    (hs : fetching.talk.Silent) (hh : fetching.talk.Hungry) (pool : Pool) {t : τ}
    (hfuel : (ahead t).length < fuel)
    (hwait : (fetchData s n d fuel fetching pool t).outcome = .waiting) :
    (fetchData s n d fuel fetching pool t).reader.leftover = [] ∧
      ahead (fetchData s n d fuel fetching pool t).source = [] := by
  induction fuel generalizing fetching pool t with
  | zero => exact absurd hfuel (Nat.not_lt_zero _)
  | succ fuel ih =>
    have hempty := Talk.ahead_of_waiting h hforth hs t
    have hround := fetchData_round s n d fuel fetching pool t
    generalize fetchData s n d (fuel + 1) fetching pool t = step at hround hwait ⊢
    generalize hr : fetching.talk.advance d t = r at hempty hround
    cases hround with
    | waiting htalk hover => exact ⟨rfl, hempty hover⟩
    | closed | unfetched | undecoded | data => cases hwait
    | empty =>
      have hless := length_lt_of_fetched h hs hh hr
      exact ih (Fetching.silent_start s) (Fetching.hungry_start s) _ (by omega) hwait

/-- A read that has to wait leaves nothing behind. -/
theorem read_waiting (h : d.Gives ahead) (hforth : d.Forthcoming ahead) (hr : r.Began s begun)
    (pool : Pool) {t : τ} (hfuel : (ahead t).length < fuel)
    (hwait : (r.read s n d fuel pool t).outcome = .waiting) :
    (r.read s n d fuel pool t).reader.leftover = [] ∧
      ahead (r.read s n d fuel pool t).source = [] := by
  rw [read] at hwait ⊢
  split at hwait
  · rename_i hempty
    rw [if_pos hempty]
    exact fetchData_waiting h hforth hr.silent hr.hungry pool hfuel hwait
  · cases hwait

end Waiting

theorem proper_owed (s : Settings) (r : Reader) (begun ahead : Bytes) :
    (r.owed s begun ahead).Proper :=
  fun _ => Settings.ne_nil_of_mem_parse

end Reader

namespace Owed

variable {s : Settings} {n : Nat} {o o' : Owed} {r : Poll TunnelError Bytes}

/-- A read that does not fail gives the first of what is owed. -/
theorem Step.content_eq (h : o.Step s n r o') (hn : 0 < n) (ho : o.Proper)
    (hr : ∀ e, r ≠ .failed e) : o.content = r.bytes ++ o'.content := by
  cases h with
  | wait => rfl
  | give h =>
    have hgiven := given_give (s := s) hn ho
    rw [h] at hgiven
    cases hgiven with
    | piece _ hcontent => exact hcontent
    | closed => rfl
    | failed => exact absurd rfl (hr _)

/-- A read that gives nothing, or fails, is owed nothing. -/
theorem Step.content_eq_nil (h : o.Step s n r o') (hn : 0 < n) (ho : o.Proper)
    (hr : r = .ready [] ∨ ∃ e, r = .failed e) : o.content = [] := by
  have hne : r ≠ .waiting := by
    rcases hr with rfl | ⟨e, rfl⟩ <;> nofun
  have hgiven := given_give (s := s) hn ho
  rw [h.give_eq hne] at hgiven
  cases hgiven with
  | piece hpiece =>
    rcases hr with hr | ⟨e, hr⟩
    · exact absurd (Poll.ready.inj hr) hpiece
    · cases hr
  | closed hcontent | failed hcontent => exact hcontent

theorem Step.closing (h : o.Step s n r o') (ho : o.Closing) :
    (∀ e, r ≠ .failed e) ∧ o'.Closing := by
  cases h with
  | wait => exact ⟨nofun, ho⟩
  | give h =>
    obtain ⟨⟨bs, hbs⟩, hclosing⟩ := ho.give s n
    rw [h] at hbs hclosing
    dsimp only at hbs
    subst hbs
    exact ⟨nofun, hclosing⟩

end Owed

/-- What was told over a link, and what was heard of it. `told` are the bytes of all writes that
have come to their end; the frame on its way carries `pending`, and `coming` of it is not in the
link yet; the reader was given `heard`, and has taken `begun` of the next frame. -/
structure Flow (s : Settings) (queue : τ → Bytes) (closed : τ → Bool) (r : Reader)
    (line : ReadLine) (l : τ) (told pending heard coming begun : Bytes) : Prop where
  began : r.Began s begun
  alone : line = [] ∨ line = [0]
  /-- Behind the closing nothing comes. -/
  rest : closed l = true → coming = []
  lower : told <+: heard ++ r.content s begun (queue l)
  upper : heard ++ r.content s begun (queue l ++ coming) <+: told ++ pending
  whole : closed l = false → (r.owed s begun (queue l ++ coming)).Closing ∧
    heard ++ r.content s begun (queue l ++ coming) = told ++ pending

/-- Whoever listens at the far end of a link: its settings, the link, the reading side of its
connection, and what that has given and taken. -/
structure Listener (τ : Type) where
  settings : Settings
  queue : τ → Bytes
  closed : τ → Bool
  reader : Reader
  line : ReadLine
  heard : Bytes
  begun : Bytes

/-- What was told to a listener. -/
abbrev Listener.Flow (ear : Listener τ) (l : τ) (told pending coming : Bytes) : Prop :=
  SealedTunnel.Flow ear.settings ear.queue ear.closed ear.reader ear.line l told pending ear.heard
    coming ear.begun

namespace Flow

variable {s : Settings} {queue : τ → Bytes} {closed : τ → Bool} {r : Reader} {line : ReadLine}
  {l l' : τ} {told pending heard coming begun : Bytes}

theorem fresh (hempty : queue l = []) :
    Flow s queue closed {} [] l [] [] [] [] [] := by
  have howed : Reader.owed s {} [] (queue l ++ []) = { parsed := { ending := .closed } } := by
    rw [hempty, Reader.owed, List.append_nil, List.append_nil, Settings.parse_nil]
  have hcontent : Reader.content s {} [] (queue l ++ []) = [] := by
    rw [Reader.content, howed]
    rfl
  refine ⟨Reader.began_nil rfl, .inl rfl, fun _ => rfl, List.nil_prefix, ?_, fun _ => ⟨?_, ?_⟩⟩
  · exact hcontent.symm ▸ List.nil_prefix
  · rw [howed]
    exact ⟨rfl, rfl⟩
  · rw [hcontent]

/-! ## The writing end -/

/-- Nothing of it depends on more than the bytes in the link. -/
theorem link (h : Flow s queue closed r line l told pending heard coming begun)
    (hqueue : queue l' = queue l) (hclosed : closed l' = closed l) :
    Flow s queue closed r line l' told pending heard coming begun := by
  refine ⟨h.began, h.alone, ?_, ?_, ?_, ?_⟩
  · rw [hclosed]
    exact h.rest
  · rw [hqueue]
    exact h.lower
  · rw [hqueue]
    exact h.upper
  · rw [hqueue, hclosed]
    exact h.whole

/-- A frame is made, and is coming. -/
theorem frame (h : Flow s queue closed r line l told [] heard [] begun) (hopen : closed l = false)
    {payload chunk : Bytes} (hfits : Header.Fits payload.length)
    (hmax : payload.length ≤ s.maxFrameLength) (hd : s.decode payload = .ok chunk)
    (hne : chunk ≠ []) :
    Flow s queue closed r line l told chunk heard (Wire.frame payload) begun := by
  obtain ⟨hclosing, hcontent⟩ := h.whole hopen
  have hwhole := hclosing.parsed_eq
  rw [List.append_nil, List.append_nil] at hcontent
  rw [List.append_nil] at hwhole
  have hparse := Settings.parse_append_frame hwhole hfits hmax hd hne
  rw [List.append_assoc] at hparse
  have howed : r.owed s begun (queue l ++ Wire.frame payload) =
      (r.owed s begun (queue l)).followedBy chunk := by
    rw [Reader.owed, hparse, Owed.followedBy, hwhole]
    rfl
  have hsaid : heard ++ r.content s begun (queue l ++ Wire.frame payload) = told ++ chunk := by
    have hmore : r.content s begun (queue l ++ Wire.frame payload) =
        r.content s begun (queue l) ++ chunk := by
      rw [Reader.content, howed, Owed.followedBy, Owed.content, List.flatten_append,
        List.flatten_singleton, ← List.append_assoc]
      rfl
    rw [hmore, ← List.append_assoc, hcontent]
  refine ⟨h.began, h.alone, ?_, h.lower, hsaid ▸ List.prefix_rfl, fun _ => ⟨?_, hsaid⟩⟩
  · exact fun hclosed => absurd hclosed (Bool.eq_false_iff.1 hopen)
  · rw [howed, Owed.followedBy, hwhole]
    exact ⟨rfl, rfl⟩

/-- The next bytes of the frame go into the link. -/
theorem put {went rest : Bytes}
    (h : Flow s queue closed r line l told pending heard (went ++ rest) begun)
    (hqueue : queue l' = queue l ++ went) (hopen : closed l = false) (hopen' : closed l' = false) :
    Flow s queue closed r line l' told pending heard rest begun := by
  have hahead : queue l' ++ rest = queue l ++ (went ++ rest) := by
    rw [hqueue, List.append_assoc]
  refine ⟨h.began, h.alone, ?_, ?_, ?_, fun _ => ?_⟩
  · rw [hopen']
    nofun
  · rw [hqueue]
    exact h.lower.trans
      ((List.prefix_append_right_inj heard).2 (r.content_append s begun (queue l) went))
  · rw [hahead]
    exact h.upper
  · rw [hahead]
    exact h.whole hopen

/-- All of the frame is in the link, so what it carries is told. -/
theorem tell (h : Flow s queue closed r line l told pending heard [] begun)
    (hopen : closed l = false) :
    Flow s queue closed r line l (told ++ pending) [] heard [] begun := by
  have hwhole := h.whole hopen
  refine ⟨h.began, h.alone, fun _ => rfl, ?_, ?_, fun _ => ⟨hwhole.1, ?_⟩⟩
  · have hall := hwhole.2
    rw [List.append_nil] at hall
    exact hall ▸ List.prefix_rfl
  · rw [List.append_nil (told ++ pending)]
    exact h.upper
  · rw [List.append_nil (told ++ pending)]
    exact hwhole.2

/-- **Closing loses nothing that was told**; what is still coming never comes. -/
theorem shut (h : Flow s queue closed r line l told pending heard coming begun)
    (hqueue : queue l' = queue l) (hclosed : closed l' = true) :
    Flow s queue closed r line l' told pending heard [] begun := by
  refine ⟨h.began, h.alone, fun _ => rfl, ?_, ?_, ?_⟩
  · rw [hqueue]
    exact h.lower
  · rw [hqueue, List.append_nil]
    exact ((List.prefix_append_right_inj heard).2
      (r.content_append s begun (queue l) coming)).trans h.upper
  · rw [hclosed]
    nofun

section Writing

variable {near far : Carrier τ} {drop : τ → τ} {returning : τ → Bytes}
  {ch : Channel τ} {a : Settings} {data chunk : Bytes} {loans : List Buffer}

/-- **A frame is made of the first bytes of the data**, unless that fails. -/
theorem make (hab : Settings.Agree a s) (ho : a.obfuscation.check = .ok ()) (hdata : data ≠ [])
    (hopen : closed ch.stream = false)
    (h : Flow s queue closed r line ch.stream told [] heard [] begun) :
    (∃ e pool, ch.make a data = (.error e, { ch with pool })) ∨ ∃ payload loans pool entropy,
      ch.make a data =
          (.ok ⟨Wire.frame payload, (a.chunkOf data).length, loans⟩, { ch with pool, entropy }) ∧
        Flow s queue closed r line ch.stream told (a.chunkOf data) heard (Wire.frame payload)
          begun := by
  have hl := a.length_chunkOf_le data
  have hne := a.chunkOf_ne_nil hdata
  rcases Channel.make_eq ho hdata ch with
    ⟨e, pool, -, hmake⟩ | ⟨payload, entropy, loans, pool, hp, hmake⟩
  · exact .inl ⟨e, pool, hmake⟩
  · refine .inr ⟨payload, loans, pool, entropy, hmake, ?_⟩
    exact h.frame hopen (Settings.fits_payload ho hne hl hp)
      (hab.maxFrameLength ▸ (Settings.length_payload ho hne hl hp).2)
      (Settings.decode_payload hab hl hp) hne

/-- **A frame goes into the link**, and is told once its last byte is flushed. -/
theorem proceed (hlink : near.Joins far drop queue closed returning) (a : Settings)
    (hline : ch.writeLine = [⟨0, coming, chunk.length, loans⟩]) (hopen : closed ch.stream = false)
    (h : Flow s queue closed r line ch.stream told chunk heard coming begun) :
    ∃ stream, closed stream = false ∧
      ((∃ pool entropy pause, ch.proceed a near 0 =
            (.ready (chunk.length, pause), { ch with pool, entropy, stream, writeLine := [] }) ∧
          Flow s queue closed r line stream (told ++ chunk) [] heard [] begun) ∨
        (∃ pool, ch.proceed a near 0 =
            (.failed (.crypto .noEntropy), { ch with pool, stream, writeLine := [] }) ∧
          Flow s queue closed r line stream (told ++ chunk) [] heard [] begun) ∨
        ∃ rest, ch.proceed a near 0 =
            (.waiting, { ch with stream, writeLine := [⟨0, rest, chunk.length, loans⟩] }) ∧
          Flow s queue closed r line stream told chunk heard rest begun) := by
  obtain ⟨went, rest, stream, hsplit, hopen', hqueue, hcases⟩ :=
    Channel.proceed_takes (s := a) hlink.takes hline hopen
  obtain rfl : coming = went ++ rest := hsplit
  have hput := h.put hqueue hopen hopen'
  refine ⟨stream, hopen', ?_⟩
  obtain ⟨rfl, pool, entropy, pause, hr⟩ | ⟨rfl, pool, hr⟩ | hr := hcases
  · exact .inl ⟨pool, entropy, pause, hr, hput.tell hopen'⟩
  · exact .inr (.inl ⟨pool, hr, hput.tell hopen'⟩)
  · exact .inr (.inr ⟨rest, hr, hput⟩)

end Writing

/-! ## The reading end -/

section Reading

variable {near far : Carrier τ} {drop : τ → τ} {returning : τ → Bytes}
  {ch : Channel τ} {n : Nat}

/-- A reader is told of the end only if the link is closed: behind whole frames there may always
come a byte more. -/
theorem closed_of_read (hlink : near.Joins far drop queue closed returning) (hn : 0 < n)
    (hbegan : ch.reader.Began s begun) (fuel : Nat)
    (hread : (ch.read s far fuel 0 n).1 = .ready []) : closed ch.stream = true := by
  by_contra hopen
  rw [Bool.not_eq_true] at hopen
  have hend (coming : Bytes) :
      (s.parse (begun ++ (queue ch.stream ++ coming))).ending = .closed := by
    obtain ⟨begun', -, hstep, -, -⟩ :=
      Channel.read_serves (hlink.gives coming) hn hbegan 0 fuel
    rw [hread, hopen, if_neg Bool.false_ne_true] at hstep
    have hgiven := Owed.given_give (s := s) hn
      (ch.reader.proper_owed s begun (queue ch.stream ++ coming))
    rw [hstep.give_eq nofun] at hgiven
    exact hgiven.ending_eq_closed
  have hwhole := hend []
  rw [List.append_nil] at hwhole
  have hone : s.parse [0] = { ending := .failed (.framing (.endInsideHeader 1)) } := by
    rw [Settings.parse]
    rfl
  have hmore := hend [0]
  rw [← List.append_assoc, Settings.parse_append (Settings.parse_of_closed hwhole), hone] at hmore
  cases hmore

/-- How a read comes out, by what was told and heard. -/
inductive Heard (s : Settings) (queue : τ → Bytes) (closed : τ → Bool)
    (told pending heard coming : Bytes) : Poll TunnelError Bytes × Channel τ → Prop
  | waiting {ch : Channel τ} {begun : Bytes}
      (h : Flow s queue closed ch.reader ch.readLine ch.stream told pending heard coming begun) :
      Heard s queue closed told pending heard coming (.waiting, ch)
  | some {b : UInt8} {bs : Bytes} {ch : Channel τ} {begun : Bytes}
      (h : Flow s queue closed ch.reader ch.readLine ch.stream told pending (heard ++ b :: bs)
        coming begun) :
      Heard s queue closed told pending heard coming (.ready (b :: bs), ch)
  | ended {ch : Channel τ} {begun : Bytes}
      (h : Flow s queue closed ch.reader ch.readLine ch.stream told pending heard coming begun)
      (hclosed : closed ch.stream = true) (htold : told <+: heard) :
      Heard s queue closed told pending heard coming (.ready [], ch)
  /-- A frame was broken off, and all that was told before was heard. -/
  | failed {e : TunnelError} {ch : Channel τ} (hclosed : closed ch.stream = true)
      (htold : told <+: heard) : Heard s queue closed told pending heard coming (.failed e, ch)

/-- **What a read gives is heard**, and the end shows only behind all that was told. -/
theorem read (hlink : near.Joins far drop queue closed returning)
    (h : Flow s queue closed ch.reader ch.readLine ch.stream told pending heard coming begun)
    (hn : 0 < n) (fuel : Nat) :
    closed (ch.read s far fuel 0 n).2.stream = closed ch.stream ∧
      Heard s queue closed told pending heard coming (ch.read s far fuel 0 n) := by
  have hclosed : closed (ch.read s far fuel 0 n).2.stream = closed ch.stream :=
    Channel.read_keeps (P := fun l => closed l = closed ch.stream)
      (fun hn hs => (hlink.closed_read hn).trans hs) h.began fuel 0 n rfl
  have hshut := closed_of_read hlink hn h.began fuel
  have hline := Channel.read_line (s := s) (d := far) hn 0 fuel ch
  obtain ⟨begun', hbegan, hstep, -, -⟩ :=
    Channel.read_serves (hlink.gives coming) hn h.began 0 fuel
  obtain ⟨begun'', hbegan', hnow, -, -⟩ := Channel.read_serves (hlink.gives []) hn h.began 0 fuel
  simp only [ite_self, List.append_nil] at hnow
  rw [hbegan'.owed_eq hbegan] at hnow
  have hahead {l' : τ} (hl : closed l' = closed ch.stream) :
      queue l' ++ (if closed l' then [] else coming) = queue l' ++ coming := by
    split
    · rw [h.rest (hl ▸ ‹_›)]
    · rfl
  rw [hahead rfl, hahead hclosed] at hstep
  have halone : ch.readLine.enter 0 = [0] := by
    rcases h.alone with hnil | hone
    · rw [hnil]
      rfl
    · rw [hone]
      rfl
  rw [halone] at hline
  refine ⟨hclosed, ?_⟩
  generalize ch.read s far fuel 0 n = r at hclosed hshut hline hbegan hstep hnow
  obtain ⟨outcome, ch'⟩ := r
  dsimp only at hclosed hshut hline hbegan hstep hnow
  have hproper := ch.reader.proper_owed s begun
  have hnext (hne : ∀ e, outcome ≠ .failed e) (hline' : ch'.readLine = [] ∨ ch'.readLine = [0]) :
      Flow s queue closed ch'.reader ch'.readLine ch'.stream told pending
        (heard ++ outcome.bytes) coming begun' := by
    have hcontent := hstep.content_eq hn (hproper _) hne
    have hcontent' := hnow.content_eq hn (hproper _) hne
    refine ⟨hbegan, hline', fun hc => h.rest (hclosed ▸ hc), ?_, ?_, fun hopen => ?_⟩
    · rw [List.append_assoc, Reader.content, ← hcontent']
      exact h.lower
    · rw [List.append_assoc, Reader.content, ← hcontent]
      exact h.upper
    · obtain ⟨hclosing, hwhole⟩ := h.whole (hclosed ▸ hopen)
      refine ⟨(hstep.closing hclosing).2, ?_⟩
      rw [List.append_assoc, Reader.content, ← hcontent]
      exact hwhole
  have hend (hnone : outcome = .ready [] ∨ ∃ e, outcome = .failed e) : told <+: heard := by
    have hlower := h.lower
    rw [Reader.content, hnow.content_eq_nil hn (hproper _) hnone, List.append_nil] at hlower
    exact hlower
  cases outcome with
  | waiting =>
    rcases hline with ⟨-, hstays⟩ | ⟨hne, -⟩
    · have hflow := hnext nofun (.inr hstays)
      rw [show Poll.bytes .waiting = [] from rfl, List.append_nil] at hflow
      exact .waiting hflow
    · exact absurd rfl hne
  | ready bs =>
    rcases hline with ⟨hwait, -⟩ | ⟨-, -, hleft⟩
    · cases hwait
    · have hflow := hnext nofun (.inl hleft)
      cases bs with
      | nil =>
        rw [show Poll.bytes (.ready []) = [] from rfl, List.append_nil] at hflow
        exact .ended hflow (hclosed.trans (hshut rfl)) (hend (.inl rfl))
      | cons b bs => exact .some hflow
  | failed e =>
    refine .failed ?_ (hend (.inr ⟨e, rfl⟩))
    by_contra hopen
    rw [Bool.not_eq_true, hclosed] at hopen
    exact (hstep.closing (h.whole hopen).1).1 e rfl

/-! ### Waiting -/

/-- **A reader that has to wait has heard all that was told**, where the link makes it wait only
when it is empty. -/
theorem told_of_waiting (hlink : near.Joins far drop queue closed returning)
    (hforth : far.Forthcoming queue)
    (h : Flow s queue closed ch.reader ch.readLine ch.stream told pending heard coming begun)
    (hn : 0 < n) {fuel : Nat} (hfuel : (queue ch.stream).length < fuel)
    (hwait : (ch.read s far fuel 0 n).1 = .waiting) : told <+: heard := by
  have hfirst : (ch.readLine.enter 0).isFirst 0 = true := by
    rcases h.alone with hnil | hone
    · rw [hnil]
      rfl
    · rw [hone]
      rfl
  have hgives : far.Gives queue := by
    have := hlink.gives []
    simp only [ite_self, List.append_nil] at this
    exact this
  obtain ⟨begun', hbegan, hstep, -, -⟩ := Channel.read_serves hgives hn h.began 0 fuel
  rw [Channel.read_of_first hn hfirst] at hwait hbegan hstep
  obtain ⟨hleft, hempty⟩ := Reader.read_waiting hgives hforth h.began ch.pool hfuel hwait
  rw [hwait] at hstep
  have hcontent : ch.reader.content s begun (queue ch.stream) = [] := by
    have hsame := hstep.eq_of_waiting
    dsimp only at hsame hbegan hleft hempty
    rw [Reader.content, ← hsame, Reader.owed, hempty, List.append_nil, hleft, Owed.content,
      hbegan.parse_data]
    rfl
  have hlower := h.lower
  rw [hcontent, List.append_nil] at hlower
  exact hlower

end Reading

end Flow

end SealedTunnel
