import SealedTunnel.Conn.Channel
import SealedTunnel.Proofs.Conn.Fetching

/-!
# Reading is parsing

A connection that reads over a reliable stream gives its callers what the bytes on the stream carry,
piece by piece, and then the end that they meet. What it has taken off the stream and not yet given
is the first bytes of a frame, or the last bytes of one frame's data; so however often a read has to
wait, and however the stream cuts the bytes, what is owed to the callers stays the same until one of
them is given some of it.

## Main definitions

* `Owed`: what has still to be given to callers, with `Owed.give` and `Owed.serve`
* `Reader.Began`: what a reader has taken of the next frame
* `Reader.owed`: what is owed to the callers of a reader

## Main results

* `Reader.read_serves`: a read gives some of what is owed, or has to wait for it
* `Channel.read_serves`: the same on a connection that tasks share
* `Channel.read_at_once`: over a stream that does not make its reader wait, no read has to
-/

namespace SealedTunnel

/-! ## What is owed -/

/-- What has still to be given to the callers of a connection. -/
structure Owed where
  /-- What is left of the data of a frame that some caller was given the first of. -/
  left : Bytes := []
  /-- What the bytes ahead carry. -/
  parsed : Parsed

namespace Owed

/-- A caller with room for `n` bytes is given the first of what is left of one frame, or learns of
the end. Behind a failure the next bytes are taken for a frame. -/
def give (s : Settings) (n : Nat) (o : Owed) : Poll TunnelError Bytes × Owed :=
  if o.left ≠ [] then (.ready (o.left.take n), { o with left := o.left.drop n })
  else
    match o.parsed with
    | ⟨data :: more, ending, rest⟩ => (.ready (data.take n), ⟨data.drop n, ⟨more, ending, rest⟩⟩)
    | ⟨[], .closed, _⟩ => (.ready [], o)
    | ⟨[], .failed e, rest⟩ => (.failed e, { parsed := s.parse rest })

/-- What callers with room for so many bytes are given, one after the other, up to the first
failure; and what is owed afterwards. -/
def serve (s : Settings) : Owed → List Nat → List (Poll TunnelError Bytes) × Owed
  | o, [] => ([], o)
  | o, n :: ns =>
    match o.give s n with
    | (.failed e, o) => ([.failed e], o)
    | (r, o) =>
      let (rs, o) := serve s o ns
      (r :: rs, o)

/-- What a read of `n` bytes comes to: it has to wait, or is given some of what is owed. -/
inductive Step (s : Settings) (n : Nat) (o : Owed) : Poll TunnelError Bytes → Owed → Prop
  | wait : Step s n o .waiting o
  | give {r : Poll TunnelError Bytes} {o' : Owed} (h : o.give s n = (r, o')) : Step s n o r o'

theorem give_of_left {s : Settings} {n : Nat} {o : Owed} (h : o.left ≠ []) :
    o.give s n = (.ready (o.left.take n), { o with left := o.left.drop n }) := by
  rw [give, if_pos h]

theorem give_ne_waiting (s : Settings) (n : Nat) (o : Owed) : (o.give s n).1 ≠ .waiting := by
  unfold give
  split
  · nofun
  · split <;> nofun

theorem rest_of_give {s : Settings} {n : Nat} {o o' : Owed} {bs : Bytes}
    (h : o.give s n = (.ready bs, o')) : o'.parsed.rest = o.parsed.rest := by
  obtain ⟨left, ⟨data, ending, rest⟩⟩ := o
  unfold give at h
  split at h
  · obtain ⟨-, rfl⟩ := Prod.mk.inj h
    rfl
  · rename_i hleft
    cases data with
    | cons first more =>
      obtain ⟨-, rfl⟩ := Prod.mk.inj h
      rfl
    | nil =>
      cases ending with
      | closed =>
        obtain ⟨-, rfl⟩ := Prod.mk.inj h
        rfl
      | failed e => cases (Prod.mk.inj h).1

theorem Step.eq_of_waiting {s : Settings} {n : Nat} {o o' : Owed} (h : o.Step s n .waiting o') :
    o' = o := by
  cases h with
  | wait => rfl
  | give h => exact absurd (congrArg Prod.fst h) (give_ne_waiting s n o)

theorem Step.give_eq {s : Settings} {n : Nat} {o o' : Owed} {r : Poll TunnelError Bytes}
    (h : o.Step s n r o') (hr : r ≠ .waiting) : o.give s n = (r, o') := by
  cases h with
  | wait => exact absurd rfl hr
  | give h => exact h

end Owed

/-! ## Fetching data -/

/-- The reader has taken `begun` off the stream, the first bytes of a frame: it goes on as fetching
does behind them. -/
structure Reader.Began (s : Settings) (r : Reader) (begun : Bytes) : Prop where
  silent : (r.talk s).Silent
  leaves : s.fetch.Leaves begun (r.talk s)
  hungry : (r.talk s).Hungry
  /-- No frame is begun while data of the last one is left. -/
  apart : r.leftover = [] ∨ r.fetching = none

theorem Reader.began_nil {s : Settings} {r : Reader} (h : r.fetching = none) : r.Began s [] := by
  refine ⟨?_, ?_, ?_, .inr h⟩ <;> rw [r.talk_of_idle h]
  · exact s.silent_fetch
  · exact .refl _
  · exact s.hungry_fetch

/-- What is owed to the callers of a reader that has taken `begun` of a frame, when the bytes behind
that are `ahead`. -/
def Reader.owed (s : Settings) (r : Reader) (begun ahead : Bytes) : Owed :=
  ⟨r.leftover, s.parse (begun ++ ahead)⟩

/-- What a read of `n` bytes does over a stream that gives the bytes `ahead`, by what was owed to
the callers before it. -/
structure ReadStep.Serves {τ : Type} (step : ReadStep τ) (s : Settings) (ahead : τ → Bytes)
    (n : Nat) (owed : Owed) (before : Bytes) : Prop where
  served : ∃ begun, step.reader.Began s begun ∧
    owed.Step s n step.outcome (step.reader.owed s begun (ahead step.source))
  suffix : ahead step.source <:+ before
  /-- A failure leaves the bytes behind the offending ones on the stream. -/
  rest : ∀ {e}, step.outcome = .failed e → ahead step.source = owed.parsed.rest
  /-- A read that is over is in the middle of no frame. -/
  idle : step.outcome ≠ .waiting → step.reader.fetching = none

namespace Reader

variable {τ : Type} {s : Settings} {d : Duplex IoError τ} {ahead : τ → Bytes} {n : Nat}
  {begun : Bytes}

theorem fetchData_serves (h : d.Gives ahead) (fuel : Nat) {fetching : Fetching}
    (hs : fetching.talk.Silent) (hl : s.fetch.Leaves begun fetching.talk)
    (hh : fetching.talk.Hungry) (pool : Pool) (t : τ) :
    (fetchData s n d fuel fetching pool t).Serves s ahead n { parsed := s.parse (begun ++ ahead t) }
      (ahead t) := by
  induction fuel generalizing fetching begun pool t with
  | zero =>
    exact ⟨⟨begun, ⟨hs, hl, hh, .inl rfl⟩, .wait⟩, List.suffix_rfl, nofun, fun h => absurd rfl h⟩
  | succ fuel ih =>
    obtain ⟨hsilent, got, hgot, hleaves⟩ := Talk.advance_of_gives h hs t
    have hon : s.fetch.on (begun ++ ahead t) = _ := (hl _).trans (Talk.on_advance h hs t)
    have hhungry := Talk.hungry_advance h hs t
    have hround := fetchData_round s n d fuel fetching pool t
    generalize fetchData s n d (fuel + 1) fetching pool t = step at hround ⊢
    generalize fetching.talk.advance d t = r at hsilent hgot hleaves hon hhungry hround
    have hsuffix : ahead r.2 <:+ ahead t := ⟨got, hgot.symm⟩
    cases hround with
    | waiting htalk hover =>
      subst htalk
      rcases hleaves with hleaves | ⟨e, he, -⟩
      · refine ⟨⟨begun ++ got, ⟨hsilent, .trans hl hleaves, hhungry hover, .inl rfl⟩, ?_⟩, hsuffix,
          nofun, fun h => absurd rfl h⟩
        rw [owed, List.append_assoc, ← hgot]
        exact .wait
      · exact absurd (congrArg Talk.isOver he) (Bool.eq_false_iff.1 hover)
    | @closed _ t' =>
      have hnil := Settings.eq_nil_of_closed hon
      have hend : ahead t' = [] := by
        rw [hgot] at hnil
        exact (List.append_eq_nil_iff.1 (List.append_eq_nil_iff.1 hnil).2).2
      refine ⟨⟨[], began_nil rfl, .give ?_⟩, hsuffix, nofun, fun _ => rfl⟩
      rw [hnil, owed, hend, List.append_nil, Settings.parse_nil]
      rfl
    | unfetched =>
      rw [Settings.parse_of_unfetched hon]
      exact ⟨⟨[], began_nil rfl, .give rfl⟩, hsuffix, fun _ => rfl, fun _ => rfl⟩
    | undecoded hd =>
      rw [Settings.parse_of_decode_error hon hd]
      exact ⟨⟨[], began_nil rfl, .give rfl⟩, hsuffix, fun _ => rfl, fun _ => rfl⟩
    | empty hd =>
      rw [Settings.parse_of_decode_ok hon hd]
      obtain ⟨served, suffix, rest, idle⟩ :=
        ih (Fetching.silent_start s) (.refl _) (Fetching.hungry_start s) _ _
      exact ⟨served, suffix.trans hsuffix, rest, idle⟩
    | data hd hne =>
      rw [Settings.parse_of_decode_ok hon hd, Parsed.behind_of_ne hne]
      exact ⟨⟨[], began_nil rfl, .give rfl⟩, hsuffix, nofun, fun _ => rfl⟩

/-- What is kept wherever a frame is fetched, fetching data keeps. -/
theorem fetchData_keeps_of {P : τ → Prop} {Q : Talk IoError FetchEnd Bytes → Prop}
    (h : ∀ {talk t}, Q talk → P t → P (talk.advance d t).2) (hstart : Q (Fetching.start s).talk)
    (fuel : Nat) {fetching : Fetching} (hs : Q fetching.talk) (pool : Pool) {t : τ} (ht : P t) :
    P (fetchData s n d fuel fetching pool t).source := by
  induction fuel generalizing fetching pool t with
  | zero => exact ht
  | succ fuel ih =>
    have ht' := h hs ht
    have hround := fetchData_round s n d fuel fetching pool t
    generalize fetchData s n d (fuel + 1) fetching pool t = step at hround ⊢
    generalize fetching.talk.advance d t = r at ht' hround
    cases hround with
    | empty => exact ih hstart _ ht'
    | waiting | closed | unfetched | undecoded | data => exact ht'

/-- What reading the stream keeps, fetching data keeps. -/
theorem fetchData_keeps {P : τ → Prop} (h : ∀ {n t}, 0 < n → P t → P (d.read n t).2) (fuel : Nat)
    {fetching : Fetching} (hs : fetching.talk.Silent) (pool : Pool) {t : τ} (ht : P t) :
    P (fetchData s n d fuel fetching pool t).source :=
  fetchData_keeps_of (fun hs ht => Talk.advance_keeps h hs ht) (Fetching.silent_start s) fuel hs
    pool ht

/-- A round that gives a whole frame has taken a byte at least. -/
theorem length_lt_of_fetched (h : d.Gives ahead) {talk : Talk IoError FetchEnd Bytes}
    (hs : talk.Silent) (hh : talk.Hungry) {payload : Bytes} {t t' : τ}
    (hdone : talk.advance d t = (.done payload, t')) : (ahead t').length < (ahead t).length := by
  have hon := Talk.on_advance h hs t
  rw [hdone] at hon
  obtain ⟨used, hused, hleaves⟩ := Talk.leaves_of_on_eq_ok hon
  have hne : used ≠ [] := by
    rintro rfl
    exact hh _ _ (hleaves [])
  rw [hused, List.length_append]
  exact Nat.lt_add_of_pos_left (List.length_pos_iff.2 hne)

/-- Over a stream that does not make its reader wait, data is fetched at once: there are no more
frames than bytes. -/
theorem fetchData_at_once (h : d.Gives ahead) {P : τ → Prop} (hd : d.AtOnce P) {fuel : Nat}
    {fetching : Fetching} (hs : fetching.talk.Silent) (hh : fetching.talk.Hungry) (pool : Pool)
    {t : τ} (ht : P t) (hfuel : (ahead t).length < fuel) :
    (fetchData s n d fuel fetching pool t).outcome ≠ .waiting := by
  induction fuel generalizing fetching pool t with
  | zero => exact absurd hfuel (Nat.not_lt_zero _)
  | succ fuel ih =>
    have hover := Talk.isOver_advance hd hs ht
    have ht' := Talk.advance_keeps hd.keeps hs ht
    have hround := fetchData_round s n d fuel fetching pool t
    generalize fetchData s n d (fuel + 1) fetching pool t = step at hround ⊢
    generalize hr : fetching.talk.advance d t = r at hover ht' hround
    cases hround with
    | waiting htalk hwait => exact absurd (hover.symm.trans hwait) Bool.true_eq_false.mp
    | closed | unfetched | undecoded | data => nofun
    | empty =>
      have hless := length_lt_of_fetched h hs hh hr
      exact ih (Fetching.silent_start s) (Fetching.hungry_start s) _ ht' (by omega)

theorem read_keeps {P : τ → Prop} (h : ∀ {n t}, 0 < n → P t → P (d.read n t).2) (fuel : Nat)
    {r : Reader} (hr : r.Began s begun) (pool : Pool) {t : τ} (ht : P t) :
    P (r.read s n d fuel pool t).source := by
  rw [read]
  split
  · exact fetchData_keeps h fuel hr.silent pool ht
  · exact ht

theorem read_at_once (h : d.Gives ahead) {P : τ → Prop} (hd : d.AtOnce P) {fuel : Nat}
    {r : Reader} (hr : r.Began s begun) (pool : Pool) {t : τ} (ht : P t)
    (hfuel : (ahead t).length < fuel) : (r.read s n d fuel pool t).outcome ≠ .waiting := by
  rw [read]
  split
  · exact fetchData_at_once h hd hr.silent hr.hungry pool ht hfuel
  · nofun

/-- **A read gives some of what is owed**, or leaves all of it as it was. -/
theorem read_serves (h : d.Gives ahead) (fuel : Nat) {r : Reader} (hr : r.Began s begun)
    (pool : Pool) (t : τ) :
    (r.read s n d fuel pool t).Serves s ahead n (r.owed s begun (ahead t)) (ahead t) := by
  rw [read]
  by_cases hleft : r.leftover = []
  · rw [if_pos (List.isEmpty_iff.2 hleft), owed, hleft]
    exact fetchData_serves h fuel hr.silent hr.leaves hr.hungry pool t
  · have hnone := hr.apart.resolve_left hleft
    rw [if_neg (mt List.isEmpty_iff.1 hleft)]
    exact ⟨⟨begun, ⟨hr.silent, hr.leaves, hr.hungry, .inr hnone⟩, .give (Owed.give_of_left hleft)⟩,
      List.suffix_rfl, nofun, fun _ => hnone⟩

end Reader

/-! ## Reading on a connection -/

namespace Channel

variable {τ : Type} {s : Settings} {d : Duplex IoError τ} {ahead : τ → Bytes} {n owner fuel : Nat}
  {begun : Bytes} {ch : Channel τ}

/-- Whoever does not have the turn waits in the line. -/
theorem read_of_not_first (hn : 0 < n) (hf : (ch.readLine.enter owner).isFirst owner = false) :
    ch.read s d fuel owner n = (.waiting, { ch with readLine := ch.readLine.enter owner }) := by
  rw [read, if_neg (Nat.ne_of_gt hn)]
  simp only [hf, Bool.not_false, if_true]

/-- Whoever has the turn reads, and keeps the turn if the read has to wait. -/
theorem read_of_first (hn : 0 < n) (hf : (ch.readLine.enter owner).isFirst owner = true) :
    let step := ch.reader.read s n d fuel ch.pool ch.stream
    ch.read s d fuel owner n =
      (step.outcome,
        { ch with
          reader := step.reader
          pool := step.pool
          stream := step.source
          readLine :=
            if step.outcome = .waiting then ch.readLine.enter owner
            else (ch.readLine.enter owner).leave owner }) := by
  rw [read, if_neg (Nat.ne_of_gt hn)]
  simp only [hf, Bool.not_true]
  cases (ch.reader.read s n d fuel ch.pool ch.stream).outcome with
  | waiting => rfl
  | ready | failed => rfl

/-- **A caller is given some of what is owed**, or waits and leaves all of it as it was. -/
theorem read_serves (h : d.Gives ahead) (hn : 0 < n) (hr : ch.reader.Began s begun)
    (owner fuel : Nat) :
    let r := ch.read s d fuel owner n
    ∃ begun', r.2.reader.Began s begun' ∧
      (ch.reader.owed s begun (ahead ch.stream)).Step s n r.1
        (r.2.reader.owed s begun' (ahead r.2.stream)) ∧
      ahead r.2.stream <:+ ahead ch.stream ∧
      ∀ e, r.1 = .failed e → ahead r.2.stream = (s.parse (begun ++ ahead ch.stream)).rest := by
  cases hf : (ch.readLine.enter owner).isFirst owner with
  | false =>
    rw [read_of_not_first hn hf]
    exact ⟨begun, hr, .wait, List.suffix_rfl, nofun⟩
  | true =>
    rw [read_of_first hn hf]
    obtain ⟨⟨begun', hbegan, hstep⟩, suffix, rest, -⟩ :=
      Reader.read_serves h fuel hr ch.pool ch.stream
    exact ⟨begun', hbegan, hstep, suffix, fun e he => rest he⟩

/-- Over a stream that does not make its reader wait, whoever has the turn need not wait either. -/
theorem read_at_once (h : d.Gives ahead) {P : τ → Prop} (hd : d.AtOnce P) (hn : 0 < n)
    (hr : ch.reader.Began s begun) (hf : (ch.readLine.enter owner).isFirst owner = true)
    (ht : P ch.stream) (hfuel : (ahead ch.stream).length < fuel) :
    let r := ch.read s d fuel owner n
    r.1 ≠ .waiting ∧ r.2.readLine = (ch.readLine.enter owner).leave owner ∧
      r.2.reader.fetching = none := by
  rw [read_of_first hn hf]
  have hne := Reader.read_at_once (n := n) h hd hr ch.pool ht hfuel
  refine ⟨hne, ?_, (Reader.read_serves h fuel hr ch.pool ch.stream).idle hne⟩
  show (if _ then _ else _ : ReadLine) = _
  rw [if_neg hne]

/-- A reader stays in the line until its read is over, and only whoever has the turn comes that
far. -/
theorem read_line (hn : 0 < n) (owner fuel : Nat) (ch : Channel τ) :
    let r := ch.read s d fuel owner n
    let line := ch.readLine.enter owner
    r.1 = .waiting ∧ r.2.readLine = line ∨
      r.1 ≠ .waiting ∧ line.isFirst owner = true ∧ r.2.readLine = line.leave owner := by
  dsimp only
  cases hf : (ch.readLine.enter owner).isFirst owner with
  | false =>
    rw [read_of_not_first hn hf]
    exact .inl ⟨rfl, rfl⟩
  | true =>
    rw [read_of_first hn hf]
    dsimp only
    split
    · exact .inl ⟨‹_›, rfl⟩
    · exact .inr ⟨‹_›, rfl, rfl⟩

/-- What reading the stream keeps, reading on the connection keeps. -/
theorem read_keeps {P : τ → Prop} (h : ∀ {n t}, 0 < n → P t → P (d.read n t).2)
    (hr : ch.reader.Began s begun) (fuel owner n : Nat) (ht : P ch.stream) :
    P (ch.read s d fuel owner n).2.stream := by
  rcases Nat.eq_zero_or_pos n with rfl | hn
  · exact ht
  cases hf : (ch.readLine.enter owner).isFirst owner with
  | false =>
    rw [read_of_not_first hn hf]
    exact ht
  | true =>
    rw [read_of_first hn hf]
    exact Reader.read_keeps h fuel hr ch.pool ht

/-- Reading leaves the writers and the random bytes alone. -/
theorem read_writers (s : Settings) (d : Duplex IoError τ) (fuel owner n : Nat) (ch : Channel τ) :
    (ch.read s d fuel owner n).2.writeLine = ch.writeLine ∧
      (ch.read s d fuel owner n).2.entropy = ch.entropy := by
  rcases Nat.eq_zero_or_pos n with rfl | hn
  · exact ⟨rfl, rfl⟩
  cases hf : (ch.readLine.enter owner).isFirst owner with
  | false =>
    rw [read_of_not_first hn hf]
    exact ⟨rfl, rfl⟩
  | true =>
    rw [read_of_first hn hf]
    exact ⟨rfl, rfl⟩

end Channel

end SealedTunnel
