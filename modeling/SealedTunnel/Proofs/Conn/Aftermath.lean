import SealedTunnel.Proofs.Conn.Serving

/-!
# Reading on behind a failure

A connection keeps no record of a read that failed. The next read takes the bytes that the failure
left on the stream for a frame, so a caller that goes on is told what a fresh connection would be
told that had only these bytes. The bytes on a stream thus fall into stretches, each with its own
data and its own end; failures are final only if no stretch behind the first carries any data.

## Main definitions

* `Stretch`, `Settings.stretches`: what the bytes carry up to each of the failures
* `Told`: what callers are told, stretch by stretch
* `Fatal`: no read behind a failure gives data
* `Channel.readOn`: tasks read, again and again, whatever comes of it

## Main results

* `Told.split`, `Told.fatal`: what is told behind a failure, and when it is nothing
* `Channel.readOn_told`: which reads behind a failure give data, and which data
* `Channel.readOn_behind_refused_frames`: frames behind refused ones are given to the caller
-/

namespace SealedTunnel

/-! ## Stretches -/

/-- What the bytes behind one failure carry, up to the next one. -/
structure Stretch where
  data : Bytes
  ending : FetchEnd
  deriving DecidableEq

namespace Parsed

variable {data : Bytes} {p : Parsed}

@[simp] theorem ending_behind : (p.behind data).ending = p.ending := by
  unfold behind
  split <;> rfl

@[simp] theorem rest_behind : (p.behind data).rest = p.rest := by
  unfold behind
  split <;> rfl

/-- All data up to the end, and the end. -/
def stretch (p : Parsed) : Stretch :=
  ⟨p.data.flatten, p.ending⟩

end Parsed

namespace Settings

variable {s : Settings} {wire rest : Bytes} {e : TunnelError}

/-- Where no frame could be fetched, the header is gone, or all of the bytes are. -/
theorem rest_of_unfetched {ending : FetchEnd} (h : s.fetch.on wire = (.error ending, rest)) :
    rest = [] ∨ rest = wire.drop Header.size := by
  rw [on_fetch] at h
  dsimp only at h
  split at h
  · exact .inl (Prod.mk.inj h).2.symm
  · cases hd : Header.decode (wire.take Header.size) with
    | error fault =>
      simp only [hd] at h
      exact .inr (Prod.mk.inj h).2.symm
    | ok length =>
      simp only [hd] at h
      split at h
      · exact .inr (Prod.mk.inj h).2.symm
      · split at h
        · exact .inl (Prod.mk.inj h).2.symm
        · cases (Prod.mk.inj h).1

/-- A failure takes bytes with it. -/
theorem length_rest_parse_lt (h : (s.parse wire).ending = .failed e) :
    (s.parse wire).rest.length < wire.length := by
  induction wire using s.frames_induction with
  | @unfetched wire rest ending hf =>
    rw [parse_of_unfetched hf] at h ⊢
    obtain rfl : ending = .failed e := h
    have hpos : 0 < wire.length := by
      rw [List.length_pos_iff]
      rintro rfl
      cases (Prod.mk.inj hf).1
    rcases rest_of_unfetched hf with rfl | rfl
    · exact hpos
    · simp only [List.length_drop, Header.size]
      omega
  | undecoded hf hd =>
    rw [parse_of_decode_error hf hd]
    obtain ⟨used, rfl, hused⟩ := Talk.leaves_of_on_eq_ok hf
    have hpos := List.length_pos_iff.2 (ne_nil_of_leaves hused)
    simp only [List.length_append]
    omega
  | @frame used payload rest data hused hd ih =>
    rw [parse_of_decode_ok (hused rest) hd] at h ⊢
    simp only [Parsed.ending_behind, Parsed.rest_behind, List.length_append] at h ⊢
    have := ih h
    omega

/-- What the bytes carry, failures or not: behind each failure a new stretch begins with the bytes
that it has left. -/
def stretches (s : Settings) (wire : Bytes) : List Stretch :=
  (s.parse wire).stretch ::
    match _h : (s.parse wire).ending with
    | .closed => []
    | .failed _ => s.stretches (s.parse wire).rest
termination_by wire.length
decreasing_by exact length_rest_parse_lt _h

theorem stretches_of_closed (h : (s.parse wire).ending = .closed) :
    s.stretches wire = [(s.parse wire).stretch] := by
  rw [stretches]
  split
  · rfl
  · rename_i he
    rw [h] at he
    cases he

theorem stretches_of_failed (h : (s.parse wire).ending = .failed e) :
    s.stretches wire = (s.parse wire).stretch :: s.stretches (s.parse wire).rest := by
  rw [stretches]
  split
  · rename_i he
    rw [h] at he
    cases he
  · rfl

end Settings

/-! ## Telling the stretches -/

/-- The failures among some outcomes. -/
def Poll.isFailed : Poll TunnelError Bytes → Bool
  | .failed _ => true
  | .ready _ | .waiting => false

/-- What callers are told, one after the other, is what the stretches carry: pieces of their data
and, behind all of it, their failure. Whoever has to wait, has no room or comes behind the last
stretch is told nothing of them. -/
inductive Told : List Stretch → List (Poll TunnelError Bytes) → Prop
  | nil {stretches : List Stretch} : Told stretches []
  | idle {stretches : List Stretch} {r : Poll TunnelError Bytes}
      {rs : List (Poll TunnelError Bytes)} (hnone : r.bytes = []) (hfine : r.isFailed = false)
      (h : Told stretches rs) : Told stretches (r :: rs)
  | piece {bs data : Bytes} {ending : FetchEnd} {behind : List Stretch}
      {rs : List (Poll TunnelError Bytes)} (h : Told (⟨data, ending⟩ :: behind) rs) :
      Told (⟨bs ++ data, ending⟩ :: behind) (.ready bs :: rs)
  | failed {e : TunnelError} {behind : List Stretch} {rs : List (Poll TunnelError Bytes)}
      (h : Told behind rs) : Told (⟨[], .failed e⟩ :: behind) (.failed e :: rs)

/-- Once a read has failed, no later one gives data. -/
def Fatal (outcomes : List (Poll TunnelError Bytes)) : Prop :=
  outcomes.Pairwise fun r later => r.isFailed = true → later.bytes = []

namespace Told

variable {stretches : List Stretch} {rs front back : List (Poll TunnelError Bytes)}
  {e : TunnelError}

/-- All data that callers are told is data of the stretches, from the first byte on. -/
theorem bytes_prefix (h : Told stretches rs) :
    rs.flatMap Poll.bytes <+: stretches.flatMap Stretch.data := by
  induction h with
  | nil => exact List.nil_prefix
  | idle hnone _ _ ih =>
    rw [List.flatMap_cons, hnone]
    exact ih
  | piece h ih =>
    simp only [List.flatMap_cons, List.append_assoc] at ih ⊢
    exact (List.prefix_append_right_inj _).2 ih
  | failed h ih => exact ih

/-- **A failure is told behind all the data of the stretches up to its own**, and what is told
behind it is told of the stretches behind. -/
theorem split (h : Told stretches (front ++ .failed e :: back)) :
    ∃ before data behind, stretches = before ++ ⟨data, .failed e⟩ :: behind ∧
      before.length = front.countP Poll.isFailed ∧
      front.flatMap Poll.bytes = before.flatMap Stretch.data ++ data ∧ Told behind back := by
  generalize hrs : front ++ .failed e :: back = rs at h
  induction h generalizing front with
  | nil => exact absurd hrs (by simp)
  | @idle stretches r rs hnone hfine h ih =>
    cases front with
    | nil =>
      obtain ⟨rfl, -⟩ := List.cons.inj hrs
      cases hfine
    | cons r front =>
      obtain ⟨rfl, hmore⟩ := List.cons.inj hrs
      obtain ⟨before, data, behind, hsplit, hcount, hbytes, htold⟩ := ih hmore
      refine ⟨before, data, behind, hsplit, ?_, ?_, htold⟩
      · simpa [hfine] using hcount
      · simpa [hnone] using hbytes
  | @piece bs data ending behind rs h ih =>
    cases front with
    | nil => cases (List.cons.inj hrs).1
    | cons r front =>
      obtain ⟨rfl, hmore⟩ := List.cons.inj hrs
      obtain ⟨before, data', behind', hsplit, hcount, hbytes, htold⟩ := ih hmore
      cases before with
      | nil =>
        obtain ⟨hfirst, rfl⟩ := List.cons.inj hsplit
        obtain ⟨rfl, rfl⟩ := Stretch.mk.inj hfirst
        refine ⟨[], bs ++ data, behind, rfl, ?_, ?_, htold⟩
        · simpa [Poll.isFailed] using hcount
        · simpa [Poll.bytes] using hbytes
      | cons first before =>
        obtain ⟨rfl, rfl⟩ := List.cons.inj hsplit
        refine ⟨⟨bs ++ data, ending⟩ :: before, data', behind', rfl, ?_, ?_, htold⟩
        · simpa [Poll.isFailed] using hcount
        · simpa [Poll.bytes] using hbytes
  | @failed e' behind rs h ih =>
    cases front with
    | nil =>
      obtain ⟨he, rfl⟩ := List.cons.inj hrs
      obtain rfl := Poll.failed.inj he
      exact ⟨[], [], behind, rfl, rfl, rfl, h⟩
    | cons r front =>
      obtain ⟨rfl, hmore⟩ := List.cons.inj hrs
      obtain ⟨before, data, behind', rfl, hcount, hbytes, htold⟩ := ih hmore
      refine ⟨⟨[], .failed e'⟩ :: before, data, behind', rfl, ?_, ?_, htold⟩
      · simpa [Poll.isFailed, List.countP_cons] using hcount
      · simpa [Poll.bytes] using hbytes

/-- Where the stretches carry no data, no data is told. -/
theorem bytes_eq_nil (h : Told stretches rs) (hnone : ∀ stretch ∈ stretches, stretch.data = []) :
    ∀ r ∈ rs, r.bytes = [] := by
  have hall : stretches.flatMap Stretch.data = [] := List.flatMap_eq_nil_iff.2 hnone
  have hprefix := h.bytes_prefix
  rw [hall, List.prefix_nil] at hprefix
  exact List.flatMap_eq_nil_iff.1 hprefix

/-- **Failures are final if no stretch behind the first carries data.** -/
theorem fatal (h : Told stretches rs)
    (hnone : ∀ stretch ∈ stretches.tail, stretch.data = []) : Fatal rs := by
  induction h with
  | nil => exact .nil
  | idle _ hfine _ ih => exact .cons (fun _ _ hfailed => by simp [hfine] at hfailed) (ih hnone)
  | piece h ih => exact .cons nofun (ih hnone)
  | failed h ih =>
    refine .cons (fun r hr _ => h.bytes_eq_nil hnone r hr) (ih fun stretch hs => ?_)
    exact hnone stretch (List.mem_of_mem_tail hs)

end Told

/-! ## Serving the stretches -/

namespace Owed

variable {s : Settings} {o : Owed} {wire : Bytes} {e : TunnelError}

/-- The stretches that are owed to the callers: the first of them may have been begun. -/
def stretches (s : Settings) (o : Owed) : List Stretch :=
  ⟨o.content, o.parsed.ending⟩ ::
    match o.parsed.ending with
    | .closed => []
    | .failed _ => s.stretches o.parsed.rest

theorem stretches_parse (s : Settings) (wire : Bytes) :
    Owed.stretches s { parsed := s.parse wire } = s.stretches wire := by
  cases h : (s.parse wire).ending with
  | closed =>
    rw [Settings.stretches_of_closed h]
    simp [stretches, Parsed.stretch, content, h]
  | failed e =>
    rw [Settings.stretches_of_failed h]
    simp [stretches, Parsed.stretch, content, h]

theorem proper_parse (s : Settings) (wire : Bytes) : Proper { parsed := s.parse wire } := by
  intro data hd
  exact Settings.ne_nil_of_mem_parse hd

/-- **Whoever is given some of what is owed is told it of the stretches**; what is left of them is
told to those that come after. -/
theorem told_cons (ho : o.Proper) {n : Nat} (hn : 0 < n) {rs : List (Poll TunnelError Bytes)}
    (h : Told ((o.give s n).2.stretches s) rs) : Told (o.stretches s) ((o.give s n).1 :: rs) := by
  have hg := given_give (s := s) hn ho
  generalize o.give s n = g at hg h
  obtain ⟨r, o'⟩ := g
  dsimp only at hg h ⊢
  cases hg with
  | piece hne hcontent hending hrest hproper =>
    rw [stretches, hending, hrest] at h
    rw [stretches, hcontent]
    exact .piece h
  | closed hcontent hending => exact .idle rfl rfl h
  | failed hcontent hending =>
    rw [stretches_parse] at h
    rw [stretches, hcontent, hending]
    exact .failed h

theorem giveAll_append (s : Settings) (o : Owed) (ns ms : List Nat) :
    o.giveAll s (ns ++ ms) =
      ((o.giveAll s ns).1 ++ ((o.giveAll s ns).2.giveAll s ms).1,
        ((o.giveAll s ns).2.giveAll s ms).2) := by
  induction ns generalizing o with
  | nil => rfl
  | cons n ns ih => rw [List.cons_append, giveAll_cons, ih, giveAll_cons, List.cons_append]

/-! ### Reading up to a failure -/

/-- Rooms that each take a whole frame, and one more for the failure. -/
def roomsFor (data : List Bytes) : List Nat :=
  data.map List.length ++ [1]

theorem pos_of_mem_roomsFor {data : List Bytes} (h : ∀ bs ∈ data, bs ≠ []) :
    ∀ n ∈ roomsFor data, 0 < n := by
  intro n hn
  rcases List.mem_append.1 hn with hn | hn
  · obtain ⟨bs, hbs, rfl⟩ := List.mem_map.1 hn
    exact List.length_pos_iff.2 (h bs hbs)
  · rw [List.mem_singleton.1 hn]
    exact Nat.one_pos

/-- With these rooms a caller comes as far as the failure, and to the bytes behind it. -/
theorem giveAll_roomsFor (data : List Bytes) (rest : Bytes) :
    giveAll s { parsed := ⟨data, .failed e, rest⟩ } (roomsFor data) =
      (data.map .ready ++ [.failed e], { parsed := s.parse rest }) := by
  induction data with
  | nil => rfl
  | cons first more ih =>
    have hgive : Owed.give s first.length { parsed := ⟨first :: more, .failed e, rest⟩ } =
        (.ready first, { parsed := ⟨more, .failed e, rest⟩ }) := by
      simp [give]
    show giveAll s _ (first.length :: roomsFor more) = _
    rw [giveAll_cons, hgive, ih]
    rfl

/-- Some caller is given data if any of the stretches carries some. -/
theorem exists_bytes (h : ∃ stretch ∈ s.stretches wire, stretch.data ≠ []) :
    ∃ sizes, (∀ n ∈ sizes, 0 < n) ∧
      ∃ r ∈ (giveAll s { parsed := s.parse wire } sizes).1, r.bytes ≠ [] := by
  -- By induction on the stretches: those without data are passed by reading their failures.
  induction wire using Settings.stretches.induct s with
  | case1 wire ih =>
    have hproper := proper_parse s wire
    generalize hp : s.parse wire = p at hproper
    obtain ⟨data, ending, rest⟩ := p
    by_cases hnil : data = []
    · subst hnil
      cases ending with
      | closed =>
        rw [Settings.stretches_of_closed (by rw [hp])] at h
        obtain ⟨stretch, hmem, hne⟩ := h
        rw [List.mem_singleton.1 hmem, hp] at hne
        exact absurd rfl hne
      | failed e =>
        rw [Settings.stretches_of_failed (by rw [hp])] at h
        obtain ⟨stretch, hmem, hne⟩ := h
        rcases List.mem_cons.1 hmem with rfl | hmem
        · rw [hp] at hne
          exact absurd rfl hne
        · obtain ⟨sizes, hs, r, hr, hbytes⟩ := ih e (by rw [hp]) ⟨stretch, hmem, hne⟩
          rw [hp] at hr
          refine ⟨1 :: sizes, ?_, r, .tail _ hr, hbytes⟩
          simpa using hs
    · obtain ⟨first, more, rfl⟩ := List.exists_cons_of_ne_nil hnil
      have hfirst : first ≠ [] := hproper first List.mem_cons_self
      refine ⟨[1], by simp, .ready (first.take 1), by simp [giveAll, give], ?_⟩
      exact take_ne_nil Nat.one_pos hfirst

/-- **Failures are not final if a stretch behind the first carries data**: some caller is given
it. -/
theorem exists_not_fatal (h : ∃ stretch ∈ (s.stretches wire).tail, stretch.data ≠ []) :
    ∃ sizes, (∀ n ∈ sizes, 0 < n) ∧
      ¬ Fatal (giveAll s { parsed := s.parse wire } sizes).1 := by
  have hproper := proper_parse s wire
  generalize hp : s.parse wire = p at hproper
  obtain ⟨data, ending, rest⟩ := p
  cases ending with
  | closed =>
    rw [Settings.stretches_of_closed (by rw [hp])] at h
    simp at h
  | failed e =>
    rw [Settings.stretches_of_failed (by rw [hp]), List.tail_cons, hp] at h
    obtain ⟨sizes, hs, r, hr, hbytes⟩ := exists_bytes h
    refine ⟨roomsFor data ++ sizes, ?_, ?_⟩
    · intro n hn
      rcases List.mem_append.1 hn with hn | hn
      · exact pos_of_mem_roomsFor hproper n hn
      · exact hs n hn
    · rw [giveAll_append, giveAll_roomsFor]
      intro hfatal
      have hbehind := (List.pairwise_append.1 hfatal).2.2 (.failed e) (by simp) r hr
      exact hbytes (hbehind rfl)

end Owed

/-! ## Reading on -/

/-- The reads of a log that had room for something and did not have to wait. -/
def served (log : List (Nat × Poll TunnelError Bytes)) : List (Nat × Poll TunnelError Bytes) :=
  log.filter fun r => r.1 ≠ 0 ∧ r.2 ≠ .waiting

section Served

variable {log : List (Nat × Poll TunnelError Bytes)}

theorem served_eq_self (hroom : ∀ r ∈ log, r.1 ≠ 0) (hwait : ∀ r ∈ log, r.2 ≠ .waiting) :
    served log = log := by
  refine List.filter_eq_self.2 fun r hr => ?_
  simp [hroom r hr, hwait r hr]

theorem served_cons_of_waiting (n : Nat) : served ((n, .waiting) :: log) = served log := by
  simp [served]

theorem served_cons {n : Nat} {r : Poll TunnelError Bytes} (hn : 0 < n) (hr : r ≠ .waiting) :
    served ((n, r) :: log) = (n, r) :: served log := by
  simp [served, Nat.ne_of_gt hn, hr]

end Served

namespace Channel

variable {τ : Type}

/-- Tasks read one after the other, each with room for so many bytes, and go on whatever comes of
it. -/
def readOn (s : Settings) (d : Duplex IoError τ) (fuel : Nat) :
    (calls : List (Nat × Nat)) → Channel τ → List (Nat × Poll TunnelError Bytes) × Channel τ
  | [], ch => ([], ch)
  | (owner, n) :: calls, ch =>
    let (r, ch) := ch.read s d fuel owner n
    let (log, ch) := readOn s d fuel calls ch
    ((n, r) :: log, ch)

variable {s : Settings} {d : Duplex IoError τ} {ahead : τ → Bytes} {fuel owner : Nat}

theorem readOn_cons (s : Settings) (d : Duplex IoError τ) (fuel owner n : Nat)
    (calls : List (Nat × Nat)) (ch : Channel τ) :
    (ch.readOn s d fuel ((owner, n) :: calls)).1 =
      (n, (ch.read s d fuel owner n).1) ::
        ((ch.read s d fuel owner n).2.readOn s d fuel calls).1 := rfl

theorem rooms_readOn (s : Settings) (d : Duplex IoError τ) (fuel : Nat) (calls : List (Nat × Nat))
    (ch : Channel τ) : (ch.readOn s d fuel calls).1.map Prod.fst = calls.map Prod.snd := by
  induction calls generalizing ch with
  | nil => rfl
  | cons call calls ih =>
    obtain ⟨owner, n⟩ := call
    rw [readOn_cons, List.map_cons, List.map_cons, ih]

/-- **All reads together give what is owed**, one after the other, failures or not, and callers are
told the stretches of it. -/
theorem readOn_serves (h : d.Gives ahead) (fuel : Nat) (calls : List (Nat × Nat)) {ch : Channel τ}
    {begun : Bytes} (hr : ch.reader.Began s begun) :
    let log := (ch.readOn s d fuel calls).1
    let owed := ch.reader.owed s begun (ahead ch.stream)
    (served log).map Prod.snd = (owed.giveAll s ((served log).map Prod.fst)).1 ∧
      Told (owed.stretches s) (log.map Prod.snd) := by
  induction calls generalizing ch begun with
  | nil => exact ⟨rfl, .nil⟩
  | cons call calls ih =>
    obtain ⟨owner, n⟩ := call
    rw [readOn_cons]
    rcases Nat.eq_zero_or_pos n with rfl | hn
    · obtain ⟨hgives, htold⟩ := ih hr
      exact ⟨hgives, .idle rfl rfl htold⟩
    obtain ⟨begun', hr', hstep, -, -⟩ := read_serves h hn hr owner fuel
    obtain ⟨hgives, htold⟩ := ih hr'
    have hproper : (ch.reader.owed s begun (ahead ch.stream)).Proper := by
      intro data hdata
      exact Settings.ne_nil_of_mem_parse hdata
    generalize ch.read s d fuel owner n = r at hr' hstep hgives htold
    obtain ⟨outcome, ch'⟩ := r
    dsimp only at hr' hstep hgives htold ⊢
    by_cases hwait : outcome = .waiting
    · subst hwait
      rw [hstep.eq_of_waiting] at hgives htold
      rw [served_cons_of_waiting]
      exact ⟨hgives, .idle rfl rfl htold⟩
    · have hgive := hstep.give_eq hwait
      constructor
      · rw [served_cons hn hwait, List.map_cons, List.map_cons, hgives, Owed.giveAll_cons, hgive]
      · have htold := Owed.told_cons (s := s) (n := n) hproper hn (by rwa [hgive])
        rw [hgive] at htold
        exact htold

/-- Over a stream that does not make its reader wait, no read of a caller that is alone waits. -/
theorem readOn_at_once (h : d.Gives ahead) {P : τ → Prop} (hd : d.AtOnce P) (owner : Nat)
    (sizes : List Nat) {ch : Channel τ} (hidle : ch.reader.fetching = none)
    (hline : ch.readLine = []) (ht : P ch.stream) (hfuel : (ahead ch.stream).length < fuel) :
    ∀ r ∈ (ch.readOn s d fuel (sizes.map (owner, ·))).1, r.2 ≠ .waiting := by
  induction sizes generalizing ch with
  | nil => nofun
  | cons n ns ih =>
    rw [List.map_cons, readOn_cons]
    intro r hr
    rcases Nat.eq_zero_or_pos n with rfl | hn
    · rcases List.mem_cons.1 hr with rfl | hr
      · nofun
      · exact ih hidle hline ht hfuel r hr
    have hbegan := Reader.began_nil (s := s) hidle
    have hfirst : (ch.readLine.enter owner).isFirst owner = true := by
      rw [hline]
      exact decide_eq_true rfl
    obtain ⟨hne, hline', hidle'⟩ := read_at_once h hd hn hbegan hfirst ht hfuel
    have ht' := read_keeps hd.keeps hbegan fuel owner n ht
    obtain ⟨-, -, -, hsuffix, -⟩ := read_serves h hn hbegan owner fuel
    rw [hline, ReadLine.leave_enter_nil] at hline'
    rcases List.mem_cons.1 hr with rfl | hr
    · exact hne
    · exact ih hidle' hline' ht' (Nat.lt_of_le_of_lt hsuffix.length_le hfuel) r hr

/-- **What reading on behind a failure comes to.** Whatever the bytes on the stream, however the
stream cuts them and whichever tasks read how often: behind a failure, callers are told what the
bytes carry that it has left, as on a fresh connection. The failure comes behind all of the data up
to it, and the data that is given behind it is that of the stretches behind its own, from the first
byte on. So failures are final where no stretch behind the first carries data, whoever reads; and
where one does, some reads on the same connection give data behind a failure. -/
theorem readOn_told (h : d.Gives ahead) (s : Settings) (fuel : Nat) (calls : List (Nat × Nat))
    {ch : Channel τ} (hfresh : ch.reader = {}) :
    let stretches := s.stretches (ahead ch.stream)
    let log := (ch.readOn s d fuel calls).1
    (served log).map Prod.snd =
        (Owed.giveAll s { parsed := s.parse (ahead ch.stream) } ((served log).map Prod.fst)).1 ∧
      (∀ front e back, log.map Prod.snd = front ++ .failed e :: back →
        ∃ before data behind, stretches = before ++ ⟨data, .failed e⟩ :: behind ∧
          before.length = front.countP Poll.isFailed ∧
          front.flatMap Poll.bytes = before.flatMap Stretch.data ++ data ∧
          back.flatMap Poll.bytes <+: behind.flatMap Stretch.data) ∧
      ((∀ stretch ∈ stretches.tail, stretch.data = []) → Fatal (log.map Prod.snd)) ∧
      ∀ P, d.AtOnce P → P ch.stream → ch.readLine = [] → (ahead ch.stream).length < fuel →
        (∃ stretch ∈ stretches.tail, stretch.data ≠ []) →
        ∃ others, ¬ Fatal ((ch.readOn s d fuel others).1.map Prod.snd) := by
  intro stretches log
  have hidle : ch.reader.fetching = none := by rw [hfresh]
  have howed : ch.reader.owed s [] (ahead ch.stream) = { parsed := s.parse (ahead ch.stream) } := by
    rw [hfresh]
    rfl
  have hbegan := Reader.began_nil (s := s) hidle
  have hserves := fun calls => readOn_serves h fuel calls hbegan
  simp only [howed, Owed.stretches_parse] at hserves
  obtain ⟨hgives, htold⟩ := hserves calls
  refine ⟨hgives, ?_, htold.fatal, ?_⟩
  · intro front e back hsplit
    rw [hsplit] at htold
    obtain ⟨before, data, behind, hstretches, hcount, hbytes, hback⟩ := htold.split
    exact ⟨before, data, behind, hstretches, hcount, hbytes, hback.bytes_prefix⟩
  · intro P hd ht hline hfuel hsome
    obtain ⟨sizes, hsizes, hnot⟩ := Owed.exists_not_fatal hsome
    refine ⟨sizes.map (0, ·), fun hfatal => hnot ?_⟩
    have hwait := readOn_at_once (s := s) h hd 0 sizes hidle hline ht hfuel
    have hrooms := rooms_readOn s d fuel (sizes.map (0, ·)) ch
    have hgives := (hserves (sizes.map (0, ·))).1
    simp only [List.map_map, Function.comp_def, List.map_id'] at hrooms
    generalize (ch.readOn s d fuel (sizes.map (0, ·))).1 = log at hfatal hwait hrooms hgives
    have hroom : ∀ r ∈ log, r.1 ≠ 0 := by
      intro r hr
      have hmem : r.1 ∈ sizes := hrooms ▸ List.mem_map_of_mem hr
      exact Nat.ne_of_gt (hsizes _ hmem)
    rw [served_eq_self hroom hwait, hrooms] at hgives
    rw [← hgives]
    exact hfatal

/-- A compressed body with an unknown marker, then a frame with one byte of data and a header that
is cut off. -/
theorem readOn_told_unknown_marker :
    let s : Settings := { obfuscation := .disabled, compression := .snappy }
    let wire := Wire.frame [7, 65] ++ Wire.frame [0, 65] ++ [0, 0]
    let ch : Channel Pipe :=
      { pool := .empty 4 0, entropy := .ofBytes []
        stream := { queue := ByteQueue.empty.push wire, capacity := 64, closed := true } }
    let log := (ch.readOn s Pipe.ends 19 [(1, 16), (2, 0), (2, 16), (1, 16)]).1
    ch.reader = {} ∧
      log.map Prod.snd = [.failed (.compression (.unknownMarker 7)), .ready [], .ready [65],
        .failed (.framing (.endInsideHeader 2))] ∧
      (∃ before data behind,
        s.stretches wire = before ++ ⟨data, .failed (.compression (.unknownMarker 7))⟩ :: behind ∧
        before.length = 0 ∧ [] = before.flatMap Stretch.data ++ data ∧
        [65] <+: behind.flatMap Stretch.data) ∧
      ∃ others, ¬ Fatal ((ch.readOn s Pipe.ends 19 others).1.map Prod.snd) := by
  intro s wire ch log
  have hlog : log.map Prod.snd = [.failed (.compression (.unknownMarker 7)), .ready [],
      .ready [65], .failed (.framing (.endInsideHeader 2))] := by
    decide +kernel
  have hahead : ch.stream.queue.toList = wire := rfl
  obtain ⟨-, hsplit, -, hmore⟩ := readOn_told Pipe.gives s 19 [(1, 16), (2, 0), (2, 16), (1, 16)]
    (show ch.reader = {} from rfl)
  rw [hahead] at hsplit hmore
  obtain ⟨before, data, behind, hstretches, hcount, hfront, hback⟩ := hsplit [] _ _ hlog
  refine ⟨rfl, hlog, ⟨before, data, behind, hstretches, hcount, hfront, hback⟩, ?_⟩
  refine hmore _ Pipe.atOnce rfl rfl (by decide) ?_
  obtain rfl := List.length_eq_zero_iff.1 hcount
  rw [hstretches, List.nil_append, List.tail_cons]
  by_contra hnone
  have hempty : behind.flatMap Stretch.data = [] := by
    refine List.flatMap_eq_nil_iff.2 fun stretch hs => ?_
    by_contra hne
    exact hnone ⟨stretch, hs, hne⟩
  rw [hempty] at hback
  exact absurd (List.prefix_nil.1 hback) (by decide)

/-- **Failures of every kind have data given behind them.** A frame without a payload, one whose tag
does not fit and one whose body cannot be expanded are refused, one read each; the read after them
gives the data of the frame behind. -/
theorem readOn_behind_refused_frames :
    let s : Settings :=
      { cipher := some ⟨.chaCha20Poly1305, Bytes.zeros 32, rfl⟩, obfuscation := .disabled
        compression := .snappy }
    let good : Bytes :=
      [0, 0, 0, 0, 0, 0, 0, 0, 0, 0, 0, 0, 159, 70, 183, 165, 116, 38, 117, 2, 117, 117, 200, 227,
        128, 63, 7, 65, 181, 86]
    let unknown : Bytes :=
      [0, 0, 0, 0, 0, 0, 0, 0, 0, 0, 0, 0, 152, 70, 85, 250, 115, 50, 191, 199, 184, 49, 144, 164,
        8, 176, 204, 14, 63, 78]
    let wire :=
      Wire.frame [] ++ Wire.frame (good.set 29 0) ++ Wire.frame unknown ++ Wire.frame good
    let ch : Channel Pipe :=
      { pool := .empty 64 0, entropy := .ofBytes []
        stream := { queue := ByteQueue.empty.push wire, capacity := 128, closed := true } }
    let log := (ch.readOn s Pipe.ends 128 [(0, 16), (0, 16), (0, 16), (0, 16)]).1
    log.map Prod.snd =
        [.failed (.framing .emptyFrame), .failed .authentication,
          .failed (.compression (.unknownMarker 7)), .ready [65]] ∧
      ¬ Fatal (log.map Prod.snd) := by
  intro s good unknown wire ch log
  have hlog : log.map Prod.snd = [.failed (.framing .emptyFrame), .failed .authentication,
      .failed (.compression (.unknownMarker 7)), .ready [65]] := by
    decide +kernel
  refine ⟨hlog, ?_⟩
  rw [hlog]
  intro hfatal
  have hbehind := (List.pairwise_cons.1 hfatal).1 (.ready [65]) (by simp) rfl
  exact absurd hbehind (by decide)

end Channel

end SealedTunnel
