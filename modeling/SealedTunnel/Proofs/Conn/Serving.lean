import SealedTunnel.Proofs.Conn.Reading
import SealedTunnel.Proofs.Loopback.Pipe

/-!
# What a caller gets

A caller that reads over and over gets the data on the stream in pieces, each of one frame, and then
the end that the data meets; a failure shows which end it was. Nothing is given twice, left out, or
taken from a frame that cannot be undone.

## Main definitions

* `Owed.content`: all bytes that are owed
* `Owed.giveAll`: what callers are given, one after the other
* `Channel.readAll`: a caller reads, again and again
* `answered`: the reads that did not have to wait

## Main results

* `Owed.bytes_serve_prefix_content`, `Owed.eq_outcome_of_mem_serve`: what is served are the owed
  bytes from the first on, and the end is served only behind all of them
* `Channel.readAll_parses`: what a caller gets is what the bytes on the stream carry
-/

namespace SealedTunnel

/-- The bytes that a read gives. -/
def Poll.bytes : Poll TunnelError Bytes → Bytes
  | .ready bs => bs
  | .failed _ | .waiting => []

/-- How the end of a byte string shows to a caller. -/
def FetchEnd.outcome : FetchEnd → Poll TunnelError Bytes
  | .closed => .ready []
  | .failed e => .failed e

/-! ## Serving -/

namespace Owed

variable {s : Settings} {n : Nat} {o o' : Owed} {r : Poll TunnelError Bytes}

/-- All bytes that are owed. -/
def content (o : Owed) : Bytes :=
  o.left ++ o.parsed.data.flatten

/-- Frames that carry nothing do not count. -/
def Proper (o : Owed) : Prop :=
  ∀ data ∈ o.parsed.data, data ≠ []

/-- What giving some of `o` comes to, by its content: a piece of it, or the end. -/
inductive Given (s : Settings) (o : Owed) : Poll TunnelError Bytes → Owed → Prop
  | piece {bs : Bytes} {o' : Owed} (hne : bs ≠ []) (hcontent : o.content = bs ++ o'.content)
      (hending : o'.parsed.ending = o.parsed.ending) (hrest : o'.parsed.rest = o.parsed.rest)
      (hproper : o'.Proper) : Given s o (.ready bs) o'
  | closed (hcontent : o.content = []) (hending : o.parsed.ending = .closed) :
      Given s o (.ready []) o
  | failed {e : TunnelError} (hcontent : o.content = []) (hending : o.parsed.ending = .failed e) :
      Given s o (.failed e) { parsed := s.parse o.parsed.rest }

theorem take_ne_nil {bs : Bytes} (hn : 0 < n) (h : bs ≠ []) : bs.take n ≠ [] := by
  intro hnil
  rcases List.take_eq_nil_iff.1 hnil with hzero | hnil
  · exact Nat.ne_of_gt hn hzero
  · exact h hnil

theorem given_give (hn : 0 < n) (ho : o.Proper) : Given s o (o.give s n).1 (o.give s n).2 := by
  obtain ⟨left, ⟨data, ending, rest⟩⟩ := o
  by_cases hleft : left = []
  · subst hleft
    cases data with
    | nil =>
      cases ending with
      | closed => exact .closed rfl rfl
      | failed e => exact .failed rfl rfl
    | cons first more =>
      have hfirst : first ≠ [] := ho first List.mem_cons_self
      refine .piece (take_ne_nil hn hfirst) ?_ rfl rfl fun data hd => ho data (.tail _ hd)
      show [] ++ (first :: more).flatten = first.take n ++ (first.drop n ++ more.flatten)
      rw [List.nil_append, List.flatten_cons, ← List.append_assoc, List.take_append_drop]
  · rw [give_of_left hleft]
    refine .piece (take_ne_nil hn hleft) ?_ rfl rfl ho
    show left ++ data.flatten = left.take n ++ (left.drop n ++ data.flatten)
    rw [← List.append_assoc, List.take_append_drop]

theorem Given.ending_eq_closed (h : Given s o (.ready []) o') : o.parsed.ending = .closed := by
  cases h with
  | piece hne => exact absurd rfl hne
  | closed _ hending => exact hending

/-- **What is served are the owed bytes**, from the first on. -/
theorem bytes_serve_prefix_content (ho : o.Proper) {sizes : List Nat} (hs : ∀ n ∈ sizes, 0 < n) :
    (o.serve s sizes).1.flatMap Poll.bytes <+: o.content := by
  induction sizes generalizing o with
  | nil => exact List.nil_prefix
  | cons n ns ih =>
    have hg := given_give (s := s) (hs n List.mem_cons_self) ho
    have hs' : ∀ m ∈ ns, 0 < m := fun m hm => hs m (.tail _ hm)
    rw [serve]
    generalize o.give s n = g at hg
    obtain ⟨r, o'⟩ := g
    dsimp only at hg
    cases hg with
    | piece hne hcontent _ _ hproper =>
      rw [List.flatMap_cons, hcontent]
      exact (List.prefix_append_right_inj _).2 (ih hproper hs')
    | closed hcontent hending => exact ih ho hs'
    | failed => exact List.nil_prefix

/-- **The end is served only behind all of the owed bytes**, and it is the end that they meet. -/
theorem eq_outcome_of_mem_serve (ho : o.Proper) {sizes : List Nat} (hs : ∀ n ∈ sizes, 0 < n)
    (hr : r ∈ (o.serve s sizes).1) (hnone : r.bytes = []) :
    r = o.parsed.ending.outcome ∧ (o.serve s sizes).1.flatMap Poll.bytes = o.content := by
  induction sizes generalizing o with
  | nil => cases hr
  | cons n ns ih =>
    have hg := given_give (s := s) (hs n List.mem_cons_self) ho
    have hs' : ∀ m ∈ ns, 0 < m := fun m hm => hs m (.tail _ hm)
    rw [serve] at hr ⊢
    generalize o.give s n = g at hg hr
    obtain ⟨r', o'⟩ := g
    dsimp only at hg
    cases hg with
    | piece hne hcontent hending _ hproper =>
      rcases List.mem_cons.1 hr with rfl | hr
      · exact absurd hnone hne
      · obtain ⟨hr, hall⟩ := ih hproper hs' hr
        rw [List.flatMap_cons, hall, hcontent, ← hending]
        exact ⟨hr, rfl⟩
    | closed hcontent hending =>
      have hrest := bytes_serve_prefix_content (s := s) ho hs'
      rw [hcontent, List.prefix_nil] at hrest
      rcases List.mem_cons.1 hr with rfl | hr
      · rw [List.flatMap_cons, hrest, hending, hcontent]
        exact ⟨rfl, rfl⟩
      · exact ih ho hs' hr
    | failed hcontent hending =>
      obtain rfl := List.mem_singleton.1 hr
      rw [hending, hcontent]
      exact ⟨rfl, rfl⟩

/-- What callers with room for so many bytes are given, one after the other, failures or not; and
what is owed afterwards. -/
def giveAll (s : Settings) : Owed → List Nat → List (Poll TunnelError Bytes) × Owed
  | o, [] => ([], o)
  | o, n :: ns =>
    let (r, o) := o.give s n
    let (rs, o) := giveAll s o ns
    (r :: rs, o)

theorem giveAll_cons (s : Settings) (o : Owed) (n : Nat) (ns : List Nat) :
    o.giveAll s (n :: ns) =
      ((o.give s n).1 :: ((o.give s n).2.giveAll s ns).1, ((o.give s n).2.giveAll s ns).2) := rfl

/-- One caller more is given some of what is owed after the others. -/
theorem giveAll_concat (s : Settings) (o : Owed) (ns : List Nat) (n : Nat) :
    o.giveAll s (ns ++ [n]) =
      ((o.giveAll s ns).1 ++ [((o.giveAll s ns).2.give s n).1],
        ((o.giveAll s ns).2.give s n).2) := by
  induction ns generalizing o with
  | nil => rfl
  | cons m ms ih => rw [List.cons_append, giveAll_cons, ih, giveAll_cons, List.cons_append]

/-- Without a failure all callers are served. -/
theorem serve_eq_giveAll {sizes : List Nat}
    (h : ∀ r ∈ (o.giveAll s sizes).1, ∀ e, r ≠ .failed e) :
    o.serve s sizes = o.giveAll s sizes := by
  induction sizes generalizing o with
  | nil => rfl
  | cons n ns ih =>
    rw [giveAll_cons] at h ⊢
    have hhead := h _ List.mem_cons_self
    have hrest := ih fun r hr => h r (.tail _ hr)
    rw [serve]
    generalize o.give s n = g at hhead hrest
    obtain ⟨r, o'⟩ := g
    cases r with
    | failed e => exact absurd rfl (hhead e)
    | ready bs =>
      dsimp only
      rw [hrest]
    | waiting =>
      dsimp only
      rw [hrest]

/-- Without a failure, what is given are the owed bytes from the first on; nothing more is given
only behind all of them, when the other end has closed. -/
theorem bytes_giveAll (ho : o.Proper) {sizes : List Nat} (hs : ∀ n ∈ sizes, 0 < n)
    (h : ∀ r ∈ (o.giveAll s sizes).1, ∀ e, r ≠ .failed e) :
    (o.giveAll s sizes).1.flatMap Poll.bytes <+: o.content ∧
      ∀ r ∈ (o.giveAll s sizes).1, r.bytes = [] →
        o.parsed.ending = .closed ∧ (o.giveAll s sizes).1.flatMap Poll.bytes = o.content := by
  have hsame := serve_eq_giveAll h
  rw [← hsame] at h ⊢
  refine ⟨bytes_serve_prefix_content ho hs, fun r hr hnone => ?_⟩
  obtain ⟨hend, hall⟩ := eq_outcome_of_mem_serve ho hs hr hnone
  refine ⟨?_, hall⟩
  cases hending : o.parsed.ending with
  | closed => rfl
  | failed e =>
    rw [hending] at hend
    exact absurd hend (h r hr e)

/-- Without a read that gave nothing, no more callers were served than there are bytes. -/
theorem length_le_bytes {rs : List (Poll TunnelError Bytes)} (h : ∀ r ∈ rs, r.bytes ≠ []) :
    rs.length ≤ (rs.flatMap Poll.bytes).length := by
  induction rs with
  | nil => exact Nat.le_refl 0
  | cons r rs ih =>
    have hr := List.length_pos_iff.2 (h r List.mem_cons_self)
    have hrs := ih fun r hr => h r (.tail _ hr)
    rw [List.flatMap_cons, List.length_append, List.length_cons]
    omega

/-! ### Frames without a failure behind them -/

/-- No failure is to come: the other end closes behind whole frames. -/
structure Closing (o : Owed) : Prop where
  ending : o.parsed.ending = .closed
  rest : o.parsed.rest = []

theorem Closing.parsed_eq (h : o.Closing) :
    o.parsed = { data := o.parsed.data, ending := .closed } := by
  obtain ⟨left, ⟨data, ending, rest⟩⟩ := o
  obtain ⟨rfl, rfl⟩ := h
  rfl

theorem Closing.give (h : o.Closing) (s : Settings) (n : Nat) :
    (∃ bs, (o.give s n).1 = .ready bs) ∧ (o.give s n).2.Closing := by
  obtain ⟨left, ⟨data, ending, rest⟩⟩ := o
  obtain ⟨rfl, rfl⟩ := h
  by_cases hleft : left = []
  · subst hleft
    cases data with
    | nil => exact ⟨⟨_, rfl⟩, rfl, rfl⟩
    | cons first more => exact ⟨⟨_, rfl⟩, rfl, rfl⟩
  · rw [give_of_left hleft]
    exact ⟨⟨_, rfl⟩, rfl, rfl⟩

theorem Closing.giveAll (h : o.Closing) (s : Settings) (sizes : List Nat) :
    (∀ r ∈ (o.giveAll s sizes).1, ∃ bs, r = .ready bs) ∧ (o.giveAll s sizes).2.Closing := by
  induction sizes generalizing o with
  | nil => exact ⟨nofun, h⟩
  | cons n ns ih =>
    obtain ⟨hready, hclosing⟩ := h.give s n
    obtain ⟨hall, hlast⟩ := ih hclosing
    rw [giveAll_cons]
    refine ⟨?_, hlast⟩
    intro r hr
    rcases List.mem_cons.1 hr with rfl | hr
    · exact hready
    · exact hall r hr

/-- The same with the data of one frame more behind the rest. -/
def followedBy (data : Bytes) (o : Owed) : Owed :=
  { o with parsed := { o.parsed with data := o.parsed.data ++ [data] } }

/-- Whoever is given a piece does not see what comes behind it. -/
theorem give_followedBy (h : (o.give s n).1.bytes ≠ []) (data : Bytes) :
    (o.followedBy data).give s n = ((o.give s n).1, (o.give s n).2.followedBy data) := by
  obtain ⟨left, ⟨chunks, ending, rest⟩⟩ := o
  by_cases hleft : left = []
  · subst hleft
    cases chunks with
    | nil => cases ending <;> exact absurd rfl h
    | cons first more => rfl
  · have hstill : (followedBy data ⟨left, ⟨chunks, ending, rest⟩⟩).left ≠ [] := hleft
    rw [give_of_left hstill, give_of_left hleft]
    rfl

/-- **A frame that comes later changes nothing of what was given before**, as long as every caller
was given a piece. -/
theorem giveAll_followedBy {sizes : List Nat} (h : ∀ r ∈ (o.giveAll s sizes).1, r.bytes ≠ [])
    (data : Bytes) :
    (o.followedBy data).giveAll s sizes =
      ((o.giveAll s sizes).1, (o.giveAll s sizes).2.followedBy data) := by
  induction sizes generalizing o with
  | nil => rfl
  | cons n ns ih =>
    rw [giveAll_cons] at h ⊢
    have hhead := h _ List.mem_cons_self
    have hrest := ih fun r hr => h r (.tail _ hr)
    rw [giveAll_cons, give_followedBy hhead, hrest]

end Owed

/-! ## Reading again and again -/

/-- Whoever is alone in the line leaves nobody in it. -/
@[simp] theorem ReadLine.leave_enter_nil (owner : Nat) : (enter [] owner).leave owner = [] := by
  simp [enter, leave]

/-- The reads of a log that did not have to wait: how much each had room for, and what it gave. -/
def answered (log : List (Nat × Poll TunnelError Bytes)) : List (Nat × Poll TunnelError Bytes) :=
  log.filter fun r => r.2 ≠ .waiting

namespace Channel

variable {τ : Type}

/-- A caller reads with room for so many bytes, one time after the other, up to the first
failure. A read that has to wait is tried again by the next. -/
def readAll (s : Settings) (d : Duplex IoError τ) (fuel owner : Nat) :
    List Nat → Channel τ → List (Nat × Poll TunnelError Bytes) × Channel τ
  | [], ch => ([], ch)
  | n :: ns, ch =>
    match ch.read s d fuel owner n with
    | (.failed e, ch) => ([(n, .failed e)], ch)
    | (r, ch) =>
      let (log, ch) := readAll s d fuel owner ns ch
      ((n, r) :: log, ch)

variable {s : Settings} {d : Duplex IoError τ} {ahead : τ → Bytes} {fuel owner : Nat}

theorem readAll_serves (h : d.Gives ahead) (fuel owner : Nat) {sizes : List Nat}
    (hs : ∀ n ∈ sizes, 0 < n) {ch : Channel τ} {begun : Bytes} (hr : ch.reader.Began s begun) :
    let run := ch.readAll s d fuel owner sizes
    let owed := ch.reader.owed s begun (ahead ch.stream)
    (answered run.1).map Prod.snd = (owed.serve s ((answered run.1).map Prod.fst)).1 ∧
      ∀ n e, (n, .failed e) ∈ run.1 → ahead run.2.stream = owed.parsed.rest := by
  induction sizes generalizing ch begun with
  | nil => exact ⟨rfl, nofun⟩
  | cons n ns ih =>
    have hs' : ∀ m ∈ ns, 0 < m := fun m hm => hs m (.tail _ hm)
    obtain ⟨begun', hr', hstep, -, hrest⟩ :=
      read_serves h (hs n List.mem_cons_self) hr owner fuel
    rw [readAll]
    generalize ch.read s d fuel owner n = r at hr' hstep hrest
    obtain ⟨outcome, ch'⟩ := r
    dsimp only at hr' hstep hrest
    cases outcome with
    | waiting =>
      obtain ⟨hserve, hfailed⟩ := ih hs' hr'
      rw [hstep.eq_of_waiting] at hserve hfailed
      refine ⟨hserve, fun m e hm => ?_⟩
      rcases List.mem_cons.1 hm with hm | hm
      · cases (Prod.mk.inj hm).2
      · exact hfailed m e hm
    | failed e =>
      refine ⟨?_, fun _ e' hm => ?_⟩
      · show [Poll.failed e] = (Owed.serve s _ [n]).1
        rw [Owed.serve, hstep.give_eq nofun]
      · obtain ⟨rfl, he⟩ := Prod.mk.inj (List.mem_singleton.1 hm)
        exact hrest e rfl
    | ready bs =>
      have hgive := hstep.give_eq nofun
      obtain ⟨hserve, hfailed⟩ := ih hs' hr'
      refine ⟨?_, fun m e hm => ?_⟩
      · show _ :: (answered _).map Prod.snd =
          (Owed.serve s _ (n :: (answered _).map Prod.fst)).1
        rw [Owed.serve, hgive, hserve]
      · rcases List.mem_cons.1 hm with hm | hm
        · cases (Prod.mk.inj hm).2
        · rw [hfailed m e hm]
          exact Owed.rest_of_give hgive

/-- No more is read than asked for. -/
theorem sizes_readAll (s : Settings) (d : Duplex IoError τ) (fuel owner : Nat) (sizes : List Nat)
    (ch : Channel τ) : (ch.readAll s d fuel owner sizes).1.map Prod.fst <+: sizes := by
  induction sizes generalizing ch with
  | nil => exact List.nil_prefix
  | cons n ns ih =>
    rw [readAll]
    generalize ch.read s d fuel owner n = r
    obtain ⟨outcome, ch'⟩ := r
    cases outcome with
    | failed e => exact ⟨ns, rfl⟩
    | waiting => exact (List.prefix_cons_inj n).2 (ih ch')
    | ready bs => exact (List.prefix_cons_inj n).2 (ih ch')

/-- Over a stream that does not make its reader wait, no read of a caller that is alone waits. -/
theorem readAll_at_once (h : d.Gives ahead) {P : τ → Prop} (hd : d.AtOnce P) {sizes : List Nat}
    (hs : ∀ n ∈ sizes, 0 < n) {ch : Channel τ} (hidle : ch.reader.fetching = none)
    (hline : ch.readLine = []) (ht : P ch.stream) (hfuel : (ahead ch.stream).length < fuel) :
    ∀ r ∈ (ch.readAll s d fuel owner sizes).1, r.2 ≠ .waiting := by
  induction sizes generalizing ch with
  | nil => nofun
  | cons n ns ih =>
    have hn := hs n List.mem_cons_self
    have hr := Reader.began_nil (s := s) hidle
    have hfirst : (ch.readLine.enter owner).isFirst owner = true := by
      rw [hline]
      exact decide_eq_true rfl
    obtain ⟨hne, hline', hidle'⟩ := read_at_once h hd hn hr hfirst ht hfuel
    have ht' := read_keeps hd.keeps hr fuel owner n ht
    rw [hline, ReadLine.leave_enter_nil] at hline'
    obtain ⟨-, -, -, hsuffix, -⟩ := read_serves h hn hr owner fuel
    rw [readAll]
    generalize ch.read s d fuel owner n = r at hne hline' hidle' ht' hsuffix
    obtain ⟨outcome, ch'⟩ := r
    have hrest := ih (fun m hm => hs m (.tail _ hm)) hidle' hline' ht'
      (Nat.lt_of_le_of_lt hsuffix.length_le hfuel)
    cases outcome with
    | waiting => exact absurd rfl hne
    | failed e =>
      intro r hr
      obtain rfl := List.mem_singleton.1 hr
      exact hne
    | ready bs =>
      intro r hr
      rcases List.mem_cons.1 hr with rfl | hr
      · exact hne
      · exact hrest r hr

/-- **Reading is an exact parser of the wire format.** Whatever bytes are ahead of the end of the
stream, however the stream cuts them and however often it makes the caller wait: the reads that do
not wait give the data of the frames, each time of one frame, from the first byte on, and then the
end which the frames meet. The end shows only behind all of the data, a failure leaves the bytes
behind the offending ones on the stream, and it tells what was wrong with a payload. Where the
stream does not make the caller wait, no read waits. -/
theorem readAll_parses (h : d.Gives ahead) (s : Settings) (fuel owner : Nat) {sizes : List Nat}
    (hs : ∀ n ∈ sizes, 0 < n) {ch : Channel τ} (hfresh : ch.reader = {}) :
    let wire := s.parse (ahead ch.stream)
    let run := ch.readAll s d fuel owner sizes
    let outcomes := (answered run.1).map Prod.snd
    outcomes = (Owed.serve s { parsed := wire } ((answered run.1).map Prod.fst)).1 ∧
      outcomes.flatMap Poll.bytes <+: wire.data.flatten ∧
      (∀ r ∈ outcomes, r.bytes = [] →
        r = wire.ending.outcome ∧ outcomes.flatMap Poll.bytes = wire.data.flatten) ∧
      (∀ n e, (n, .failed e) ∈ run.1 → ahead run.2.stream = wire.rest) ∧
      (∀ payload e, s.decode payload = .error e →
        (s.openPayload payload = .error e ∧ e = .authentication) ∨
          ∃ text place, s.openPayload payload = .ok (text, place) ∧
            ((s.unpad text = .error e ∧ ∃ fault, e = .framing fault) ∨
              ∃ body, s.unpad text = .ok body ∧ s.expand body = .error e ∧
                ∃ fault, e = .compression fault)) ∧
      ∀ P, d.AtOnce P → P ch.stream → ch.readLine = [] → (ahead ch.stream).length < fuel →
        ∀ r ∈ run.1, r.2 ≠ .waiting := by
  have hidle : ch.reader.fetching = none := by rw [hfresh]
  have howed : ch.reader.owed s [] (ahead ch.stream) = { parsed := s.parse (ahead ch.stream) } := by
    rw [hfresh]
    rfl
  have hproper : Owed.Proper { parsed := s.parse (ahead ch.stream) } :=
    fun _ => Settings.ne_nil_of_mem_parse
  have hsizes : ∀ n ∈ (answered (ch.readAll s d fuel owner sizes).1).map Prod.fst, 0 < n := by
    intro n hn
    obtain ⟨r, hr, rfl⟩ := List.mem_map.1 hn
    have hmem := List.mem_map_of_mem (f := Prod.fst) (List.mem_filter.1 hr).1
    exact hs _ ((sizes_readAll s d fuel owner sizes ch).subset hmem)
  obtain ⟨hserve, hrest⟩ := readAll_serves h fuel owner hs
    (Reader.began_nil (s := s) hidle)
  rw [howed] at hserve hrest
  refine ⟨hserve, ?_, ?_, hrest, fun _ _ => Settings.decode_eq_error, ?_⟩
  · rw [hserve]
    exact Owed.bytes_serve_prefix_content hproper hsizes
  · rw [hserve]
    intro r hr hnone
    exact Owed.eq_outcome_of_mem_serve hproper hsizes hr hnone
  · intro P hd ht hline hfuel
    exact readAll_at_once h hd hs hidle hline ht hfuel

/-- A frame with two bytes of data, and behind it a header that is cut off. -/
theorem readAll_cut_header :
    let s : Settings := { obfuscation := .disabled }
    let pipe : Pipe :=
      { queue := ByteQueue.empty.push (Wire.frame [7, 8] ++ [0, 0])
        capacity := 64
        closed := true }
    let ch : Channel Pipe := { pool := .empty 4 0, entropy := .ofBytes [], stream := pipe }
    let run := ch.readAll s Pipe.ends 9 0 [1, 5, 5]
    (∀ n ∈ [1, 5, 5], 0 < n) ∧ ch.reader = {} ∧
      run.1 = [(1, .ready [7]), (5, .ready [8]), (5, .failed (.framing (.endInsideHeader 2)))] ∧
      (∀ r ∈ run.1, r.2 ≠ .waiting) ∧
      ((answered run.1).map Prod.snd).flatMap Poll.bytes <+: [7, 8] ∧
      ∀ r ∈ (answered run.1).map Prod.snd, r.bytes = [] →
        r = .failed (.framing (.endInsideHeader 2)) := by
  intro s pipe ch run
  have hparse : s.parse (Wire.frame [7, 8] ++ [0, 0]) =
      { data := [[7, 8]], ending := .failed (.framing (.endInsideHeader 2)) } := by
    rw [Settings.parse_frame ⟨by decide, by decide⟩ (by decide) rfl, Settings.parse]
    rfl
  have hsizes : ∀ n ∈ [1, 5, 5], 0 < n := by decide
  have hrun : (ch.readAll s Pipe.ends 9 0 [1, 5, 5]).1 =
      [(1, .ready [7]), (5, .ready [8]), (5, .failed (.framing (.endInsideHeader 2)))] := by
    decide +kernel
  obtain ⟨-, hpre, hend, -, -, hwait⟩ :=
    readAll_parses Pipe.gives s 9 0 hsizes (show ch.reader = {} from rfl)
  have hahead : ch.stream.queue.toList = Wire.frame [7, 8] ++ [0, 0] := rfl
  rw [hahead, hparse] at hpre hend
  exact ⟨hsizes, rfl, hrun, hwait _ Pipe.atOnce rfl rfl (by decide), hpre,
    fun r hr hnone => (hend r hr hnone).1⟩

end Channel

end SealedTunnel
