import Mathlib.Data.List.Nodup
import SealedTunnel.Proofs.Conn.Serving
import SealedTunnel.Proofs.Conn.Writing
import SealedTunnel.Proofs.Loopback.Pipe

/-!
# Many tasks on one connection

Any number of tasks write to one connection and read from it, and the steps of their calls come in
any order: a frame is made, its task joins the line, whoever has the turn pushes as much of its
frame as the stream takes, a reader joins its line or goes on reading. The bytes on the stream are
whole frames in the order in which their tasks joined the line, and then the first part of one more;
the pieces that readers are given, in the order of their line, are the data of the frames that
arrive.

## Main definitions

* `Ticket`: a frame, with the task and the data that it was made for
* `Traffic`: a connection with a record of what its tasks have done
* `Move`, `Traffic.step`, `Traffic.run`: the steps of tasks, in any order
* `Traffic.Writing`, `Traffic.Reading`: what every step keeps, of the writers and of the readers

## Main results

* `Traffic.Writing.step`, `Traffic.Reading.step`: every step keeps them
* `Traffic.frames_stay_whole`: what they say about the stream and the data, after any run
-/

namespace SealedTunnel

/-- A frame, with the task and the data that it was made for. -/
structure Ticket where
  owner : Nat
  chunk : Bytes
  prepared : Prepared

namespace Ticket

/-- The frame. -/
def frame (k : Ticket) : Bytes :=
  k.prepared.frame

/-- The place in the line of a ticket of whose frame this much is left. -/
def turn (k : Ticket) (rest : Bytes) : Turn :=
  ⟨k.owner, rest, k.prepared.consumed, k.prepared.loans⟩

/-- The frame is one that the other end can read, and it carries the data. -/
structure Carries (s : Settings) (k : Ticket) : Prop where
  chunk_ne : k.chunk ≠ []
  consumed : k.prepared.consumed = k.chunk.length
  frame : ∃ payload, k.frame = Wire.frame payload ∧ Header.Fits payload.length ∧
    payload.length ≤ s.maxFrameLength ∧ s.decode payload = .ok k.chunk

end Ticket

/-- A connection with a record of what its tasks have done. -/
structure Traffic (τ : Type) where
  channel : Channel τ
  /-- The frames that were made, in this order. -/
  made : List Ticket := []
  /-- Those of them whose tasks have not joined the line yet. -/
  ready : List Ticket := []
  /-- Those of them whose tasks have joined the line, in this order. -/
  joined : List Ticket := []
  /-- The writes that are over, in this order: whose they were, and the bytes of data they told. -/
  written : List (Nat × Nat) := []
  /-- The readers in the order in which they joined their line. -/
  arrived : List Nat := []
  /-- The reads that are over, in this order: whose they were, the room they had, and what they
  gave. -/
  reads : List (Nat × Nat × Poll TunnelError Bytes) := []

/-- A step of a task. -/
inductive Move where
  /-- A task makes a frame of the first bytes of the data. -/
  | make (owner : Nat) (data : Bytes)
  /-- A task joins the line with its frame. -/
  | join (owner : Nat)
  /-- A task in the line goes on with its frame. -/
  | push (owner : Nat)
  /-- A task draws the delay after a frame that carried so many bytes. -/
  | pause (length : Nat)
  /-- A task joins the line of readers, or goes on reading. -/
  | read (owner room : Nat)

namespace Traffic

variable {τ : Type}

/-- Whether a task is in the middle of a write; a task does one write after the other. -/
def busy (t : Traffic τ) (owner : Nat) : Bool :=
  t.ready.any (·.owner = owner) || t.channel.writeLine.has owner

/-- One step of a task. A frame that cannot be made is in nobody's line. -/
def step (s : Settings) (d : Carrier τ) (fuel : Nat) : Move → Traffic τ → Traffic τ
  | .make owner data, t =>
    if data = [] ∨ t.busy owner then t
    else
      match t.channel.make s data with
      | (.error _, channel) => { t with channel }
      | (.ok p, channel) =>
        let ticket := ⟨owner, s.chunkOf data, p⟩
        { t with channel, made := t.made ++ [ticket], ready := t.ready ++ [ticket] }
  | .join owner, t =>
    match t.ready.find? (·.owner = owner) with
    | none => t
    | some ticket =>
      { t with
        channel := t.channel.join owner ticket.prepared
        ready := t.ready.filter (·.owner ≠ owner)
        joined := t.joined ++ [ticket] }
  | .push owner, t =>
    match t.channel.push d owner with
    | (.ready n, channel) => { t with channel, written := t.written ++ [(owner, n)] }
    | (_, channel) => { t with channel }
  | .pause length, t =>
    match s.drawPause length t.channel.entropy with
    | .error _ => t
    | .ok (_, entropy) => { t with channel := { t.channel with entropy } }
  | .read owner room, t =>
    if room = 0 then t
    else
      let arrived :=
        if t.channel.readLine.contains owner then t.arrived else t.arrived ++ [owner]
      match t.channel.read s d fuel owner room with
      | (.waiting, channel) => { t with channel, arrived }
      | (outcome, channel) =>
        { t with channel, arrived, reads := t.reads ++ [(owner, room, outcome)] }

/-- The steps of the tasks, one after the other. -/
def run (s : Settings) (d : Carrier τ) (fuel : Nat) (moves : List Move) (t : Traffic τ) :
    Traffic τ :=
  moves.foldl (fun t move => t.step s d fuel move) t

/-! ## Writers -/

/-- The line of writers, when `part` of the first frame is on the stream. -/
def lineOf (part : Bytes) : List Ticket → WriteLine
  | [] => []
  | first :: more => first.turn (first.frame.drop part.length) :: more.map fun k => k.turn k.frame

/-- What holds of the writers: the frames `past` are on the stream behind the bytes `before`, and
`part` of the next; the tickets `waiting` are in the line. -/
structure Writing (s : Settings) (up : τ → Prop) (taken : τ → Bytes) (before : Bytes)
    (t : Traffic τ) (past waiting : List Ticket) (part : Bytes) : Prop where
  up : up t.channel.stream
  joined : t.joined = past ++ waiting
  written : t.written = past.map fun k => (k.owner, k.chunk.length)
  sent : taken t.channel.stream = before ++ past.flatMap Ticket.frame ++ part
  line : t.channel.writeLine = lineOf part waiting
  part : part <+: (waiting.head?.map Ticket.frame).getD []
  /-- No task is in the middle of two writes. -/
  distinct : ((waiting ++ t.ready).map Ticket.owner).Nodup
  carries : ∀ k ∈ t.made, k.Carries s
  /-- Of each task, the frames join the line in the order in which they were made. -/
  order : ∀ owner, t.made.filter (·.owner = owner) =
    t.joined.filter (·.owner = owner) ++ t.ready.filter (·.owner = owner)

@[simp] theorem owners_lineOf (part : Bytes) (waiting : List Ticket) :
    (lineOf part waiting).map Turn.owner = waiting.map Ticket.owner := by
  cases waiting with
  | nil => rfl
  | cons first more =>
    show _ :: (more.map _).map _ = _ :: _
    rw [List.map_map]
    rfl

theorem busy_iff (t : Traffic τ) (owner : Nat) :
    t.busy owner = true ↔
      owner ∈ t.ready.map Ticket.owner ∨ owner ∈ t.channel.writeLine.map Turn.owner := by
  simp [busy, WriteLine.has]

namespace Writing

variable {s : Settings} {d : Carrier τ} {up : τ → Prop} {taken ahead : τ → Bytes}
  {before part : Bytes} {t : Traffic τ} {past waiting : List Ticket} {fuel : Nat}

/-- A frame is made for a task that is not in the middle of a write. -/
theorem make (h : Writing s up taken before t past waiting part)
    (ho : s.obfuscation.check = .ok ()) (owner : Nat) (data : Bytes) :
    Writing s up taken before (t.step s d fuel (.make owner data)) past waiting part := by
  rw [step]
  by_cases hskip : data = [] ∨ t.busy owner
  · rw [if_pos hskip]
    exact h
  rw [if_neg hskip]
  obtain ⟨hd, hbusy⟩ := not_or.1 hskip
  rcases Channel.make_eq ho hd t.channel with
    ⟨e, pool, -, hmake⟩ | ⟨payload, entropy, loans, pool, hp, hmake⟩
  · rw [hmake]
    exact ⟨h.up, h.joined, h.written, h.sent, h.line, h.part, h.distinct, h.carries, h.order⟩
  rw [hmake]
  have hl := s.length_chunkOf_le data
  have hne := s.chunkOf_ne_nil hd
  have hcarries : Ticket.Carries s
      ⟨owner, s.chunkOf data, Wire.frame payload, (s.chunkOf data).length, loans⟩ :=
    ⟨hne, rfl, payload, rfl, Settings.fits_payload ho hne hl hp,
      (Settings.length_payload ho hne hl hp).2, Settings.decode_payload (.refl s) hl hp⟩
  -- The task is not in the middle of a write, so its new frame is the only one it has.
  have hfree : owner ∉ (waiting ++ t.ready).map Ticket.owner := by
    rw [busy_iff, h.line, owners_lineOf] at hbusy
    rw [List.map_append, List.mem_append, or_comm]
    exact hbusy
  refine ⟨h.up, h.joined, h.written, h.sent, h.line, h.part, ?_, ?_, ?_⟩
  · show ((waiting ++ (t.ready ++ [_])).map Ticket.owner).Nodup
    rw [← List.append_assoc, List.map_append, List.map_singleton, List.nodup_append]
    refine ⟨h.distinct, List.nodup_singleton owner, ?_⟩
    rintro o ho' _ hmem rfl
    have howner : o = owner := List.mem_singleton.1 hmem
    exact hfree (howner ▸ ho')
  · intro k hk
    rcases List.mem_append.1 hk with hk | hk
    · exact h.carries k hk
    · rw [List.mem_singleton.1 hk]
      exact hcarries
  · intro o
    show (t.made ++ [_]).filter _ = t.joined.filter _ ++ (t.ready ++ [_]).filter _
    rw [List.filter_append, List.filter_append, ← List.append_assoc, ← h.order o]

theorem lineOf_concat {waiting : List Ticket}
    (hpart : part <+: (waiting.head?.map Ticket.frame).getD []) (k : Ticket) :
    lineOf part (waiting ++ [k]) = lineOf part waiting ++ [k.turn k.frame] := by
  cases waiting with
  | nil =>
    rw [List.prefix_nil.1 hpart]
    rfl
  | cons first more =>
    show _ :: (more ++ [k]).map _ = _ :: more.map _ ++ _
    rw [List.map_append]
    rfl

/-- A task joins the line with the frame that it has made. -/
theorem join (h : Writing s up taken before t past waiting part) (owner : Nat) :
    ∃ waiting', Writing s up taken before (t.step s d fuel (.join owner)) past waiting' part := by
  rw [step]
  cases hfind : t.ready.find? (·.owner = owner) with
  | none => exact ⟨waiting, h⟩
  | some ticket =>
    obtain ⟨howner, front, back, hready, hfront⟩ := List.find?_eq_some_iff_append.1 hfind
    have howner : ticket.owner = owner := of_decide_eq_true howner
    have hfront : ∀ k ∈ front, k.owner ≠ owner := fun k hk => by simpa using hfront k hk
    have hperm : (waiting ++ t.ready).Perm (ticket :: (waiting ++ (front ++ back))) := by
      rw [hready, ← List.append_assoc, ← List.append_assoc waiting]
      exact List.perm_middle
    have hdistinct := (hperm.map Ticket.owner).nodup_iff.1 h.distinct
    have hfree := (List.nodup_cons.1 hdistinct).1
    have hback : ∀ k ∈ back, k.owner ≠ owner := by
      intro k hk hko
      apply hfree
      rw [howner, ← hko]
      exact List.mem_map_of_mem
        (List.mem_append_right waiting (List.mem_append_right front hk))
    have hleft : t.ready.filter (·.owner ≠ owner) = front ++ back := by
      rw [hready, List.filter_append, List.filter_cons_of_neg (by simpa using howner)]
      rw [List.filter_eq_self.2 (by simpa using hfront),
        List.filter_eq_self.2 (by simpa using hback)]
    refine ⟨waiting ++ [ticket], h.up, ?_, h.written, h.sent, ?_, ?_, ?_, h.carries, ?_⟩
    · show t.joined ++ [ticket] = past ++ (waiting ++ [ticket])
      rw [h.joined, List.append_assoc]
    · show t.channel.writeLine.enter owner ticket.prepared = _
      rw [lineOf_concat h.part, ← h.line, WriteLine.enter, ← howner]
      rfl
    · cases waiting with
      | nil =>
        rw [List.prefix_nil.1 h.part]
        exact List.nil_prefix
      | cons first more => exact h.part
    · show ((waiting ++ [ticket] ++ t.ready.filter (·.owner ≠ owner)).map Ticket.owner).Nodup
      rw [hleft, List.append_assoc]
      exact ((List.perm_middle.map Ticket.owner).nodup_iff).2 hdistinct
    · intro o
      show t.made.filter _ = (t.joined ++ [ticket]).filter _ ++ (t.ready.filter _).filter _
      rw [hleft, h.order o, hready]
      simp only [List.filter_append, List.filter_cons, List.filter_nil]
      by_cases ho : ticket.owner = o
      · have hnone : front.filter (·.owner = o) = [] :=
          List.filter_eq_nil_iff.2 fun k hk => by simpa [← ho, howner] using hfront k hk
        simp only [ho, hnone, decide_true, if_true, List.nil_append, List.append_assoc,
          List.singleton_append]
      · simp only [ho, decide_false, Bool.false_eq_true, if_false, List.append_nil]

@[simp] theorem lineOf_nil (waiting : List Ticket) :
    lineOf [] waiting = waiting.map fun k => k.turn k.frame := by
  cases waiting <;> rfl

/-- With the last of its frame the holder leaves the line to the others. -/
theorem leave_lineOf {first : Ticket} {more : List Ticket} (part : Bytes)
    (hfree : first.owner ∉ more.map Ticket.owner) :
    (lineOf part (first :: more)).leave first.owner = lineOf [] more := by
  rw [lineOf_nil, lineOf, WriteLine.leave, List.filter_cons_of_neg (by simp [Ticket.turn])]
  rw [List.filter_eq_self]
  intro turn hturn
  obtain ⟨k, hk, rfl⟩ := List.mem_map.1 hturn
  refine decide_eq_true fun howner => hfree ?_
  rw [← show k.owner = first.owner from howner]
  exact List.mem_map_of_mem hk

theorem carries_of_mem (h : Writing s up taken before t past waiting part) {k : Ticket}
    (hk : k ∈ past ++ waiting) : k.Carries s := by
  rw [← h.joined] at hk
  have hjoined : k ∈ t.joined.filter (·.owner = k.owner) :=
    List.mem_filter.2 ⟨hk, decide_eq_true rfl⟩
  have hmade : k ∈ t.made.filter (·.owner = k.owner) := by
    rw [h.order]
    exact List.mem_append_left _ hjoined
  exact h.carries k (List.mem_filter.1 hmade).1

/-- Whoever has the turn is in the line once. -/
theorem holder_not_mem {first : Ticket} {more : List Ticket}
    (h : Writing s up taken before t past (first :: more) part) :
    first.owner ∉ more.map Ticket.owner := by
  intro hmem
  obtain ⟨k, hk, hko⟩ := List.mem_map.1 hmem
  refine (List.nodup_cons.1 h.distinct).1 ?_
  exact List.mem_map.2 ⟨k, List.mem_append_left t.ready hk, hko⟩

/-- With the last bytes of it a frame belongs to the past, and nothing of the next is on the
stream. -/
theorem pushed {first : Ticket} {more : List Ticket} {rest : Bytes} {stream : τ}
    (h : Writing s up taken before t past (first :: more) part) (hrest : part ++ rest = first.frame)
    (hup : up stream) (htaken : taken stream = taken t.channel.stream ++ rest) :
    Writing s up taken before
      { t with
        channel := { t.channel with stream }.leave first.owner
        written := t.written ++ [(first.owner, first.prepared.consumed)] }
      (past ++ [first]) more [] := by
  refine ⟨hup, ?_, ?_, ?_, ?_, List.nil_prefix, (List.nodup_cons.1 h.distinct).2, h.carries,
    h.order⟩
  · rw [h.joined, List.append_assoc]
    rfl
  · have hfirst := h.carries_of_mem (List.mem_append_right past List.mem_cons_self)
    rw [h.written, List.map_append, hfirst.consumed]
    rfl
  · show taken stream = _
    rw [htaken, h.sent, List.append_assoc, hrest, List.append_nil, List.flatMap_append,
      List.flatMap_singleton, List.append_assoc]
  · show t.channel.writeLine.leave first.owner = _
    rw [h.line, leave_lineOf part h.holder_not_mem]

/-- Otherwise a part more of it is on the stream. -/
theorem pushed_part {first : Ticket} {more : List Ticket} {went rest : Bytes} {stream : τ}
    (h : Writing s up taken before t past (first :: more) part)
    (hrest : part ++ (went ++ rest) = first.frame) (hup : up stream)
    (htaken : taken stream = taken t.channel.stream ++ went) :
    Writing s up taken before
      { t with
        channel :=
          { t.channel with
            stream
            writeLine := first.turn rest :: more.map fun k => k.turn k.frame } }
      past (first :: more) (part ++ went) := by
  rw [← List.append_assoc] at hrest
  refine ⟨hup, h.joined, h.written, ?_, ?_, ⟨rest, hrest⟩, h.distinct, h.carries, h.order⟩
  · show taken stream = _
    rw [htaken, h.sent, List.append_assoc, List.append_assoc]
  · rw [lineOf, ← hrest, List.drop_left]

/-- A task goes on with its frame if it has the turn. -/
theorem push (h : Writing s up taken before t past waiting part) (ht : d.Takes up taken)
    (owner : Nat) :
    ∃ past' waiting' part',
      Writing s up taken before (t.step s d fuel (.push owner)) past' waiting' part' := by
  have hidle (hno : ∀ turn, t.channel.writeLine.holder? = some turn → turn.owner ≠ owner) :
      t.step s d fuel (.push owner) = t := by
    rw [step, Channel.push_of_not_turn hno]
  cases waiting with
  | nil =>
    rw [hidle (by rw [h.line]; nofun)]
    exact ⟨past, [], part, h⟩
  | cons first more =>
    by_cases howner : first.owner = owner
    · subst howner
      obtain ⟨rest, hrest⟩ := h.part
      have hrest : part ++ rest = first.frame := hrest
      have hline : t.channel.writeLine =
          first.turn rest :: more.map fun k => k.turn k.frame := by
        rw [h.line, lineOf, ← hrest, List.drop_left]
      obtain ⟨went, rest', stream, hsplit, hup, htaken, hresult⟩ :=
        Channel.push_takes ht hline h.up
      have hsplit : rest = went ++ rest' := hsplit
      rcases hresult with ⟨rfl, hpush⟩ | hpush
      · have hpush : t.channel.push d first.owner = _ := hpush
        rw [step, hpush]
        rw [List.append_nil] at hsplit
        subst hsplit
        exact ⟨_, _, _, h.pushed hrest hup htaken⟩
      · have hpush : t.channel.push d first.owner = _ := hpush
        rw [step, hpush]
        rw [hsplit] at hrest
        exact ⟨_, _, _, h.pushed_part hrest hup htaken⟩
    · rw [hidle ?_]
      · exact ⟨past, first :: more, part, h⟩
      · intro turn hturn
        rw [h.line] at hturn
        obtain rfl := Option.some.inj hturn
        exact howner

theorem pause (h : Writing s up taken before t past waiting part) (length : Nat) :
    Writing s up taken before (t.step s d fuel (.pause length)) past waiting part := by
  rw [step]
  cases s.drawPause length t.channel.entropy with
  | error e => exact h
  | ok r =>
    exact ⟨h.up, h.joined, h.written, h.sent, h.line, h.part, h.distinct, h.carries, h.order⟩

/-- Readers leave the writers alone. -/
theorem read (h : Writing s up taken before t past waiting part)
    (hkeeps : ∀ {n u}, 0 < n → up u → up (d.read n u).2 ∧ taken (d.read n u).2 = taken u)
    {begun : Bytes} (hr : t.channel.reader.Began s begun) (owner room : Nat) :
    Writing s up taken before (t.step s d fuel (.read owner room)) past waiting part := by
  rw [step]
  by_cases hroom : room = 0
  · rw [if_pos hroom]
    exact h
  rw [if_neg hroom]
  have hwriters := (Channel.read_writers s d fuel owner room t.channel).1
  have hstream := Channel.read_keeps (d := d)
    (P := fun u => up u ∧ taken u = taken t.channel.stream)
    (fun hn hu => ⟨(hkeeps hn hu.1).1, (hkeeps hn hu.1).2.trans hu.2⟩) hr fuel owner room
    ⟨h.up, rfl⟩
  generalize t.channel.read s d fuel owner room = r at hwriters hstream
  obtain ⟨outcome, channel⟩ := r
  obtain ⟨hup, htaken⟩ := hstream
  cases outcome <;>
    exact ⟨hup, h.joined, h.written, htaken.trans h.sent, hwriters.trans h.line, h.part,
      h.distinct, h.carries, h.order⟩

end Writing

/-! ## Readers -/

/-- What holds of the readers: the reads that are over gave, in their order, what the bytes `wire`
carry, and the rest of that is owed. -/
structure Reading (s : Settings) (ahead : τ → Bytes) (wire : Bytes) (t : Traffic τ) : Prop where
  served : ∃ begun, t.channel.reader.Began s begun ∧
    Owed.giveAll s { parsed := s.parse wire } (t.reads.map (·.2.1)) =
      (t.reads.map (·.2.2), t.channel.reader.owed s begun (ahead t.channel.stream))
  /-- The reads are over in the order in which the readers joined their line. -/
  line : t.arrived = t.reads.map (·.1) ++ t.channel.readLine
  distinct : t.channel.readLine.Nodup
  room : ∀ n ∈ t.reads.map (·.2.1), 0 < n

namespace Reading

variable {s : Settings} {d : Carrier τ} {ahead : τ → Bytes} {wire : Bytes} {t : Traffic τ}
  {fuel : Nat}

/-- A step that leaves the readers and the bytes ahead alone. -/
theorem of_eq (h : Reading s ahead wire t) {channel : Channel τ} {t' : Traffic τ}
    (hchannel : t'.channel = channel) (hreader : channel.reader = t.channel.reader)
    (hline : channel.readLine = t.channel.readLine)
    (hahead : ahead channel.stream = ahead t.channel.stream) (harrived : t'.arrived = t.arrived)
    (hreads : t'.reads = t.reads) : Reading s ahead wire t' := by
  subst hchannel
  refine ⟨?_, ?_, ?_, ?_⟩
  · rw [hreads, hreader, hahead]
    exact h.served
  · rw [harrived, hreads, hline]
    exact h.line
  · rw [hline]
    exact h.distinct
  · rw [hreads]
    exact h.room

theorem nodup_enter {line : ReadLine} (h : line.Nodup) (owner : Nat) :
    (line.enter owner).Nodup := by
  unfold ReadLine.enter
  split
  · exact h
  · rename_i hout
    refine List.nodup_append.2 ⟨h, List.nodup_singleton owner, ?_⟩
    rintro o ho _ hmem rfl
    rw [List.mem_singleton.1 hmem] at ho
    exact hout (List.contains_iff_mem.2 ho)

/-- Whoever is the first in the line leaves it to the others. -/
theorem leave_of_isFirst {line : ReadLine} (h : line.Nodup) {owner : Nat}
    (hf : line.isFirst owner = true) : line = owner :: line.leave owner := by
  cases line with
  | nil => cases hf
  | cons first others =>
    obtain rfl : first = owner := Option.some.inj (of_decide_eq_true hf)
    have hout := (List.nodup_cons.1 h).1
    rw [ReadLine.leave, List.filter_cons_of_neg (by simp), List.filter_eq_self.2]
    intro o ho
    refine decide_eq_true ?_
    rintro rfl
    exact hout ho

/-- A task joins the line of readers, or goes on reading. -/
theorem read (h : Reading s ahead wire t) (hd : d.Gives ahead) (owner room : Nat) :
    Reading s ahead wire (t.step s d fuel (.read owner room)) := by
  rw [step]
  by_cases hroom : room = 0
  · rw [if_pos hroom]
    exact h
  rw [if_neg hroom]
  have hn := Nat.pos_of_ne_zero hroom
  have hdistinct := nodup_enter h.distinct owner
  have harrived : (if t.channel.readLine.contains owner then t.arrived else t.arrived ++ [owner]) =
      t.reads.map (·.1) ++ t.channel.readLine.enter owner := by
    rw [h.line, ReadLine.enter]
    split
    · rfl
    · rw [List.append_assoc]
  obtain ⟨begun, hr, hserved⟩ := h.served
  obtain ⟨begun', hr', hstep, -, -⟩ := Channel.read_serves hd hn hr owner fuel
  have hline := Channel.read_line (s := s) (d := d) hn owner fuel t.channel
  dsimp only at hline ⊢
  rw [harrived]
  generalize t.channel.read s d fuel owner room = r at hr' hstep hline
  obtain ⟨outcome, channel⟩ := r
  dsimp only at hr' hstep hline
  have hover (hne : outcome ≠ .waiting) : Reading s ahead wire
      { t with
        channel
        arrived := t.reads.map (·.1) ++ t.channel.readLine.enter owner
        reads := t.reads ++ [(owner, room, outcome)] } := by
    obtain ⟨hwait, -⟩ | ⟨-, hfirst, hleft⟩ := hline
    · exact absurd hwait hne
    have hsplit := leave_of_isFirst hdistinct hfirst
    rw [← hleft] at hsplit
    refine ⟨⟨begun', hr', ?_⟩, ?_, ?_, ?_⟩
    · rw [List.map_append, List.map_append, List.map_singleton, List.map_singleton,
        Owed.giveAll_concat, hserved, hstep.give_eq hne]
    · rw [List.map_append, hsplit, List.append_assoc]
      rfl
    · rw [hsplit] at hdistinct
      exact (List.nodup_cons.1 hdistinct).2
    · intro n hmem
      rw [List.map_append, List.mem_append, List.map_singleton, List.mem_singleton] at hmem
      rcases hmem with hmem | rfl
      · exact h.room n hmem
      · exact hn
  cases outcome with
  | waiting =>
    obtain ⟨-, hstays⟩ | ⟨hne, -⟩ := hline
    · refine ⟨⟨begun', hr', ?_⟩, ?_, ?_, h.room⟩
      · rw [hstep.eq_of_waiting]
        exact hserved
      · rw [hstays]
      · rw [hstays]
        exact hdistinct
    · exact absurd rfl hne
  | ready bs => exact hover fun hwait => by cases hwait
  | failed e => exact hover fun hwait => by cases hwait

/-- Writers leave the readers alone. -/
theorem write (h : Reading s ahead wire t) {up : τ → Prop}
    (hwrite : ∀ {bs u}, bs ≠ [] → up u → up (d.write bs u).2 ∧ ahead (d.write bs u).2 = ahead u)
    (hflush : ∀ {u}, up u → up (d.flush u).2 ∧ ahead (d.flush u).2 = ahead u)
    (hup : up t.channel.stream) {move : Move} (hmove : ∀ owner room, move ≠ .read owner room) :
    Reading s ahead wire (t.step s d fuel move) := by
  cases move with
  | make owner data =>
    rw [step]
    split
    · exact h
    · obtain ⟨pool, entropy, hmade⟩ := Channel.make_keeps s data t.channel
      generalize t.channel.make s data = made at hmade
      obtain ⟨outcome, channel⟩ := made
      obtain rfl : channel = { t.channel with pool, entropy } := hmade
      cases outcome <;> exact h.of_eq rfl rfl rfl rfl rfl rfl
  | join owner =>
    rw [step]
    split
    · exact h
    · exact h.of_eq rfl rfl rfl rfl rfl rfl
  | push owner =>
    obtain ⟨hreader, hline, -, hahead⟩ := Channel.push_readers (d := d)
      (P := fun u => up u ∧ ahead u = ahead t.channel.stream)
      (fun hne hu => ⟨(hwrite hne hu.1).1, (hwrite hne hu.1).2.trans hu.2⟩)
      (fun hu => ⟨(hflush hu.1).1, (hflush hu.1).2.trans hu.2⟩) owner ⟨hup, rfl⟩
    rw [step]
    generalize t.channel.push d owner = r at hreader hline hahead
    obtain ⟨outcome, channel⟩ := r
    cases outcome <;> exact h.of_eq rfl hreader hline hahead rfl rfl
  | pause length =>
    rw [step]
    split
    · exact h
    · exact h.of_eq rfl rfl rfl rfl rfl rfl
  | read owner room => exact absurd rfl (hmove owner room)

end Reading

/-! ## Runs -/

variable {s : Settings} {d : Carrier τ} {up : τ → Prop} {taken ahead : τ → Bytes}

/-- **Every run of the tasks keeps frames whole and gives the readers what arrives**, in their
order. -/
theorem run_sound (h : d.Reliable up taken ahead) (ho : s.obfuscation.check = .ok ())
    (fuel : Nat) {before wire : Bytes} (moves : List Move) {t : Traffic τ}
    (hw : ∃ past waiting part, Writing s up taken before t past waiting part)
    (hr : Reading s ahead wire t) :
    (∃ past waiting part, Writing s up taken before (t.run s d fuel moves) past waiting part) ∧
      Reading s ahead wire (t.run s d fuel moves) := by
  -- Each move is one of the writers or of the readers, and leaves what holds of the others alone.
  induction moves generalizing t with
  | nil => exact ⟨hw, hr⟩
  | cons move moves ih =>
    obtain ⟨past, waiting, part, hw⟩ := hw
    have hwrite {bs : Bytes} {u : τ} (hne : bs ≠ []) (hu : up u) :=
      And.intro (h.takes.up_write hne hu) (h.write_keeps hne hu)
    have hflush {u : τ} (hu : up u) := And.intro (h.flush_keeps hu).1 (h.flush_keeps hu).2.2
    cases move with
    | make owner data =>
      exact ih ⟨_, _, _, hw.make ho owner data⟩ (hr.write hwrite hflush hw.up nofun)
    | join owner =>
      obtain ⟨waiting', hw'⟩ := hw.join (d := d) owner
      exact ih ⟨_, _, _, hw'⟩ (hr.write hwrite hflush hw.up nofun)
    | push owner =>
      exact ih (hw.push h.puts owner) (hr.write hwrite hflush hw.up nofun)
    | pause length =>
      exact ih ⟨_, _, _, hw.pause length⟩ (hr.write hwrite hflush hw.up nofun)
    | read owner room =>
      obtain ⟨begun, hbegan, -⟩ := hr.served
      exact ih ⟨_, _, _, hw.read h.read_keeps hbegan owner room⟩ (hr.read h.gives owner room)

theorem proceed_eq_run (s : Settings) (d : Carrier τ) (fuel owner : Nat) (t : Traffic τ) :
    ∃ moves, (t.run s d fuel moves).channel = (t.channel.proceed s d owner).2 := by
  have hpush : (t.step s d fuel (.push owner)).channel = (t.channel.push d owner).2 := by
    rw [step]
    generalize t.channel.push d owner = r
    obtain ⟨outcome, channel⟩ := r
    cases outcome <;> rfl
  rw [Channel.proceed]
  generalize t.channel.push d owner = r at hpush
  obtain ⟨outcome, channel⟩ := r
  dsimp only at hpush
  cases outcome with
  | waiting => exact ⟨[.push owner], hpush⟩
  | failed e => exact ⟨[.push owner], hpush⟩
  | ready n =>
    refine ⟨[.push owner, .pause n], ?_⟩
    show (step s d fuel (.pause n) (t.step s d fuel (.push owner))).channel = _
    generalize t.step s d fuel (.push owner) = t' at hpush
    rw [step, hpush]
    dsimp only
    cases s.drawPause n channel.entropy with
    | error e => exact hpush
    | ok r => rfl

/-- Every poll of a write is a run of these steps, so their runs are all that tasks can do with
writes. -/
theorem write_eq_run (s : Settings) (d : Carrier τ) (fuel owner : Nat) (data : Bytes)
    (t : Traffic τ) (hready : ∀ k ∈ t.ready, k.owner ≠ owner) :
    ∃ moves, (t.run s d fuel moves).channel = (t.channel.write s d owner data).2 := by
  rw [Channel.write]
  by_cases hin : t.channel.writeLine.has owner = true
  · rw [if_pos hin]
    exact proceed_eq_run s d fuel owner t
  rw [if_neg hin]
  by_cases hd : data = []
  · subst hd
    exact ⟨[], rfl⟩
  rw [if_neg (mt List.isEmpty_iff.1 hd)]
  have hbusy : t.busy owner = false := by
    rw [busy, eq_false_of_ne_true hin, Bool.or_false, List.any_eq_false]
    exact fun k hk => by simpa using hready k hk
  have hfree : ¬(data = [] ∨ t.busy owner = true) := by
    rw [hbusy]
    simp [hd]
  rcases hmake : t.channel.make s data with ⟨outcome, channel⟩
  cases outcome with
  | error e =>
    refine ⟨[.make owner data], ?_⟩
    show (t.step s d fuel (.make owner data)).channel = channel
    rw [step, if_neg hfree, hmake]
  | ok p =>
    let ticket : Ticket := ⟨owner, s.chunkOf data, p⟩
    have hfind : (t.ready ++ [ticket]).find? (·.owner = owner) = some ticket := by
      rw [List.find?_append, List.find?_eq_none.2 fun k hk => by simpa using hready k hk]
      simp [ticket]
    let joined : Traffic τ :=
      { t with
        channel := channel.join owner p
        made := t.made ++ [ticket]
        ready := (t.ready ++ [ticket]).filter (·.owner ≠ owner)
        joined := t.joined ++ [ticket] }
    obtain ⟨moves, hmoves⟩ := proceed_eq_run s d fuel owner joined
    have hsteps : t.run s d fuel [.make owner data, .join owner] = joined := by
      show step s d fuel (.join owner) (t.step s d fuel (.make owner data)) = joined
      rw [step, step, if_neg hfree, hmake]
      dsimp only
      rw [hfind]
    refine ⟨[.make owner data, .join owner] ++ moves, ?_⟩
    rw [run, List.foldl_append]
    rw [run] at hsteps
    rw [hsteps]
    exact hmoves

/-- **Any order of writers and readers keeps frames whole.** At every moment the bytes on the stream
are the frames of the writes that are over, each once, in the order in which their tasks joined the
line, and then the first part of the holder's frame. Every frame carries the data it was made for,
and those of one task keep their order. The reads that are over gave, in the order in which the
readers joined their line, what the arriving bytes carry: unless one of them failed, every byte of
the data once, from the first on. -/
theorem frames_stay_whole (h : d.Reliable up taken ahead) (ho : s.obfuscation.check = .ok ())
    (fuel : Nat) {ch : Channel τ} (hup : up ch.stream) (hreader : ch.reader = {})
    (hreaders : ch.readLine = []) (hwriters : ch.writeLine = []) (moves : List Move) :
    let t := run s d fuel moves { channel := ch }
    let wire := s.parse (ahead ch.stream)
    let outcomes := t.reads.map (·.2.2)
    (∃ past waiting part, t.joined = past ++ waiting ∧
        t.written = past.map (fun k => (k.owner, k.chunk.length)) ∧
        taken t.channel.stream = taken ch.stream ++ past.flatMap Ticket.frame ++ part ∧
        t.channel.writeLine.map Turn.owner = waiting.map Ticket.owner ∧
        (part ≠ [] → ∃ holder more rest, waiting = holder :: more ∧
          t.channel.writeLine.holder? = some (holder.turn rest) ∧ holder.frame = part ++ rest)) ∧
      (∀ k ∈ t.made, k.Carries s) ∧
      (∀ owner, t.made.filter (·.owner = owner) =
        t.joined.filter (·.owner = owner) ++ t.ready.filter (·.owner = owner)) ∧
      t.arrived = t.reads.map (·.1) ++ t.channel.readLine ∧
      outcomes = (Owed.giveAll s { parsed := wire } (t.reads.map (·.2.1))).1 ∧
      ((∀ r ∈ outcomes, ∀ e, r ≠ .failed e) →
        outcomes.flatMap Poll.bytes <+: wire.data.flatten ∧
          ∀ r ∈ outcomes, r.bytes = [] →
            wire.ending = .closed ∧ outcomes.flatMap Poll.bytes = wire.data.flatten) := by
  intro t wire outcomes
  have hw : Writing s up taken (taken ch.stream) { channel := ch } [] [] [] := by
    refine ⟨hup, rfl, rfl, ?_, hwriters, List.nil_prefix, List.nodup_nil, nofun, fun _ => rfl⟩
    rw [List.flatMap_nil, List.append_nil, List.append_nil]
  have hr : Reading s ahead (ahead ch.stream) { channel := ch } := by
    refine ⟨⟨[], Reader.began_nil (by rw [hreader]), ?_⟩, ?_, ?_, nofun⟩
    · rw [hreader]
      rfl
    · rw [hreaders]
      rfl
    · rw [hreaders]
      exact List.nodup_nil
  obtain ⟨⟨past, waiting, part, hw⟩, hr⟩ := run_sound h ho fuel moves ⟨_, _, _, hw⟩ hr
  obtain ⟨begun, -, hserved⟩ := hr.served
  have houtcomes : outcomes = (Owed.giveAll s { parsed := wire } (t.reads.map (·.2.1))).1 := by
    rw [hserved]
  refine ⟨⟨past, waiting, part, hw.joined, hw.written, hw.sent, ?_, ?_⟩, hw.carries, hw.order,
    hr.line, houtcomes, ?_⟩
  · rw [hw.line, owners_lineOf]
  · intro hpart
    have hpre := hw.part
    have hline := hw.line
    cases waiting with
    | nil => exact absurd (List.prefix_nil.1 hpre) hpart
    | cons holder more =>
      obtain ⟨rest, hrest⟩ := hpre
      have hrest : part ++ rest = holder.frame := hrest
      refine ⟨holder, more, rest, rfl, ?_, hrest.symm⟩
      rw [hline, lineOf, ← hrest, List.drop_left]
      rfl
  · intro hfine
    rw [houtcomes] at hfine ⊢
    exact Owed.bytes_giveAll (fun _ => Settings.ne_nil_of_mem_parse) hr.room hfine

/-- Two writers, of whom the second joins the line first, and two readers of one frame. -/
theorem frames_of_two_writers :
    let s : Settings := { obfuscation := .disabled }
    let inbound : Pipe := { queue := ByteQueue.empty.push (Wire.frame [7, 8]), capacity := 64 }
    let ch : Channel (Pipe × Pipe) :=
      { pool := .empty 4 0, entropy := .ofBytes [], stream := (inbound, { capacity := 64 }) }
    let t := run s Pipe.crossed 9
      [.make 0 [1, 2], .make 1 [3], .join 1, .join 0, .push 0, .read 2 1, .push 1, .read 3 1]
      { channel := ch }
    s.obfuscation.check = .ok () ∧ ch.stream.2.closed = false ∧ ch.reader = {} ∧
      ch.readLine = [] ∧ ch.writeLine = [] ∧
      t.written = [(1, 1)] ∧ t.reads.map (·.2.2) = [.ready [7], .ready [8]] ∧
      (∃ past waiting part, t.joined = past ++ waiting ∧
        t.written = past.map (fun k => (k.owner, k.chunk.length)) ∧
        t.channel.stream.2.queue.toList =
          ch.stream.2.queue.toList ++ past.flatMap Ticket.frame ++ part) ∧
      (∀ k ∈ t.made, k.Carries s) ∧
      t.arrived = t.reads.map (·.1) ++ t.channel.readLine := by
  intro s inbound ch
  let moves : List Move :=
    [.make 0 [1, 2], .make 1 [3], .join 1, .join 0, .push 0, .read 2 1, .push 1, .read 3 1]
  let start : Traffic (Pipe × Pipe) := { channel := ch }
  have h := frames_stay_whole (s := s) Pipe.reliable_crossed rfl 9
    (show ch.stream.2.closed = false from rfl) rfl rfl rfl moves
  have hwritten : (start.run s Pipe.crossed 9 moves).written = [(1, 1)] := by decide +kernel
  have hreads : (start.run s Pipe.crossed 9 moves).reads.map (·.2.2) =
      [.ready [7], .ready [8]] := by decide +kernel
  change let t := start.run s Pipe.crossed 9 moves; _ at h
  show let t := start.run s Pipe.crossed 9 moves; _
  generalize start.run s Pipe.crossed 9 moves = t at h hwritten hreads ⊢
  obtain ⟨⟨past, waiting, part, hjoined, hpast, hsent, -⟩, hcarries, -, harrived, -⟩ := h
  exact ⟨rfl, rfl, rfl, rfl, rfl, hwritten, hreads,
    ⟨past, waiting, part, hjoined, hpast, hsent⟩, hcarries, harrived⟩

end Traffic

end SealedTunnel
