import SealedTunnel.Proofs.Conn.Serving
import SealedTunnel.Proofs.Conn.Writing
import SealedTunnel.Proofs.Loopback.Pipe

/-!
# A connection from end to end

One end writes byte strings, one after the other, and then closes; the other end reads. The two
ends agree on the cipher, on whether texts are padded and on compression, and may differ in
everything else. Between them is a stream that carries what is put in, in whatever pieces, and the
steps of the two ends come in any order. What the reader is given are the bytes that were written,
each piece out of one frame, and it learns of the end only behind all of them.

## Main definitions

* `Circuit`: the settings of the two ends, and what is between them
* `Session`: the two ends, what is still to be written, and the reads that are over
* `Event`, `Session.step`, `Session.run`: the steps of the two ends, in any order
* `Session.Pending`, `Session.Sound`: what every step keeps

## Main results

* `Session.Sound.send`, `Session.Sound.receive`: every step keeps it
* `Session.bytes_run_receive`: behind the closing, enough reads give all that was written
* `Session.deliver_eq_run`: writing all of a byte string is a run of such steps
* `Session.delivers`: what the reader is given is what was written
-/

namespace SealedTunnel

/-- The settings of the two ends, and what is between them. -/
structure Circuit (τ : Type) where
  /-- The settings of the end that writes. -/
  near : Settings
  /-- The settings of the end that reads. -/
  far : Settings
  link : Carrier τ
  fuel : Nat

/-- How far the writing end has come. -/
inductive Fate where
  | writing
  | closed
  | failed (e : TunnelError)
  deriving DecidableEq

/-- Two ends of one stream, which has the same state for both of them. -/
structure Session (τ : Type) where
  sender : Channel τ
  receiver : Channel τ
  /-- The byte strings that are still to be written, and of the first one the rest. -/
  todo : List Bytes
  fate : Fate := .writing
  /-- The reads that are over, in this order: the room that they had, and what they gave. -/
  reads : List (Nat × Poll TunnelError Bytes) := []

/-- A step of one of the ends, or of others. -/
inductive Event where
  /-- The writing end goes on with the first of its byte strings, or closes. -/
  | send
  /-- The reading end reads, or goes on reading. -/
  | receive (room : Nat)
  /-- Others use the pools of the two ends and draw random bytes: so much is left of them. -/
  | share (near far : Pool) (entropy : Entropy)

namespace Session

variable {τ : Type}

/-- The writing end has come further. -/
def sent (t : Session τ) (sender : Channel τ) : Session τ :=
  { t with sender, receiver := { t.receiver with stream := sender.stream } }

/-- The reading end has come further. -/
def heard (t : Session τ) (receiver : Channel τ) : Session τ :=
  { t with receiver, sender := { t.sender with stream := receiver.stream } }

/-- A read with so much room is over. -/
def gave (t : Session τ) (room : Nat) (outcome : Poll TunnelError Bytes) : Session τ :=
  { t with reads := t.reads ++ [(room, outcome)] }

/-- A write of the first of the byte strings has come this far. Whatever it did not consume is
written next. -/
def wrote (data : Bytes) (more : List Bytes) (t : Session τ) :
    Poll TunnelError (Nat × Option UInt64) × Channel τ → Session τ
  | (.ready (0, _), sender) => { t.sent sender with fate := .failed .closed }
  | (.ready (n + 1, _), sender) => { t.sent sender with todo := data.drop (n + 1) :: more }
  | (.failed e, sender) => { t.sent sender with fate := .failed e }
  | (.waiting, sender) => t.sent sender

/-- The closing has come this far. -/
def left (t : Session τ) : Poll TunnelError Unit × Channel τ → Session τ
  | (.ready (), sender) => { t.sent sender with fate := .closed }
  | (.failed e, sender) => { t.sent sender with fate := .failed e }
  | (.waiting, sender) => t.sent sender

/-- One step. An end that has closed or failed does nothing more. -/
def step (c : Circuit τ) : Event → Session τ → Session τ
  | .send, t =>
    match t.fate, t.todo with
    | .writing, [] => t.left (t.sender.close c.link 0)
    | .writing, [] :: more => { t with todo := more }
    | .writing, data :: more => t.wrote data more (t.sender.write c.near c.link 0 data)
    | .closed, _ | .failed _, _ => t
  | .receive room, t =>
    if room = 0 then t
    else
      match t.receiver.read c.far c.link c.fuel 0 room with
      | (.waiting, receiver) => t.heard receiver
      | (outcome, receiver) => (t.heard receiver).gave room outcome
  | .share near far entropy, t =>
    { t with
      sender := { t.sender with pool := near, entropy }
      receiver := { t.receiver with pool := far } }

/-- The steps of the two ends, one after the other. -/
def run (c : Circuit τ) (events : List Event) (t : Session τ) : Session τ :=
  events.foldl (fun t event => t.step c event) t

/-- The room that the reads had which are over. -/
def rooms (t : Session τ) : List Nat :=
  t.reads.map Prod.fst

/-- What the reads gave which are over. -/
def outcomes (t : Session τ) : List (Poll TunnelError Bytes) :=
  t.reads.map Prod.snd

/-- What a write comes to does not depend on where the writing end stood before it. -/
theorem wrote_sender (t : Session τ) (sender : Channel τ) (data : Bytes) (more : List Bytes)
    (r : Poll TunnelError (Nat × Option UInt64) × Channel τ) :
    wrote data more { t with sender } r = t.wrote data more r := rfl

section Steps

variable {c : Circuit τ} {t : Session τ} {data : Bytes} {more : List Bytes}

theorem step_send_over (hfate : t.fate ≠ .writing) : t.step c .send = t := by
  obtain ⟨sender, receiver, todo, fate, reads⟩ := t
  cases fate with
  | writing => exact absurd rfl hfate
  | closed | failed => rfl

theorem step_send_nil (hfate : t.fate = .writing) (htodo : t.todo = []) :
    t.step c .send = t.left (t.sender.close c.link 0) := by
  rw [step, hfate, htodo]

theorem step_send_empty (hfate : t.fate = .writing) (htodo : t.todo = [] :: more) :
    t.step c .send = { t with todo := more } := by
  obtain ⟨sender, receiver, todo, fate, reads⟩ := t
  obtain rfl : fate = .writing := hfate
  obtain rfl : todo = [] :: more := htodo
  rfl

theorem step_send_cons (hfate : t.fate = .writing) (htodo : t.todo = data :: more)
    (hdata : data ≠ []) :
    t.step c .send = t.wrote data more (t.sender.write c.near c.link 0 data) := by
  obtain ⟨b, bs, rfl⟩ := List.exists_cons_of_ne_nil hdata
  rw [step, hfate, htodo]

theorem step_receive {n : Nat} (hn : 0 < n)
    (hr : (t.receiver.read c.far c.link c.fuel 0 n).1 ≠ .waiting) :
    t.step c (.receive n) =
      (t.heard (t.receiver.read c.far c.link c.fuel 0 n).2).gave n
        (t.receiver.read c.far c.link c.fuel 0 n).1 := by
  rw [step, if_neg (Nat.ne_of_gt hn)]
  generalize t.receiver.read c.far c.link c.fuel 0 n = r at hr
  obtain ⟨outcome, receiver⟩ := r
  cases outcome with
  | waiting => exact absurd rfl hr
  | ready | failed => rfl

end Steps

@[simp] theorem rooms_gave (t : Session τ) (room : Nat) (outcome : Poll TunnelError Bytes) :
    (t.gave room outcome).rooms = t.rooms ++ [room] :=
  List.map_append

@[simp] theorem outcomes_gave (t : Session τ) (room : Nat) (outcome : Poll TunnelError Bytes) :
    (t.gave room outcome).outcomes = t.outcomes ++ [outcome] :=
  List.map_append

/-! ## What every step keeps -/

/-- What the writing end is about, by its fate, the line of writers, the byte strings that it has
still to write, the bytes of its frame that are `coming`, and the data that is in no frame yet. -/
inductive Pending : Fate → WriteLine → List Bytes → (coming : Bytes) → (untold : List Bytes) → Prop
  | idle {todo : List Bytes} : Pending .writing [] todo [] todo
  /-- The frame of the first bytes of a byte string is on its way. -/
  | frame {chunk data coming : Bytes} {more : List Bytes} {loans : List Buffer} (h : chunk ≠ []) :
      Pending .writing [⟨0, coming, chunk.length, loans⟩] ((chunk ++ data) :: more) coming
        (data :: more)
  /-- Everything is in the stream, which is being shut. -/
  | closing : Pending .writing [⟨0, [], 0, []⟩] [] [] []
  | closed {line : WriteLine} : Pending .closed line [] [] []
  | failed {line : WriteLine} {todo untold : List Bytes} :
      Pending (.failed (.crypto .noEntropy)) line todo [] untold

/-- What holds of a session in which `program` is written: the frames that were made carry `chunks`,
and the reads that are over gave what those carry, as far as they came. -/
structure Sound (c : Circuit τ) (queue : τ → Bytes) (closed : τ → Bool) (program : List Bytes)
    (t : Session τ) (chunks untold : List Bytes) (coming begun : Bytes) : Prop where
  shared : t.sender.stream = t.receiver.stream
  closed_iff : closed t.receiver.stream = true ↔ t.fate = .closed
  pending : Pending t.fate t.sender.writeLine t.todo coming untold
  told : chunks ++ untold.flatMap c.near.chunksOf = program.flatMap c.near.chunksOf
  chunks_ne : ∀ chunk ∈ chunks, chunk ≠ []
  began : t.receiver.reader.Began c.far begun
  served : Owed.giveAll c.far { parsed := { data := chunks, ending := .closed } } t.rooms =
    (t.outcomes, t.receiver.reader.owed c.far begun (queue t.receiver.stream ++ coming))
  /-- Nobody is told of an end that has not come. -/
  unended : t.fate ≠ .closed → ∀ r ∈ t.outcomes, r.bytes ≠ []
  room : ∀ n ∈ t.rooms, 0 < n
  alone : t.receiver.readLine = [] ∨ t.receiver.readLine = [0]

/-- An end that has closed has put everything into the stream. -/
theorem Pending.of_closed {fate : Fate} {line : WriteLine} {todo untold : List Bytes}
    {coming : Bytes} (h : Pending fate line todo coming untold) (hclosed : fate = .closed) :
    coming = [] ∧ untold = [] := by
  cases h with
  | idle | frame | closing | failed => cases hclosed
  | closed => exact ⟨rfl, rfl⟩

namespace Sound

variable {c : Circuit τ} {queue : τ → Bytes} {closed : τ → Bool} {program : List Bytes}
  {t : Session τ} {chunks untold more : List Bytes} {coming begun data : Bytes}

/-- What is ahead of the reader: the bytes in the stream, and those that are coming. -/
theorem ahead_eq (h : Sound c queue closed program t chunks untold coming begun) {s : τ}
    (hs : closed s = closed t.receiver.stream) :
    queue s ++ (if closed s then [] else coming) = queue s ++ coming := by
  by_cases hclosed : closed s = true
  · rw [(h.pending.of_closed (h.closed_iff.1 (hs ▸ hclosed))).1, ite_self]
  · rw [if_neg hclosed]

theorem enter_eq (h : Sound c queue closed program t chunks untold coming begun) :
    t.receiver.readLine.enter 0 = [0] := by
  rcases h.alone with hnil | hone
  · rw [hnil]
    rfl
  · rw [hone]
    rfl

/-- The reader has begun a frame, or none, and then whole frames are ahead of it. -/
theorem closing (h : Sound c queue closed program t chunks untold coming begun) :
    (t.receiver.reader.owed c.far begun (queue t.receiver.stream ++ coming)).Closing := by
  have hstart : Owed.Closing { parsed := { data := chunks, ending := .closed } } := ⟨rfl, rfl⟩
  have := (hstart.giveAll c.far t.rooms).2
  rw [h.served] at this
  exact this

theorem outcomes_ready (h : Sound c queue closed program t chunks untold coming begun) :
    ∀ r ∈ t.outcomes, ∃ bs, r = .ready bs := by
  have hstart : Owed.Closing { parsed := { data := chunks, ending := .closed } } := ⟨rfl, rfl⟩
  have := (hstart.giveAll c.far t.rooms).1
  rw [h.served] at this
  exact this

/-- While the stream is open, a read that is over gave a piece: behind the last frame there may
always come a byte more, so nobody can be told that there is none. -/
theorem piece_of_ready (h : Sound c queue closed program t chunks untold coming begun)
    (hc : c.link.Carries queue closed) {room : Nat} (hroom : 0 < room)
    (hopen : closed t.receiver.stream = false) {bs : Bytes}
    (hr : (t.receiver.read c.far c.link c.fuel 0 room).1 = .ready bs) : bs ≠ [] := by
  rintro rfl
  obtain ⟨begun', -, hstep, -, -⟩ :=
    Channel.read_serves (hc.gives (coming ++ [0])) hroom h.began 0 c.fuel
  have hone : c.far.parse [0] = { ending := .failed (.framing (.endInsideHeader 1)) } := by
    rw [Settings.parse]
    rfl
  have hending : (c.far.parse (begun ++ (queue t.receiver.stream ++ (coming ++ [0])))).ending =
      .failed (.framing (.endInsideHeader 1)) := by
    rw [← List.append_assoc (queue _), ← List.append_assoc begun,
      Settings.parse_append h.closing.parsed_eq, hone]
  rw [hr, hopen, if_neg Bool.false_ne_true] at hstep
  have hproper : (t.receiver.reader.owed c.far begun
      (queue t.receiver.stream ++ (coming ++ [0]))).Proper := fun _ => Settings.ne_nil_of_mem_parse
  have hgiven := Owed.given_give (s := c.far) hroom hproper
  rw [hstep.give_eq fun hwait => by cases hwait] at hgiven
  cases hending.symm.trans hgiven.ending_eq_closed

section Receiver

variable {receiver : Channel τ} {begun' : Bytes} {room : Nat} {outcome : Poll TunnelError Bytes}

/-- A read that has to wait leaves what is owed as it was. -/
theorem hear (h : Sound c queue closed program t chunks untold coming begun)
    (hclosed : closed receiver.stream = closed t.receiver.stream)
    (hbegan : receiver.reader.Began c.far begun')
    (howed : receiver.reader.owed c.far begun' (queue receiver.stream ++ coming) =
      t.receiver.reader.owed c.far begun (queue t.receiver.stream ++ coming))
    (halone : receiver.readLine = [] ∨ receiver.readLine = [0]) :
    Sound c queue closed program (t.heard receiver) chunks untold coming begun' := by
  refine ⟨rfl, ?_, h.pending, h.told, h.chunks_ne, hbegan, ?_, h.unended, h.room, halone⟩
  · show closed receiver.stream = true ↔ t.fate = .closed
    rw [hclosed]
    exact h.closed_iff
  · show Owed.giveAll c.far _ t.rooms =
      (t.outcomes, receiver.reader.owed c.far begun' (queue receiver.stream ++ coming))
    rw [howed]
    exact h.served

/-- A read that is over gives some of what is owed. -/
theorem give (h : Sound c queue closed program t chunks untold coming begun)
    (hclosed : closed receiver.stream = closed t.receiver.stream)
    (hbegan : receiver.reader.Began c.far begun') (hroom : 0 < room)
    (hgive : Owed.give c.far room
        (t.receiver.reader.owed c.far begun (queue t.receiver.stream ++ coming)) =
      (outcome, receiver.reader.owed c.far begun' (queue receiver.stream ++ coming)))
    (hpiece : t.fate ≠ .closed → outcome.bytes ≠ []) (hline : receiver.readLine = []) :
    Sound c queue closed program ((t.heard receiver).gave room outcome) chunks untold coming
      begun' := by
  refine ⟨rfl, ?_, h.pending, h.told, h.chunks_ne, hbegan, ?_, ?_, ?_, .inl hline⟩
  · show closed receiver.stream = true ↔ t.fate = .closed
    rw [hclosed]
    exact h.closed_iff
  · have hserved : Owed.giveAll _ _ (t.heard receiver).rooms = _ := h.served
    rw [rooms_gave, outcomes_gave, Owed.giveAll_concat, hserved, hgive]
    rfl
  · rw [outcomes_gave]
    intro hopen r hr
    rcases List.mem_append.1 hr with hr | hr
    · exact h.unended hopen r hr
    · rw [List.mem_singleton.1 hr]
      exact hpiece hopen
  · rw [rooms_gave]
    intro n hn
    rcases List.mem_append.1 hn with hn | hn
    · exact h.room n hn
    · rw [List.mem_singleton.1 hn]
      exact hroom

end Receiver

/-- **A step of the reading end** gives it some of what was written, or makes it wait. -/
theorem receive (h : Sound c queue closed program t chunks untold coming begun)
    (hc : c.link.Carries queue closed) (room : Nat) :
    ∃ begun',
      Sound c queue closed program (t.step c (.receive room)) chunks untold coming begun' := by
  rw [step]
  by_cases hzero : room = 0
  · rw [if_pos hzero]
    exact ⟨begun, h⟩
  rw [if_neg hzero]
  have hroom := Nat.pos_of_ne_zero hzero
  have hpiece (hopen : t.fate ≠ .closed) {bs : Bytes}
      (hr : (t.receiver.read c.far c.link c.fuel 0 room).1 = .ready bs) : bs ≠ [] :=
    h.piece_of_ready hc hroom (eq_false_of_ne_true (mt h.closed_iff.1 hopen)) hr
  have hclosed := Channel.read_keeps (P := fun s => closed s = closed t.receiver.stream)
    (fun hn hs => (hc.closed_read hn).trans hs) h.began c.fuel 0 room rfl
  obtain ⟨begun', hbegan, hstep, -, -⟩ :=
    Channel.read_serves (hc.gives coming) hroom h.began 0 c.fuel
  have hline := Channel.read_line (s := c.far) (d := c.link) hroom 0 c.fuel t.receiver
  dsimp only at hstep hline hbegan
  rw [h.enter_eq] at hline
  generalize t.receiver.read c.far c.link c.fuel 0 room = r at hpiece hclosed hbegan hstep hline
  obtain ⟨outcome, receiver⟩ := r
  dsimp only at hpiece hclosed hbegan hstep hline
  rw [h.ahead_eq rfl, h.ahead_eq hclosed] at hstep
  refine ⟨begun', ?_⟩
  cases outcome with
  | waiting =>
    rcases hline with ⟨-, hstays⟩ | ⟨hne, -⟩
    · exact h.hear hclosed hbegan hstep.eq_of_waiting (.inr hstays)
    · exact absurd rfl hne
  | ready bs =>
    rcases hline with ⟨hwait, -⟩ | ⟨hne, -, hleft⟩
    · cases hwait
    · exact h.give hclosed hbegan hroom (hstep.give_eq hne) (fun hopen => hpiece hopen rfl) hleft
  | failed e =>
    -- Only whole frames are ahead, so nothing can fail.
    obtain ⟨⟨bs, hbs⟩, -⟩ := h.closing.give c.far room
    rw [hstep.give_eq nofun] at hbs
    cases hbs

theorem not_closed_of_writing {fate : Fate} (hfate : fate = .writing) : fate ≠ .closed := by
  rintro rfl
  cases hfate

theorem open_of_writing (h : Sound c queue closed program t chunks untold coming begun)
    (hfate : t.fate = .writing) : closed t.sender.stream = false := by
  refine eq_false_of_ne_true fun hclosed => ?_
  rw [h.shared, h.closed_iff, hfate] at hclosed
  cases hclosed

/-- What the writing end may do: the bytes in the stream and those that are coming stay the same
bytes, and so does the data that is in no frame yet. -/
theorem of_sender (h : Sound c queue closed program t chunks untold coming begun) {t' : Session τ}
    {untold' : List Bytes} {coming' : Bytes}
    (hreceiver : t'.receiver = { t.receiver with stream := t'.sender.stream })
    (hreads : t'.reads = t.reads)
    (hclosed : closed t'.sender.stream = true ↔ t'.fate = .closed)
    (hopen : t'.fate ≠ .closed → t.fate ≠ .closed)
    (hpending : Pending t'.fate t'.sender.writeLine t'.todo coming' untold')
    (hahead : queue t'.sender.stream ++ coming' = queue t.receiver.stream ++ coming)
    (htold : untold'.flatMap c.near.chunksOf = untold.flatMap c.near.chunksOf) :
    Sound c queue closed program t' chunks untold' coming' begun := by
  obtain ⟨sender, receiver, todo, fate, reads⟩ := t'
  obtain rfl : receiver = { t.receiver with stream := sender.stream } := hreceiver
  obtain rfl : reads = t.reads := hreads
  refine ⟨rfl, hclosed, hpending, ?_, h.chunks_ne, h.began, ?_, ?_, h.room, h.alone⟩
  · rw [htold]
    exact h.told
  · show Owed.giveAll c.far _ t.rooms =
      (t.outcomes, t.receiver.reader.owed c.far begun (queue sender.stream ++ coming'))
    rw [show queue sender.stream ++ coming' = _ from hahead]
    exact h.served
  · exact fun hstill => h.unended (hopen hstill)

/-- The writing end goes on with a frame. -/
theorem proceed {chunk : Bytes} (loans : List Buffer)
    (h : Sound c queue closed program t chunks (data :: more) coming begun)
    (hc : c.link.Carries queue closed) (hfate : t.fate = .writing) (hchunk : chunk ≠ [])
    (hline : t.sender.writeLine = [⟨0, coming, chunk.length, loans⟩])
    (htodo : t.todo = (chunk ++ data) :: more) :
    ∃ coming', Sound c queue closed program
      (t.wrote (chunk ++ data) more (t.sender.proceed c.near c.link 0)) chunks (data :: more)
      coming' begun := by
  obtain ⟨went, rest, stream, hsplit, hopen, htaken, hcases⟩ :=
    Channel.proceed_takes (s := c.near) hc.takes hline (h.open_of_writing hfate)
  have hahead : queue stream ++ rest = queue t.receiver.stream ++ coming := by
    rw [htaken, h.shared, List.append_assoc, ← hsplit]
  have hclosed {fate : Fate} (hstill : fate ≠ .closed) : closed stream = true ↔ fate = .closed := by
    rw [hopen]
    exact ⟨nofun, fun hfate => absurd hfate hstill⟩
  have hwriting : t.fate ≠ .closed := not_closed_of_writing hfate
  refine ⟨rest, ?_⟩
  obtain ⟨rfl, pool, entropy, pause, hr⟩ | ⟨rfl, pool, hr⟩ | hr := hcases
  · obtain ⟨b, bs, rfl⟩ := List.exists_cons_of_ne_nil hchunk
    have hr : t.sender.proceed c.near c.link 0 = _ := hr
    rw [hr]
    refine h.of_sender rfl rfl (hclosed hwriting) (fun _ => hwriting) ?_ hahead rfl
    show Pending t.fate [] ((b :: bs ++ data).drop (b :: bs).length :: more) [] _
    rw [hfate, List.drop_left]
    exact .idle
  · have hr : t.sender.proceed c.near c.link 0 = _ := hr
    rw [hr]
    exact h.of_sender rfl rfl (hclosed nofun) (fun _ => hwriting) .failed hahead rfl
  · have hr : t.sender.proceed c.near c.link 0 = _ := hr
    rw [hr]
    refine h.of_sender rfl rfl (hclosed hwriting) (fun _ => hwriting) ?_ hahead rfl
    show Pending t.fate _ t.todo _ _
    rw [hfate, htodo]
    exact .frame hchunk

/-- The writing end makes a frame of the first bytes of what it writes next. -/
theorem make (h : Sound c queue closed program t chunks (data :: more) [] begun)
    (hab : Settings.Agree c.near c.far) (ho : c.near.obfuscation.check = .ok ())
    (hfate : t.fate = .writing) (hdata : data ≠ []) (htodo : t.todo = data :: more)
    (hline : t.sender.writeLine = []) (pool : Pool) (loans : List Buffer) {payload : Bytes}
    {entropy : Entropy}
    (hp : c.near.payload (c.near.chunkOf data) t.sender.entropy = .ok (payload, entropy)) :
    Sound c queue closed program
      { t with
        sender := Channel.join 0 ⟨Wire.frame payload, (c.near.chunkOf data).length, loans⟩
          { t.sender with pool, entropy } }
      (chunks ++ [c.near.chunkOf data]) (data.drop c.near.chunkLimit :: more) (Wire.frame payload)
      begun := by
  have hl := c.near.length_chunkOf_le data
  have hne := c.near.chunkOf_ne_nil hdata
  have hsplit : c.near.chunkOf data ++ data.drop c.near.chunkLimit = data :=
    List.take_append_drop ..
  have hstill : t.fate ≠ .closed := not_closed_of_writing hfate
  refine ⟨h.shared, h.closed_iff, ?_, ?_, ?_, h.began, ?_, h.unended, h.room, h.alone⟩
  · show Pending t.fate (t.sender.writeLine.enter 0 _) t.todo _ _
    rw [hfate, hline, htodo]
    conv => arg 3; rw [← hsplit]
    exact .frame hne
  · rw [← h.told, List.flatMap_cons, List.flatMap_cons, c.near.chunksOf_of_ne hdata,
      List.append_assoc]
    rfl
  · intro chunk hchunk
    rcases List.mem_append.1 hchunk with hchunk | hchunk
    · exact h.chunks_ne chunk hchunk
    · rw [List.mem_singleton.1 hchunk]
      exact hne
  · have hserved := h.served
    have hwhole := h.closing.parsed_eq
    rw [List.append_nil] at hserved hwhole
    have hpieces : ∀ r ∈ (Owed.giveAll c.far
        { parsed := { data := chunks, ending := .closed } } t.rooms).1, r.bytes ≠ [] := by
      rw [hserved]
      exact h.unended hstill
    have hgiven := Owed.giveAll_followedBy hpieces (c.near.chunkOf data)
    have hparse := Settings.parse_append_frame hwhole (Settings.fits_payload ho hne hl hp)
      (hab.maxFrameLength ▸ (Settings.length_payload ho hne hl hp).2)
      (Settings.decode_payload hab hl hp) hne
    rw [List.append_assoc] at hparse
    rw [hserved] at hgiven
    have howed : t.receiver.reader.owed c.far begun
        (queue t.receiver.stream ++ Wire.frame payload) =
          (t.receiver.reader.owed c.far begun (queue t.receiver.stream)).followedBy
            (c.near.chunkOf data) := by
      rw [Reader.owed, hparse, Owed.followedBy, hwhole]
      rfl
    show Owed.giveAll c.far _ t.rooms = (t.outcomes, Reader.owed ..)
    rw [howed]
    exact hgiven

/-- With nothing left to write, the writing end closes, or has to wait with that. -/
theorem close (h : Sound c queue closed program t chunks [] [] begun)
    (hc : c.link.Carries queue closed) (hfate : t.fate = .writing) (htodo : t.todo = [])
    (hline : t.sender.writeLine = [] ∨ t.sender.writeLine = [⟨0, [], 0, []⟩]) :
    Sound c queue closed program (t.step c .send) chunks [] [] begun := by
  have hopen := h.open_of_writing hfate
  obtain ⟨hqueue, hcases⟩ := hc.finish t.sender.stream
  rw [step_send_nil hfate htodo, Channel.close_of_alone hline]
  generalize c.link.finish t.sender.stream = r at hqueue hcases
  obtain ⟨outcome, stream⟩ := r
  have hahead : queue stream ++ [] = queue t.receiver.stream ++ [] := by
    rw [hqueue, h.shared]
  rcases hcases with ⟨rfl, hclosed⟩ | ⟨rfl, hsame⟩
  · refine h.of_sender rfl rfl ⟨fun _ => rfl, fun _ => hclosed⟩ (fun hopen => absurd rfl hopen) ?_
      hahead rfl
    show Pending .closed [] t.todo [] []
    rw [htodo]
    exact .closed
  · have hwriting : t.fate ≠ .closed := not_closed_of_writing hfate
    refine h.of_sender rfl rfl ?_ (fun _ => hwriting) ?_ hahead rfl
    · show closed stream = true ↔ t.fate = .closed
      rw [hsame, hopen]
      exact ⟨nofun, fun hfate => absurd hfate hwriting⟩
    · show Pending t.fate _ t.todo [] []
      rw [hfate, htodo]
      exact .closing

/-- Of an empty byte string there is nothing to write. -/
theorem skip (h : Sound c queue closed program t chunks ([] :: more) [] begun)
    (hfate : t.fate = .writing) (htodo : t.todo = [] :: more) (hline : t.sender.writeLine = []) :
    Sound c queue closed program (t.step c .send) chunks more [] begun := by
  rw [step_send_empty hfate htodo]
  refine h.of_sender ?_ rfl ?_ id ?_ ?_ ?_
  · show t.receiver = { t.receiver with stream := t.sender.stream }
    rw [h.shared]
  · show closed t.sender.stream = true ↔ t.fate = .closed
    rw [h.shared]
    exact h.closed_iff
  · show Pending t.fate t.sender.writeLine more [] more
    rw [hfate, hline]
    exact .idle
  · show queue t.sender.stream ++ [] = _
    rw [h.shared]
  · rw [List.flatMap_cons, c.near.chunksOf_nil, List.nil_append]

/-- The writing end makes a frame of the next bytes, and puts in as much of it as the stream
takes. -/
theorem write (h : Sound c queue closed program t chunks (data :: more) [] begun)
    (hc : c.link.Carries queue closed) (hab : Settings.Agree c.near c.far)
    (ho : c.near.obfuscation.check = .ok ()) (hfate : t.fate = .writing) (hdata : data ≠ [])
    (htodo : t.todo = data :: more) (hline : t.sender.writeLine = []) :
    ∃ chunks' untold' coming',
      Sound c queue closed program (t.step c .send) chunks' untold' coming' begun := by
  have hout : ¬t.sender.writeLine.has 0 = true := by
    rw [hline]
    exact Bool.false_ne_true
  rw [step_send_cons hfate htodo hdata, Channel.write, if_neg hout,
    if_neg (mt List.isEmpty_iff.1 hdata)]
  rcases Channel.make_eq ho hdata t.sender with
    ⟨e, pool, hp, hmake⟩ | ⟨payload, entropy, loans, pool, hp, hmake⟩
  · have hopen := h.open_of_writing hfate
    have hwriting : t.fate ≠ .closed := not_closed_of_writing hfate
    rw [hmake, Settings.eq_noEntropy_of_payload hp]
    refine ⟨chunks, data :: more, [], h.of_sender rfl rfl ?_ (fun _ => hwriting) .failed ?_ rfl⟩
    · show closed t.sender.stream = true ↔ _
      rw [hopen]
      refine iff_of_false Bool.false_ne_true ?_
      intro hfailed
      cases hfailed
    · show queue t.sender.stream ++ [] = _
      rw [h.shared]
  · have hmade := h.make hab ho hfate hdata htodo hline pool loans hp
    have hsplit : c.near.chunkOf data ++ data.drop c.near.chunkLimit = data :=
      List.take_append_drop ..
    obtain ⟨coming', h'⟩ := hmade.proceed loans hc hfate
      (c.near.chunkOf_ne_nil hdata) (by rw [Channel.join, hline]; rfl)
      (by rw [hsplit]; exact htodo)
    rw [hsplit, wrote_sender] at h'
    rw [hmake]
    exact ⟨_, _, _, h'⟩

/-- **A step of the writing end** makes a frame, or brings the one that is on its way further, or
closes behind the last. -/
theorem send (h : Sound c queue closed program t chunks untold coming begun)
    (hc : c.link.Carries queue closed) (hab : Settings.Agree c.near c.far)
    (ho : c.near.obfuscation.check = .ok ()) :
    ∃ chunks' untold' coming',
      Sound c queue closed program (t.step c .send) chunks' untold' coming' begun := by
  have hpending := h.pending
  generalize hfate : t.fate = fate at hpending
  generalize hline : t.sender.writeLine = line at hpending
  generalize htodo : t.todo = todo at hpending
  cases hpending with
  | idle =>
    cases untold with
    | nil => exact ⟨_, _, _, h.close hc hfate htodo (.inl hline)⟩
    | cons data more =>
      by_cases hdata : data = []
      · subst hdata
        exact ⟨_, _, _, h.skip hfate htodo hline⟩
      · exact h.write hc hab ho hfate hdata htodo hline
  | @frame chunk data coming more loans hchunk =>
    have hdata : chunk ++ data ≠ [] := by
      intro hnil
      exact hchunk (List.append_eq_nil_iff.1 hnil).1
    have hin : t.sender.writeLine.has 0 = true := by
      rw [hline]
      rfl
    rw [step_send_cons hfate htodo hdata, Channel.write, if_pos hin]
    obtain ⟨coming', h'⟩ := h.proceed loans hc hfate hchunk hline htodo
    exact ⟨_, _, _, h'⟩
  | closing => exact ⟨_, _, _, h.close hc hfate htodo (.inr hline)⟩
  | closed | failed =>
    have hdone : t.fate ≠ .writing := by
      intro hwriting
      rw [hwriting] at hfate
      cases hfate
    rw [step_send_over hdone]
    exact ⟨_, _, _, h⟩

/-- Nothing of it depends on buffers or on random bytes to come. -/
theorem share (h : Sound c queue closed program t chunks untold coming begun) (near far : Pool)
    (entropy : Entropy) :
    Sound c queue closed program (t.step c (.share near far entropy)) chunks untold coming begun :=
  ⟨h.shared, h.closed_iff, h.pending, h.told, h.chunks_ne, h.began, h.served, h.unended, h.room,
    h.alone⟩

/-! ### What a reader is given -/

theorem flatten_chunks (h : Sound c queue closed program t chunks untold coming begun) :
    chunks.flatten ++ untold.flatten = program.flatten := by
  rw [← c.near.flatten_flatMap_chunksOf program, ← h.told, List.flatten_append,
    c.near.flatten_flatMap_chunksOf]

theorem chunks_eq (h : Sound c queue closed program t chunks untold coming begun)
    (hfate : t.fate = .closed) : chunks = program.flatMap c.near.chunksOf := by
  rw [← h.told, (h.pending.of_closed hfate).2, List.flatMap_nil, List.append_nil]

theorem bytes_outcomes (h : Sound c queue closed program t chunks untold coming begun) :
    t.outcomes.flatMap Poll.bytes <+: program.flatten ∧
      ∀ r ∈ t.outcomes, r.bytes = [] →
        t.fate = .closed ∧ t.outcomes.flatMap Poll.bytes = program.flatten := by
  have hready := h.outcomes_ready
  have hgiven := Owed.bytes_giveAll (s := c.far)
    (o := { parsed := { data := chunks, ending := .closed } }) h.chunks_ne h.room
  rw [h.served] at hgiven
  obtain ⟨hpre, hend⟩ := hgiven fun r hr e he => by
    obtain ⟨bs, rfl⟩ := hready r hr
    cases he
  refine ⟨hpre.trans ⟨untold.flatten, h.flatten_chunks⟩, fun r hr hnone => ?_⟩
  have hfate : t.fate = .closed := by
    by_contra hopen
    exact h.unended hopen r hr hnone
  rw [(hend r hr hnone).2, Owed.content, List.nil_append, h.chunks_eq hfate,
    c.near.flatten_flatMap_chunksOf]
  exact ⟨hfate, rfl⟩

/-- Behind all that was written a read gives nothing. -/
theorem read_behind (h : Sound c queue closed program t chunks untold coming begun)
    (hc : c.link.Carries queue closed)
    (hall : t.outcomes.flatMap Poll.bytes = program.flatten) {n : Nat} (hn : 0 < n) :
    (t.receiver.read c.far c.link c.fuel 0 n).1 = .waiting ∨
      (t.receiver.read c.far c.link c.fuel 0 n).1 = .ready [] := by
  by_cases hwait : (t.receiver.read c.far c.link c.fuel 0 n).1 = .waiting
  · exact .inl hwait
  obtain ⟨begun', h'⟩ := h.receive hc n
  have hstep := step_receive hn hwait
  have hready := h'.outcomes_ready
  have hpre := h'.bytes_outcomes.1
  rw [hstep, outcomes_gave] at hready hpre
  obtain ⟨bs, hbs⟩ := hready _ (List.mem_append_right _ (List.mem_singleton.2 rfl))
  have hsame : (t.heard (t.receiver.read c.far c.link c.fuel 0 n).2).outcomes = t.outcomes := rfl
  rw [hsame, List.flatMap_append, hall, List.flatMap_singleton, hbs] at hpre
  have hnil : bs = [] := List.prefix_append_right_inj program.flatten |>.1
    (by rw [List.append_nil]; exact hpre) |> List.prefix_nil.1
  rw [hbs, hnil]
  exact .inr rfl

/-- Once the other end has closed, no read over a stream that does not make its reader wait has to
wait. -/
theorem receive_at_once (h : Sound c queue closed program t chunks untold coming begun)
    (hc : c.link.Carries queue closed) (hd : c.link.AtOnce (closed · = true))
    (hfate : t.fate = .closed) (hfuel : (queue t.receiver.stream).length < c.fuel) {n : Nat}
    (hn : 0 < n) :
    let t' := t.step c (.receive n)
    t'.rooms = t.rooms ++ [n] ∧ t'.fate = .closed ∧
      (queue t'.receiver.stream).length < c.fuel := by
  obtain ⟨rfl, -⟩ := h.pending.of_closed hfate
  have hclosed := h.closed_iff.2 hfate
  have hgives := hc.gives []
  simp only [ite_self, List.append_nil] at hgives
  have hfirst : (t.receiver.readLine.enter 0).isFirst 0 = true := by
    rw [h.enter_eq]
    rfl
  obtain ⟨hne, -, -⟩ := Channel.read_at_once hgives hd hn h.began hfirst hclosed hfuel
  obtain ⟨-, -, -, hsuffix, -⟩ := Channel.read_serves hgives hn h.began 0 c.fuel
  dsimp only
  rw [step_receive hn hne, rooms_gave]
  exact ⟨rfl, hfate, Nat.lt_of_le_of_lt hsuffix.length_le hfuel⟩

end Sound

/-! ## Runs -/

variable {c : Circuit τ} {queue : τ → Bytes} {closed : τ → Bool} {program : List Bytes}
  {t : Session τ}

theorem run_append (c : Circuit τ) (first second : List Event) (t : Session τ) :
    t.run c (first ++ second) = (t.run c first).run c second :=
  List.foldl_append

/-- **Every run of the two ends is sound.** -/
theorem run_sound (hc : c.link.Carries queue closed) (hab : Settings.Agree c.near c.far)
    (ho : c.near.obfuscation.check = .ok ()) (events : List Event)
    (h : ∃ chunks untold coming begun, Sound c queue closed program t chunks untold coming begun) :
    ∃ chunks untold coming begun,
      Sound c queue closed program (t.run c events) chunks untold coming begun := by
  induction events generalizing t with
  | nil => exact h
  | cons event events ih =>
    obtain ⟨chunks, untold, coming, begun, h⟩ := h
    cases event with
    | send =>
      obtain ⟨chunks', untold', coming', h'⟩ := h.send hc hab ho
      exact ih ⟨_, _, _, _, h'⟩
    | receive room =>
      obtain ⟨begun', h'⟩ := h.receive hc room
      exact ih ⟨_, _, _, _, h'⟩
    | share near far entropy => exact ih ⟨_, _, _, _, h.share near far entropy⟩

/-- Behind the closing every read comes to its end. -/
theorem rooms_run_receive (hc : c.link.Carries queue closed)
    (hd : c.link.AtOnce (closed · = true)) {chunks untold : List Bytes} {coming begun : Bytes}
    (h : Sound c queue closed program t chunks untold coming begun) (hfate : t.fate = .closed)
    (hfuel : (queue t.receiver.stream).length < c.fuel) {rooms : List Nat}
    (hrooms : ∀ n ∈ rooms, 0 < n) :
    (t.run c (rooms.map .receive)).rooms = t.rooms ++ rooms := by
  induction rooms generalizing t begun with
  | nil => exact (List.append_nil _).symm
  | cons n ns ih =>
    have hn := hrooms n List.mem_cons_self
    obtain ⟨begun', h'⟩ := h.receive hc n
    obtain ⟨hstep, hfate', hfuel'⟩ := h.receive_at_once hc hd hfate hfuel hn
    have hrest := ih h' hfate' hfuel' fun m hm => hrooms m (.tail _ hm)
    rw [hstep, List.append_assoc] at hrest
    exact hrest

/-- With more reads behind the closing than bytes were written, all of them are read. -/
theorem bytes_run_receive (hc : c.link.Carries queue closed)
    (hab : Settings.Agree c.near c.far) (ho : c.near.obfuscation.check = .ok ())
    (hd : c.link.AtOnce (closed · = true)) {chunks untold : List Bytes} {coming begun : Bytes}
    (h : Sound c queue closed program t chunks untold coming begun) (hfate : t.fate = .closed)
    (hfuel : (queue t.receiver.stream).length < c.fuel) {rooms : List Nat}
    (hrooms : ∀ n ∈ rooms, 0 < n) (hmany : program.flatten.length < rooms.length) :
    (t.run c (rooms.map .receive)).outcomes.flatMap Poll.bytes = program.flatten := by
  have hcount := rooms_run_receive hc hd h hfate hfuel hrooms
  obtain ⟨_, _, _, _, h'⟩ := run_sound hc hab ho (rooms.map .receive) ⟨_, _, _, _, h⟩
  generalize t.run c (rooms.map .receive) = t' at hcount h'
  obtain ⟨hpre, hend⟩ := h'.bytes_outcomes
  -- If every read gave a byte, there would be more bytes than were written.
  by_contra hpart
  have hpieces : ∀ r ∈ t'.outcomes, r.bytes ≠ [] := by
    intro r hr hnone
    exact hpart (hend r hr hnone).2
  have hfew : t'.outcomes.length ≤ (t'.outcomes.flatMap Poll.bytes).length :=
    Owed.length_le_bytes hpieces
  have hsame : t'.outcomes.length = (t.rooms ++ rooms).length := by
    rw [← hcount, outcomes, Session.rooms, List.length_map, List.length_map]
  have hbytes := hpre.length_le
  rw [List.length_append] at hsame
  omega

/-- A send is one write, as the user of the connection sees it. -/
theorem run_send {b : UInt8} {bs : Bytes} {more : List Bytes} {sender : Channel τ}
    {outcome : Poll TunnelError Nat} (hfate : t.fate = .writing)
    (htodo : t.todo = (b :: bs) :: more)
    (hw : (Channel.toDuplex c.near c.link c.fuel 0).write (b :: bs) t.sender = (outcome, sender)) :
    ∃ r, Poll.map id Prod.fst r = outcome ∧
      t.run c [.send] = t.wrote (b :: bs) more (r, sender) := by
  refine ⟨(t.sender.write c.near c.link 0 (b :: bs)).1, (Prod.mk.inj hw).1, ?_⟩
  rw [← (Prod.mk.inj hw).2]
  exact step_send_cons hfate htodo (List.cons_ne_nil b bs)

/-- **A poll of writing all of a byte string is a run of sends**: it writes again and again, each
time what was not consumed. -/
theorem deliver_eq_run (c : Circuit τ) {data : Bytes} {more : List Bytes}
    (hfate : t.fate = .writing) (htodo : t.todo = data :: more) :
    ∃ sends : List Event, (∀ event ∈ sends, event = .send) ∧
      let t' := t.run c sends
      let r := (Channel.toDuplex c.near c.link c.fuel 0).deliver data t.sender
      t'.sender = r.2 ∧ t'.reads = t.reads ∧
        match r.1 with
        | .complete _ => t'.fate = .writing ∧ t'.todo = [] :: more
        | .partway rest => t'.fate = .writing ∧ t'.todo = rest :: more
        | .stopped (.broken e) => t'.fate = .failed e
        | .stopped (.ended _) => t'.fate = .failed .closed := by
  have hone : ∀ event ∈ [Event.send], event = .send := fun _ => List.mem_singleton.1
  generalize hsender : t.sender = sender
  -- Along the loop of the delivery, each round is one send.
  fun_induction Duplex.deliver (Channel.toDuplex c.near c.link c.fuel 0) data sender
    generalizing t with
  | case1 sender =>
    exact ⟨[], fun _ hmem => absurd hmem List.not_mem_nil, hsender, rfl, hfate, htodo⟩
  | case2 sender b bs sender' hw =>
    subst hsender
    obtain ⟨r, hr, hsend⟩ := run_send hfate htodo hw
    cases r with
    | ready | failed => cases hr
    | waiting =>
      refine ⟨[.send], hone, ?_⟩
      rw [hsend]
      exact ⟨rfl, rfl, hfate, htodo⟩
  | case3 sender b bs e sender' hw =>
    subst hsender
    obtain ⟨r, hr, hsend⟩ := run_send hfate htodo hw
    cases r with
    | ready | waiting => cases hr
    | failed e' =>
      obtain rfl : e' = e := Poll.failed.inj hr
      refine ⟨[.send], hone, ?_⟩
      rw [hsend]
      exact ⟨rfl, rfl, rfl⟩
  | case4 sender b bs sender' hw =>
    subst hsender
    obtain ⟨r, hr, hsend⟩ := run_send hfate htodo hw
    cases r with
    | failed | waiting => cases hr
    | ready consumed =>
      obtain ⟨n, pause⟩ := consumed
      obtain rfl : n = 0 := Poll.ready.inj hr
      refine ⟨[.send], hone, ?_⟩
      rw [hsend]
      exact ⟨rfl, rfl, rfl⟩
  | case5 sender b bs n sender' hw ih =>
    subst hsender
    obtain ⟨r, hr, hsend⟩ := run_send hfate htodo hw
    cases r with
    | failed | waiting => cases hr
    | ready consumed =>
      obtain ⟨m, pause⟩ := consumed
      obtain rfl : m = n + 1 := Poll.ready.inj hr
      have hnext : t.run c [.send] = { t.sent sender' with todo := bs.drop n :: more } := hsend
      obtain ⟨sends, hsends, hrest⟩ := ih (t := { t.sent sender' with todo := bs.drop n :: more })
        hfate rfl rfl
      refine ⟨[.send] ++ sends, ?_, ?_⟩
      · intro event hmem
        rcases List.mem_append.1 hmem with hmem | hmem
        · exact hone event hmem
        · exact hsends event hmem
      · rw [run_append, hnext]
        exact hrest

theorem sound_start (program : List Bytes) {sender receiver : Channel τ}
    (hstream : sender.stream = receiver.stream)
    (hopen : closed receiver.stream = false) (hempty : queue receiver.stream = [])
    (hwriters : sender.writeLine = []) (hreader : receiver.reader = {})
    (hreaders : receiver.readLine = []) :
    Sound c queue closed program { sender, receiver, todo := program } [] program [] [] := by
  have hidle : receiver.reader.fetching = none := by
    rw [hreader]
  refine ⟨hstream, ?_, ?_, rfl, nofun, Reader.began_nil hidle, ?_, fun _ => nofun, nofun,
    .inl hreaders⟩
  · rw [hopen]
    exact ⟨nofun, nofun⟩
  · show Pending .writing sender.writeLine program [] program
    rw [hwriters]
    exact .idle
  · show _ = ([], Reader.owed c.far receiver.reader [] (queue receiver.stream ++ []))
    rw [hreader, hempty, Reader.owed, List.append_nil, List.append_nil, Settings.parse_nil]
    rfl

/-- **What the reader is given is what was written**, whatever the two ends draw, however the stream
cuts the bytes, and in whatever order their steps come. Each read gives a piece of the data of one
frame; no read fails; together they give the bytes that were written, from the first on. The end
shows only behind all of them, once the other end has closed, and from then on nothing else does.
Writing fails only for want of random bytes. When the other end has closed and the stream does not
make its reader wait, a few more reads give all that is left, and the end. -/
theorem delivers (hc : c.link.Carries queue closed) (hab : Settings.Agree c.near c.far)
    (ho : c.near.obfuscation.check = .ok ()) (program : List Bytes) {sender receiver : Channel τ}
    (hstream : sender.stream = receiver.stream) (hopen : closed receiver.stream = false)
    (hempty : queue receiver.stream = []) (hwriters : sender.writeLine = [])
    (hreader : receiver.reader = {}) (hreaders : receiver.readLine = []) (events : List Event) :
    let t := run c events { sender, receiver, todo := program }
    (∃ chunks, chunks <+: program.flatMap c.near.chunksOf ∧
        t.outcomes = (Owed.giveAll c.far { parsed := { data := chunks, ending := .closed } }
          t.rooms).1) ∧
      (∀ r ∈ t.outcomes, ∃ bs, r = .ready bs) ∧
      t.outcomes.flatMap Poll.bytes <+: program.flatten ∧
      (∀ r ∈ t.outcomes, r.bytes = [] →
        t.fate = .closed ∧ t.outcomes.flatMap Poll.bytes = program.flatten) ∧
      (t.outcomes.flatMap Poll.bytes = program.flatten → ∀ n, 0 < n →
        let r := t.receiver.read c.far c.link c.fuel 0 n
        r.1 = .waiting ∨ r.1 = .ready []) ∧
      (∀ e, t.fate = .failed e → e = .crypto .noEntropy) ∧
      (c.link.AtOnce (closed · = true) → t.fate = .closed →
        (queue t.receiver.stream).length < c.fuel → ∀ rooms : List Nat, (∀ n ∈ rooms, 0 < n) →
          program.flatten.length < rooms.length →
            let t' := t.run c (rooms.map .receive)
            t'.outcomes.flatMap Poll.bytes = program.flatten ∧ .ready [] ∈ t'.outcomes) := by
  intro t
  have hrun (events : List Event) := run_sound hc hab ho events
    ⟨_, _, _, _, sound_start program hstream hopen hempty hwriters hreader hreaders⟩
  obtain ⟨chunks, untold, coming, begun, h⟩ := hrun events
  obtain ⟨hpre, hend⟩ := h.bytes_outcomes
  refine ⟨⟨chunks, ⟨_, h.told⟩, ?_⟩, h.outcomes_ready, hpre, hend,
    fun hall n hn => h.read_behind hc hall hn, fun e hfate => ?_, ?_⟩
  · rw [h.served]
  · have hpending := h.pending
    change Pending t.fate _ _ _ _ at hpending
    rw [hfate] at hpending
    cases hpending
    rfl
  · intro hd hfate hfuel rooms hrooms hmany
    have hcount := rooms_run_receive hc hd h hfate hfuel hrooms
    obtain ⟨chunks', untold', coming', begun', h'⟩ := hrun (events ++ rooms.map .receive)
    rw [run_append] at h'
    replace h' : Sound c queue closed program (t.run c (rooms.map .receive)) _ _ _ _ := h'
    obtain ⟨hpre', hend'⟩ := h'.bytes_outcomes
    have hready' := h'.outcomes_ready
    intro t'
    have hlast : .ready [] ∈ t'.outcomes := by
      by_contra hmissing
      have hpieces : ∀ r ∈ t'.outcomes, r.bytes ≠ [] := by
        intro r hr hnone
        obtain ⟨bs, rfl⟩ := hready' r hr
        obtain rfl : bs = [] := hnone
        exact hmissing hr
      have hmany' := Owed.length_le_bytes hpieces
      have hsame : t'.outcomes.length = (t.rooms ++ rooms).length := by
        rw [← hcount, outcomes, Session.rooms, List.length_map, List.length_map]
      have hbytes : (t'.outcomes.flatMap Poll.bytes).length ≤ _ := hpre'.length_le
      rw [List.length_append] at hsame
      omega
    exact ⟨(hend' _ hlast rfl).2, hlast⟩

/-- Two byte strings through a pipe that is full with one frame, between ends with frames of
different sizes. -/
theorem delivers_through_pipe :
    let near : Settings := { obfuscation := .disabled, frameSize := 2 }
    let far : Settings := { obfuscation := .disabled }
    let c : Circuit Pipe := { near, far, link := Pipe.ends, fuel := 9 }
    let pipe : Pipe := { capacity := 6 }
    let sender : Channel Pipe := { pool := .empty 4 0, entropy := .ofBytes [], stream := pipe }
    let receiver : Channel Pipe := { pool := .empty 1 1, entropy := .ofBytes [], stream := pipe }
    let t := run c
      [.send, .send, .receive 1, .send, .receive 1, .receive 1, .send, .send, .send, .send]
      { sender, receiver, todo := [[1, 2, 3], [4]] }
    let t' := t.run c ([2, 2, 2, 2, 2].map .receive)
    Settings.Agree near far ∧ near.obfuscation.check = .ok () ∧ sender.stream = receiver.stream ∧
      pipe.closed = false ∧ pipe.queue.toList = [] ∧ sender.writeLine = [] ∧ receiver.reader = {} ∧
      receiver.readLine = [] ∧ t.fate = .closed ∧
      t'.outcomes.flatMap Poll.bytes = [1, 2, 3, 4] ∧ .ready [] ∈ t'.outcomes := by
  intro near far c pipe sender receiver
  let events : List Event :=
    [.send, .send, .receive 1, .send, .receive 1, .receive 1, .send, .send, .send, .send]
  let start : Session Pipe := { sender, receiver, todo := [[1, 2, 3], [4]] }
  have h := delivers (c := c) Pipe.carries ⟨rfl, rfl, rfl⟩ rfl [[1, 2, 3], [4]]
    (show sender.stream = receiver.stream from rfl) rfl rfl rfl rfl rfl events
  have hfate : (start.run c events).fate = .closed := by decide +kernel
  have hfuel : (start.run c events).receiver.stream.queue.toList.length < 9 := by decide +kernel
  show let t := start.run c events; _
  -- What the reads behind the closing give need not be evaluated.
  change let t := start.run c events; _ at h
  generalize start.run c events = t at h hfate hfuel ⊢
  obtain ⟨-, -, -, -, -, -, hall⟩ := h
  obtain ⟨hbytes, hlast⟩ := hall Pipe.atOnce hfate hfuel [2, 2, 2, 2, 2] (by decide) (by decide)
  exact ⟨⟨rfl, rfl, rfl⟩, rfl, rfl, rfl, rfl, rfl, rfl, rfl, hfate, hbytes, hlast⟩

end Session

end SealedTunnel
