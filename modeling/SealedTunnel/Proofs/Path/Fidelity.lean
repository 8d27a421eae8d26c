import SealedTunnel.Proofs.Loopback.Pipe
import SealedTunnel.Proofs.Path.Far
import SealedTunnel.Proofs.Path.Near
import SealedTunnel.Proofs.Socks.Request

/-!
# From the client to the target

Both ends of a tunnel and the link between them make one system, whose parts move in any order. A
client asks for an address and sends data behind its request. Then the far end asks for the text of
that address and for nothing else, and what it forwards to there is the first of the data, however
they are cut into reads, frames and writes on the way. If both relays see the end of the way from
the client to the target, all of the data has been forwarded.

## Main definitions

* `Path`, `Path.step`: both ends of a tunnel, and what happens there
* `Path.watch`: the same, where the acts of relays and the incidents are written down
* `Path.Joint`: what was told at one end and heard at the other

## Main results

* `Path.joint_watch`: every move keeps to it
* `Path.faithful`: the target that was asked for is asked for, and is sent the data
-/

namespace SealedTunnel

open Relay

/-- Both ends of a tunnel through which one client is served. -/
structure Path (ε φ α β τ : Type) where
  near : Station ε α τ
  far : Station φ β τ
  /-- The address of the far end. -/
  address : String
  client : Duplex IoError α
  closeClient : α → α
  target : Nat → Duplex IoError β
  closeTarget : Nat → β → β

namespace Path

variable {ε φ α β τ : Type}

/-- Where the tasks at both ends stand. Both hold the link, in the same state. -/
structure State (ε φ α β τ : Type) where
  near : Ingress.Outcome (Dialing ε)
  nearPost : Post α τ
  far : Egress.Outcome φ
  farPost : Post β τ

/-- What may happen next: one of the tasks goes on, or others act on what they share with it. -/
inductive Move (α β τ : Type) where
  | near
  | far
  | besideNear (f : Post α τ → Post α τ)
  | besideFar (f : Post β τ → Post β τ)

/-! ## Moves -/

def ingress (path : Path ε φ α β τ) : Ingress.Site (Dialing ε) (Post α τ) :=
  path.near.ingress path.address path.client path.closeClient

def egress (path : Path ε φ α β τ) : Egress.Site φ (Post β τ) :=
  path.far.egress path.target path.closeTarget

/-- A task that has come to its end has dropped its connection. -/
def settle {κ ρ : Type} (st : Station ε α τ) (o : κ ⊕ ρ) (p : Post α τ) : Post α τ :=
  match o with
  | .inl _ => p
  | .inr _ => st.leave p

/-- What happens next. -/
def step (path : Path ε φ α β τ) (s : State ε φ α β τ) : Move α β τ → State ε φ α β τ
  | .near =>
    match s.near with
    | .inr _ => s
    | .inl i =>
      let (o, p) := i.serve path.ingress s.nearPost
      let p := settle path.near o p
      { s with near := o, nearPost := p, farPost := s.farPost.withStream p.conn.stream }
  | .far =>
    match s.far with
    | .inr _ => s
    | .inl e =>
      let (o, p) := e.serve path.egress s.farPost
      let p := settle path.far o p
      { s with far := o, farPost := p, nearPost := s.nearPost.withStream p.conn.stream }
  | .besideNear f =>
    let p := f s.nearPost
    { s with nearPost := p, farPost := s.farPost.withStream p.conn.stream }
  | .besideFar f =>
    let p := f s.farPost
    { s with farPost := p, nearPost := s.nearPost.withStream p.conn.stream }

/-- Moves one after the other. -/
def run (path : Path ε φ α β τ) (moves : List (Move α β τ)) (s : State ε φ α β τ) :
    State ε φ α β τ :=
  moves.foldl path.step s

/-- The same, with the acts of the relays and the incidents so far. -/
structure Watched (ε φ α β τ : Type) extends State ε φ α β τ where
  nearActs : List Act := []
  nearLog : Post.Log TunnelError α τ := []
  farActs : List Act := []
  farLog : Post.Log ConnectError β τ := []

/-- What happens next; acts and incidents are written down. -/
def watch (path : Path ε φ α β τ) (w : Watched ε φ α β τ) : Move α β τ → Watched ε φ α β τ
  | .near =>
    match w.near with
    | .inr _ => w
    | .inl i =>
      let (o, (p, acts), log) :=
        i.serve path.ingress.acted.recorded ((w.nearPost, w.nearActs), w.nearLog)
      let p := settle path.near o p
      { w with near := o, nearPost := p, farPost := w.farPost.withStream p.conn.stream,
               nearActs := acts, nearLog := log }
  | .far =>
    match w.far with
    | .inr _ => w
    | .inl e =>
      let (o, (p, acts), log) :=
        e.serve path.egress.acted.recorded ((w.farPost, w.farActs), w.farLog)
      let p := settle path.far o p
      { w with far := o, farPost := p, nearPost := w.nearPost.withStream p.conn.stream,
               farActs := acts, farLog := log }
  | .besideNear f =>
    let p := f w.nearPost
    { w with nearPost := p, farPost := w.farPost.withStream p.conn.stream }
  | .besideFar f =>
    let p := f w.farPost
    { w with farPost := p, nearPost := w.nearPost.withStream p.conn.stream }

/-- Moves one after the other, watched. -/
def watchAll (path : Path ε φ α β τ) (moves : List (Move α β τ)) (w : Watched ε φ α β τ) :
    Watched ε φ α β τ :=
  moves.foldl path.watch w

theorem toState_watch (path : Path ε φ α β τ) (w : Watched ε φ α β τ) (m : Move α β τ) :
    (path.watch w m).toState = path.step w.toState m := by
  cases m with
  | besideNear f | besideFar f => rfl
  | near =>
    unfold watch step
    cases w.near with
    | inr result => rfl
    | inl i =>
      have hacted := Ingress.serve_within path.ingress.within_acted i (w.nearPost, w.nearActs)
      have hrecorded := Ingress.serve_within path.ingress.acted.within_recorded i
        ((w.nearPost, w.nearActs), w.nearLog)
      dsimp only at hacted hrecorded ⊢
      rw [hacted, hrecorded]
      rfl
  | far =>
    unfold watch step
    cases w.far with
    | inr result => rfl
    | inl e =>
      have hacted := Egress.serve_within path.egress.within_acted e (w.farPost, w.farActs)
      have hrecorded := Egress.serve_within path.egress.acted.within_recorded e
        ((w.farPost, w.farActs), w.farLog)
      dsimp only at hacted hrecorded ⊢
      rw [hacted, hrecorded]
      rfl

/-- **Watching changes nothing.** -/
theorem toState_watchAll (path : Path ε φ α β τ) (moves : List (Move α β τ))
    (w : Watched ε φ α β τ) : (path.watchAll moves w).toState = path.run moves w.toState := by
  induction moves generalizing w with
  | nil => rfl
  | cons m moves ih => exact (ih _).trans (congrArg (path.run moves) (path.toState_watch w m))

/-! ## What is kept -/

/-- Others leave alone what is told and what is heard: the bytes of the client that are ahead, those
in the link, and of the connections the parts that are not shared. -/
def Move.Apart (ahead : α → Bytes) (queue : τ → Bytes) (closed : τ → Bool) : Move α β τ → Prop
  | .near | .far => True
  | .besideNear f => ∀ p, (f p).conn.reader = p.conn.reader ∧
      (f p).conn.writeLine = p.conn.writeLine ∧ (f p).pause = p.pause ∧
      ahead (f p).self = ahead p.self ∧ queue (f p).conn.stream = queue p.conn.stream ∧
      closed (f p).conn.stream = closed p.conn.stream
  | .besideFar f => ∀ p, (f p).conn.reader = p.conn.reader ∧
      (f p).conn.readLine = p.conn.readLine ∧ queue (f p).conn.stream = queue p.conn.stream ∧
      closed (f p).conn.stream = closed p.conn.stream

/-- How both ends may stand. As long as the far end listens, it has heard of what the near end has
told what the link has given; after that it has done what there was to do. -/
inductive Joint (path : Path ε φ α β τ) (queue : τ → Bytes) (closed : τ → Bool)
    (ahead : α → Bytes) (address : Address) (data : Bytes) (w : Watched ε φ α β τ) : Prop
  | listening {told pending coming heard begun}
      (hlink : w.farPost.conn.stream = w.nearPost.conn.stream)
      (htelling : Ingress.Telling path.near.settings closed ahead address data w.near w.nearPost
        w.nearActs w.nearLog told pending coming)
      (hhearing : Egress.Hearing address.text heard w.far w.farActs w.farLog)
      (hflow : Flow path.far.settings queue closed w.farPost.conn.reader w.farPost.conn.readLine
        w.nearPost.conn.stream told pending heard coming begun)
  | gone (hgone : Egress.Gone (Ingress.Stopped w.near) (Act.sourceEnded .up ∈ w.nearActs)
      (∃ n, .opened n ∈ w.nearLog) address.text data w.far w.farActs w.farLog)

/-- What is asked of the parts: the link joins the ends, their settings agree, those of the near end
are sound, and the client is heard. -/
structure Reliable (path : Path ε φ α β τ) (queue : τ → Bytes) (closed : τ → Bool)
    (returning : τ → Bytes) (ahead : α → Bytes) : Prop where
  link : path.near.link.Joins path.far.link path.near.drop queue closed returning
  agree : Settings.Agree path.near.settings path.far.settings
  check : path.near.settings.obfuscation.check = .ok ()
  client : path.near.Hears path.client ahead

section Kept

variable {path : Path ε φ α β τ} {queue returning : τ → Bytes} {closed : τ → Bool}
  {ahead : α → Bytes} {address : Address} {data : Bytes} {w : Watched ε φ α β τ}

theorem joint_near (hpath : path.Reliable queue closed returning ahead) (hask : address.Askable)
    (h : path.Joint queue closed ahead address data w) :
    path.Joint queue closed ahead address data (path.watch w .near) := by
  unfold watch
  dsimp only
  cases hnear : w.near with
  | inr result => exact h
  | inl i =>
  dsimp only
  cases h with
  | @listening told pending coming heard begun hsame htelling hhearing hflow =>
    rw [hnear] at htelling
    let ear : Listener τ := ⟨path.far.settings, queue, closed, w.farPost.conn.reader,
      w.farPost.conn.readLine, heard, begun⟩
    have hreaches : path.near.Reaches path.far.link returning ear :=
      ⟨hpath.link, hpath.agree, hpath.check⟩
    have htells := (Ingress.kept_telling hreaches hpath.client hask path.address
      path.closeClient).serve (s := ((w.nearPost, w.nearActs), w.nearLog))
      ⟨told, pending, coming, htelling, hflow⟩
    rw [show path.near.ingress path.address path.client path.closeClient = path.ingress from rfl]
      at htells
    generalize i.serve path.ingress.acted.recorded ((w.nearPost, w.nearActs), w.nearLog) = r
      at htells
    obtain ⟨o, ⟨p, acts⟩, log⟩ := r
    obtain ⟨told', pending', coming', htelling', hflow'⟩ := htells
    cases o with
    | inl i' => exact .listening rfl htelling' hhearing hflow'
    | inr result =>
      exact .listening rfl (.stopped trivial htelling'.rests) hhearing
        (hflow'.shut (hpath.link.queue_drop _) (hpath.link.closed_drop _))
  | gone hgone =>
    rw [hnear] at hgone
    have hrested (hstopped : Ingress.Stopped (.inl i)) :=
      (Ingress.kept_rested path.ingress (Act.sourceEnded .up ∈ w.nearActs)
        (∃ n, .opened n ∈ w.nearLog)).serve (s := ((w.nearPost, w.nearActs), w.nearLog))
        ⟨hstopped, id, id⟩
    generalize i.serve path.ingress.acted.recorded ((w.nearPost, w.nearActs), w.nearLog) = r
      at hrested
    obtain ⟨o, ⟨p, acts⟩, log⟩ := r
    exact .gone (hgone.mono fun hstopped =>
      let ⟨hstopped', hwhole, hnamed⟩ := hrested hstopped
      ⟨hstopped', hwhole, hnamed⟩)

/-- What the far end may rely on, wherever the near end stands. -/
theorem account {o : Ingress.Outcome (Dialing ε)} {p : Post α τ} {acts : List Act}
    {log : Post.Log TunnelError α τ} {told pending coming : Bytes}
    (h : Ingress.Telling path.near.settings closed ahead address data o p acts log told pending
      coming) :
    Egress.Account (Ingress.Stopped o) (Act.sourceEnded .up ∈ acts) (∃ n, .opened n ∈ log)
      (Target.header address.text) data told pending (closed p.conn.stream) where
  within := h.rests.within
  ceased := h.stopped_of_closed
  whole _ := h.rests.ended
  named := fun _ ⟨n, hn⟩ => h.rests.opened n hn

theorem joint_far (hpath : path.Reliable queue closed returning ahead) (hask : address.Askable)
    (h : path.Joint queue closed ahead address data w) :
    path.Joint queue closed ahead address data (path.watch w .far) := by
  unfold watch
  dsimp only
  cases hfar : w.far with
  | inr result => exact h
  | inl e =>
  dsimp only
  cases h with
  | @listening told pending coming heard begun hsame htelling hhearing hflow =>
    rw [hfar] at hhearing
    have hlistens : Listens path.far queue closed told pending coming
        (closed w.nearPost.conn.stream) heard w.farPost :=
      ⟨⟨begun, hsame.symm ▸ hflow⟩, congrArg closed hsame⟩
    have hhears := (Egress.kept_hearing hpath.link (account htelling) hask path.target
      path.closeTarget).serve (s := ((w.farPost, w.farActs), w.farLog))
      (.inl ⟨heard, hhearing, hlistens⟩)
    rw [show path.far.egress path.target path.closeTarget = path.egress from rfl] at hhears
    generalize e.serve path.egress.acted.recorded ((w.farPost, w.farActs), w.farLog) = r at hhears
    obtain ⟨o, ⟨p, acts⟩, log⟩ := r
    rcases hhears with ⟨heard', hhearing', ⟨⟨begun', hflow'⟩, hclosed⟩⟩ | hgone
    · cases o with
      | inl e' =>
        exact .listening rfl (htelling.congr rfl rfl rfl hclosed rfl) hhearing' hflow'
      | inr result => cases hhearing'
    · exact .gone hgone
  | gone hgone =>
    rw [hfar] at hgone
    have hgone' := (Egress.kept_gone path.egress _ _ _ _ _).serve
      (s := ((w.farPost, w.farActs), w.farLog)) hgone
    exact .gone hgone'

/-- **Every move keeps to it.** -/
theorem joint_watch (hpath : path.Reliable queue closed returning ahead) (hask : address.Askable)
    {m : Move α β τ} (hm : m.Apart ahead queue closed)
    (h : path.Joint queue closed ahead address data w) :
    path.Joint queue closed ahead address data (path.watch w m) := by
  cases m with
  | near => exact joint_near hpath hask h
  | far => exact joint_far hpath hask h
  | besideNear f =>
    obtain ⟨hreader, hline, hpause, hahead, hqueue, hclosed⟩ := hm w.nearPost
    cases h with
    | listening _ htelling hhearing hflow =>
      exact .listening rfl (htelling.congr hreader hline hpause hclosed hahead) hhearing
        (hflow.link hqueue hclosed)
    | gone hgone => exact .gone hgone
  | besideFar f =>
    obtain ⟨hreader, hline, hqueue, hclosed⟩ := hm w.farPost
    cases h with
    | listening hsame htelling hhearing hflow =>
      -- Both ends hold one link, so what is said of it here holds there.
      rw [hsame] at hqueue hclosed
      have hflow' := hflow.link hqueue hclosed
      rw [← hreader, ← hline] at hflow'
      exact .listening rfl (htelling.congr rfl rfl rfl hclosed rfl) hhearing hflow'
    | gone hgone => exact .gone hgone

theorem joint_watchAll (hpath : path.Reliable queue closed returning ahead)
    (hask : address.Askable) {moves : List (Move α β τ)}
    (hmoves : ∀ m ∈ moves, m.Apart ahead queue closed)
    (h : path.Joint queue closed ahead address data w) :
    path.Joint queue closed ahead address data (path.watchAll moves w) := by
  induction moves generalizing w with
  | nil => exact h
  | cons m moves ih =>
    have hm := joint_watch hpath hask (hmoves m List.mem_cons_self) h
    exact ih (fun m' hm' => hmoves m' (List.mem_cons_of_mem m hm')) hm

/-! ## What comes of it -/

/-- At most the address that was asked for is asked for, and at most once. -/
theorem Joint.targets (h : path.Joint queue closed ahead address data w) :
    Incident.targets w.farLog = [] ∨ Incident.targets w.farLog = [address.text] := by
  obtain ⟨⟨near, nearPost, far, farPost⟩, nearActs, nearLog, farActs, farLog⟩ := w
  cases h with
  | listening _ _ hhearing =>
    cases hhearing with
    | receiving => exact .inl rfl
    | connecting | copying => exact .inr rfl
  | gone hgone =>
    cases hgone with
    | late | unnamed => exact .inl rfl
    | refused | closing | relayed => exact .inr rfl

/-- What was forwarded is the first of the data. -/
theorem Joint.forwards (h : path.Joint queue closed ahead address data w) :
    Egress.Forwards (Ingress.Stopped w.near) (Act.sourceEnded .up ∈ w.nearActs) data w.farActs := by
  have hnone :
      Egress.Forwards (Ingress.Stopped w.near) (Act.sourceEnded .up ∈ w.nearActs) data [] :=
    ⟨List.nil_prefix, fun hended => absurd hended List.not_mem_nil⟩
  obtain ⟨⟨near, nearPost, far, farPost⟩, nearActs, nearLog, farActs, farLog⟩ := w
  cases h with
  | listening _ htelling hhearing hflow =>
    cases hhearing with
    | receiving | connecting => exact hnone
    | copying hheard hgoing =>
      have hwithin := ((List.prefix_append ..).trans hflow.upper).trans htelling.rests.within
      rw [hheard, List.append_assoc, List.prefix_append_right_inj] at hwithin
      exact ⟨(List.prefix_append ..).trans hwithin, fun hended => absurd hended hgoing⟩
  | gone hgone =>
    cases hgone with
    | late | unnamed | refused => exact hnone
    | closing hforwards | relayed hforwards => exact hforwards

/-- Whoever has forwarded anything has asked for the target. -/
theorem Joint.asked_of_acts (h : path.Joint queue closed ahead address data w)
    (hacts : w.farActs ≠ []) : Incident.targets w.farLog = [address.text] := by
  obtain ⟨⟨near, nearPost, far, farPost⟩, nearActs, nearLog, farActs, farLog⟩ := w
  cases h with
  | listening _ _ hhearing =>
    cases hhearing with
    | receiving => exact absurd rfl hacts
    | connecting | copying => rfl
  | gone hgone =>
    cases hgone with
    | late | unnamed => exact absurd rfl hacts
    | refused | closing | relayed => rfl

theorem farLog_watch {e : Egress φ} (hfar : w.far = .inl e) : (path.watch w .far).farLog =
    (e.serve path.egress.acted.recorded ((w.farPost, w.farActs), w.farLog)).2.2 := by
  unfold watch
  dsimp only
  rw [hfar]

/-- What was asked for stays so. -/
theorem asked_watch (h : .asked address.text ∈ w.farLog) :
    .asked address.text ∈ (path.watch w .far).farLog := by
  cases hfar : w.far with
  | inl e =>
    rw [farLog_watch hfar]
    exact (Egress.kept_asked path.egress.acted address.text).serve
      (s := ((w.farPost, w.farActs), w.farLog)) h
  | inr result =>
    unfold watch
    dsimp only
    rw [hfar]
    exact h

/-- **Once the near end has named the target, the far end asks for it** when it goes on, unless it
has run out of time before. -/
theorem joint_asks (hpath : path.Reliable queue closed returning ahead) (hask : address.Askable)
    (hprompt : path.far.Prompt queue) (hopened : ∃ n, .opened n ∈ w.nearLog)
    (h : path.Joint queue closed ahead address data w) :
    .asked address.text ∈ (path.watch w .far).farLog ∨
      (path.watch w .far).far = .inr (.error (.timeout "target header")) := by
  obtain ⟨⟨near, nearPost, far, farPost⟩, nearActs, nearLog, farActs, farLog⟩ := w
  cases h with
  | @listening told pending coming heard begun hsame htelling hhearing hflow =>
    dsimp only at hsame htelling hhearing hflow hopened
    cases hhearing with
    | connecting | copying => exact .inl (asked_watch List.mem_cons_self)
    | @receiving deadline talk hsilent hleaves =>
      obtain ⟨n, hopened⟩ := hopened
      have hlistens : Listens path.far queue closed told pending coming
          (closed nearPost.conn.stream) heard farPost :=
        ⟨⟨begun, hsame.symm ▸ hflow⟩, congrArg closed hsame⟩
      have hasks := Egress.receive_asks hpath.link (account htelling) hask hprompt
        (htelling.rests.opened n hopened) path.target path.closeTarget deadline hsilent hleaves
        hlistens [] []
      rw [farLog_watch rfl]
      exact .inl hasks
  | gone hgone =>
    dsimp only at hgone hopened
    cases hgone with
    | late => exact .inr rfl
    | unnamed _ hnamed => exact absurd hopened hnamed
    | refused | closing | relayed => exact .inl (asked_watch List.mem_cons_self)

/-- A client has just come, and a connection on which it may be served. -/
def start (path : Path ε φ α β τ) (near : Post α τ) (far : Post β τ)
    (handshakeMs targetMs : Nat) : State ε φ α β τ where
  near := .inl (Ingress.start (path.near.now near.self) handshakeMs)
  nearPost := near
  far := .inl (Egress.start (path.far.now far.self) targetMs)
  farPost := far

theorem joint_start {methods : Bytes} (hmethods : methods.length < 256) (reserved : UInt8)
    (hask : address.Askable) {near : Post α τ} {far : Post β τ}
    (hahead : ahead near.self =
      Socks.greeting methods ++ Socks.request reserved address ++ data)
    (hlink : far.conn.stream = near.conn.stream) (hempty : queue near.conn.stream = [])
    (hopen : closed near.conn.stream = false)
    (hfresh : far.conn.reader = {} ∧ far.conn.readLine = []) (handshakeMs targetMs : Nat) :
    path.Joint queue closed ahead address data
      { toState := path.start near far handshakeMs targetMs } := by
  obtain ⟨session, htalk⟩ := Socks.on_handshake_request hmethods reserved hask data
  rw [← hahead] at htalk
  have hflow : Flow path.far.settings queue closed far.conn.reader far.conn.readLine
      near.conn.stream [] [] [] [] [] := by
    rw [hfresh.1, hfresh.2]
    exact Flow.fresh hempty
  exact .listening hlink (.greeting hopen htalk) (.receiving Target.silent_receive (.refl _)) hflow

/-- **The target that was asked for is asked for, and is sent the data.** A client greets, asks for
an address and sends some data, in whatever pieces and whenever they come. Whatever the order of the
moves, and wherever either end stops:
naming the target is never refused; the far end asks for the text of the address and nothing else,
at most once, and does so as soon as the near end has named it, if its time is not up; and what is
forwarded to the target is the first of the data, and all of it once both relays have seen the end
of what comes from the client. -/
theorem faithful (hpath : path.Reliable queue closed returning ahead) {methods : Bytes}
    (hmethods : methods.length < 256) (reserved : UInt8) (hask : address.Askable)
    {near : Post α τ} {far : Post β τ}
    (hahead : ahead near.self =
      Socks.greeting methods ++ Socks.request reserved address ++ data)
    (hlink : far.conn.stream = near.conn.stream) (hempty : queue near.conn.stream = [])
    (hopen : closed near.conn.stream = false)
    (hfresh : far.conn.reader = {} ∧ far.conn.readLine = []) (handshakeMs targetMs : Nat)
    {moves : List (Move α β τ)} (hmoves : ∀ m ∈ moves, m.Apart ahead queue closed) :
    let s := path.start near far handshakeMs targetMs
    let w := path.watchAll moves { toState := s }
    w.toState = path.run moves s ∧
      Target.send address.text = Tunnel.writeAll (Target.header address.text) ∧
      (Incident.targets w.farLog = [] ∨ Incident.targets w.farLog = [address.text]) ∧
      took .down w.farActs <+: data ∧
      (Act.sourceEnded .up ∈ w.nearActs → Act.sourceEnded .down ∈ w.farActs →
        Incident.targets w.farLog = [address.text] ∧ took .down w.farActs = data) ∧
      ((∃ n, .opened n ∈ w.nearLog) → path.far.Prompt queue →
        let w' := path.watch w .far
        Incident.targets w'.farLog = [address.text] ∨
          w'.far = .inr (.error (.timeout "target header"))) := by
  intro s w
  have hjoint : path.Joint queue closed ahead address data w :=
    joint_watchAll hpath hask hmoves
      (joint_start hmethods reserved hask hahead hlink hempty hopen hfresh handshakeMs targetMs)
  have hforwards := hjoint.forwards
  refine ⟨path.toState_watchAll moves _, Address.send_text hask, hjoint.targets, hforwards.within,
    fun hup hdown => ?_, fun hopened hprompt => ?_⟩
  · obtain ⟨-, hwhole⟩ := hforwards.ended hdown
    exact ⟨hjoint.asked_of_acts (List.ne_nil_of_mem hdown), hwhole hup⟩
  · refine (joint_asks hpath hask hprompt hopened hjoint).imp_left fun hasked => ?_
    have hmem : address.text ∈ Incident.targets (path.watch w .far).farLog :=
      List.mem_filterMap.2 ⟨_, hasked, rfl⟩
    rcases (joint_far hpath hask hjoint).targets with hnone | hone
    · rw [hnone] at hmem
      cases hmem
    · exact hone

end Kept

/-- Two bytes behind a request for a domain, through pipes, in frames of one byte. -/
theorem faithful_through_pipes :
    let opener : Opener ConnectError Unit (Pipe × Pipe) :=
      { start := fun _ s => ((), s), resume := fun _ s => (.opened 0, s) }
    let path : Path Unit Unit (Pipe × Pipe) (Pipe × Pipe) (Pipe × Pipe) :=
      { near :=
          { settings := { obfuscation := .disabled, frameSize := 1 }, link := Pipe.crossed
            drop := fun p => (p.1.close, p.2.close)
            fuel := fun p => p.1.queue.size + 1, now := fun _ => 0, connector := opener }
        far :=
          { settings := { obfuscation := .disabled, frameSize := 2 }, link := Pipe.opposite
            drop := fun p => (p.1.close, p.2.close)
            fuel := fun p => p.2.queue.size + 1, now := fun _ => 0, connector := opener }
        address := "far:1", client := Pipe.crossed, closeClient := fun p => (p.1, p.2.close)
        target := fun _ => Pipe.crossed, closeTarget := fun _ p => (p.1, p.2.close) }
    let address : Address := .domain "h" 1
    let sent := Socks.greeting [0] ++ Socks.request 0 address ++ [7, 8]
    let conn : Channel (Pipe × Pipe) :=
      { pool := .empty 64 3, entropy := .ofBytes []
        stream := ({ capacity := 9 }, { capacity := 40 }) }
    let near : Post (Pipe × Pipe) (Pipe × Pipe) :=
      { conn, self :=
          ({ queue := ByteQueue.empty.push sent, capacity := 99, closed := true },
            { capacity := 99 }) }
    let far : Post (Pipe × Pipe) (Pipe × Pipe) :=
      { conn, self := ({ capacity := 9 }, { capacity := 99 }) }
    let moves : List (Move (Pipe × Pipe) (Pipe × Pipe) (Pipe × Pipe)) :=
      [.near, .far, .near, .far, .near, .far, .near, .far, .far]
    let w := path.watchAll moves
      { toState := path.start near far Ingress.handshakeTimeoutMs Egress.targetTimeoutMs }
    path.Reliable (·.2.queue.toList) (·.2.closed) (·.1.queue.toList) (·.1.queue.toList) ∧
      path.far.Prompt (·.2.queue.toList) ∧
      Incident.targets w.farLog = ["h:1"] ∧ took .down w.farActs = [7, 8] := by
  intro opener path address sent conn near far moves w
  have hpath : path.Reliable (·.2.queue.toList) (·.2.closed) (·.1.queue.toList)
      (·.1.queue.toList) :=
    ⟨Pipe.joins, ⟨rfl, rfl, rfl⟩, rfl,
      ⟨Pipe.reliable_crossed.gives, fun _ _ => rfl, fun _ _ => rfl, fun _ _ => rfl⟩⟩
  have hprompt : path.far.Prompt (·.2.queue.toList) := by
    refine ⟨Pipe.forthcoming_opposite, fun l => ?_⟩
    rw [ByteQueue.length_toList]
    exact Nat.lt_succ_self _
  have hask : address.Askable := by
    show (Bytes.ofString "h").length < 256
    decide +kernel
  have hahead : near.self.1.queue.toList =
      Socks.greeting [0] ++ Socks.request 0 address ++ [7, 8] := by decide +kernel
  have hlink : far.conn.stream = near.conn.stream := rfl
  have hmoves : ∀ m ∈ moves, m.Apart (fun a : Pipe × Pipe => a.1.queue.toList)
      (fun l : Pipe × Pipe => l.2.queue.toList) (·.2.closed) := by
    simp [moves, Move.Apart]
  obtain ⟨-, -, -, -, hall, -⟩ := faithful hpath (by decide) 0 hask hahead hlink rfl rfl
    ⟨rfl, rfl⟩ Ingress.handshakeTimeoutMs Egress.targetTimeoutMs hmoves
  have hup : Act.sourceEnded .up ∈ w.nearActs := by decide +kernel
  have hdown : Act.sourceEnded .down ∈ w.farActs := by decide +kernel
  exact ⟨hpath, hprompt, hall hup hdown⟩

end Path

end SealedTunnel
