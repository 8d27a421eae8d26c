import SealedTunnel.Ends.Egress
import SealedTunnel.Proofs.Conn.Provenance
import SealedTunnel.Proofs.Ends.Incidents
import SealedTunnel.Proofs.Loopback.Pipe
import SealedTunnel.Proofs.Stream.Target

/-!
# How a connection is served

Whoever is on the wire may put any bytes there. If of these bytes only payloads open that someone
with the key has made, a connection gives nothing but what was written, and the far end connects to
no target but one whose whole header was written so: at most once, and not at all where no payload
opens.

## Main definitions

* `Egress.Kept`: what every stage keeps
* `Egress.Site.recorded`: what serving works with, where the incidents are written down
* `Egress.serveAll`: serving, poll by poll
* `Egress.Course`: how serving a connection may stand, by the bytes on the wire

## Main results

* `Egress.Kept.serve`, `Egress.Kept.serveAll`: what every stage keeps, serving keeps
* `Egress.only_authentic`: only what was written gets through, and only that is connected to
-/

namespace SealedTunnel.Egress

variable {δ σ σ' τ : Type}

/-! ## Stages -/

/-- What serving keeps, stage by stage. -/
structure Kept (site : Site δ σ) (P : Outcome δ → σ → Prop) : Prop where
  receiving : ∀ {deadline talk s}, P (.inl (.receiving deadline talk)) s →
    match talk.advance site.tunnel s with
    | (.done target, s) =>
      let r := site.connector.start target s
      P (.inl (.connecting r.1)) r.2
    | (.fail e, s) => P (.inr (.error e)) s
    | (talk, s) => P (.inl (.receiving deadline talk)) s ∧
        (deadline ≤ site.now s → P (.inr (.error (.timeout "target header"))) s)
  connecting : ∀ {progress s}, P (.inl (.connecting progress)) s →
    match site.connector.resume progress s with
    | (.pending progress, s) => P (.inl (.connecting progress)) s
    | (.opened stream, s) =>
      P (.inl (.relaying stream .start)) ((site.relayTo stream).started s)
    | (.refused e, s) => P (.inr (.error (.dial e.message))) (site.dialFailed s)
  relaying : ∀ {stream relay s}, P (.inl (.relaying stream relay)) s →
    match relay.step (site.relayTo stream) s with
    | (.finished (.ok _), s) => P (.inr (.ok ())) s
    | (.finished (.error e), s) => P (.inr (.error e)) s
    | (relay, s) => P (.inl (.relaying stream relay)) s

namespace Kept

variable {site : Site δ σ} {P : Outcome δ → σ → Prop} {s : σ}

theorem relayOn (h : Kept site P) {stream : Nat} {relay : Relay}
    (hs : P (.inl (.relaying stream relay)) s) :
    let r := Egress.relayOn site stream relay s
    P r.1 r.2 := by
  have := h.relaying hs
  unfold Egress.relayOn
  generalize relay.step (site.relayTo stream) s = r at this
  obtain ⟨relay', s'⟩ := r
  cases relay' with
  | copying | closing => exact this
  | finished result => cases result <;> exact this

theorem connectOn (h : Kept site P) {progress : δ} (hs : P (.inl (.connecting progress)) s) :
    let r := Egress.connectOn site progress s
    P r.1 r.2 := by
  have := h.connecting hs
  unfold Egress.connectOn
  generalize site.connector.resume progress s = r at this
  obtain ⟨answer, s'⟩ := r
  cases answer with
  | pending => exact this
  | opened => exact h.relayOn this
  | refused => exact this

theorem receive (h : Kept site P) {deadline : Nat} {talk : Talk TunnelError TunnelError String}
    (hs : P (.inl (.receiving deadline talk)) s) :
    let r := Egress.receive site deadline talk s
    P r.1 r.2 := by
  have := h.receiving hs
  unfold Egress.receive
  generalize talk.advance site.tunnel s = r at this
  obtain ⟨talk', s'⟩ := r
  cases talk' with
  | done target => exact h.connectOn this
  | fail e => exact this
  | need | send =>
    dsimp only
    split
    · rename_i hlate
      exact this.2 hlate
    · exact this.1

/-- **What every stage keeps, serving keeps.** -/
theorem serve (h : Kept site P) {e : Egress δ} (hs : P (.inl e) s) :
    let r := e.serve site s
    P r.1 r.2 := by
  cases e with
  | receiving => exact h.receive hs
  | connecting => exact h.connectOn hs
  | relaying => exact h.relayOn hs

end Kept

/-! ## Polls -/

/-- Others act, and then serving goes on, if it has not come to its end. -/
def poll (site : Site δ σ) : Outcome δ × σ → (σ → σ) → Outcome δ × σ
  | (.inl e, s), others => e.serve site (others s)
  | (.inr result, s), others => (.inr result, others s)

/-- Serving, poll by poll, with what others do before each of them. -/
def serveAll (site : Site δ σ) (others : List (σ → σ)) (r : Outcome δ × σ) : Outcome δ × σ :=
  others.foldl (poll site) r

theorem Kept.serveAll {site : Site δ σ} {P : Outcome δ → σ → Prop} (h : Kept site P)
    {others : List (σ → σ)} (hothers : ∀ f ∈ others, ∀ o s, P o s → P o (f s))
    {r : Outcome δ × σ} (hr : P r.1 r.2) :
    P (Egress.serveAll site others r).1 (Egress.serveAll site others r).2 := by
  induction others generalizing r with
  | nil => exact hr
  | cons f others ih =>
    have hf := hothers f List.mem_cons_self
    refine ih (fun g hg => hothers g (List.mem_cons_of_mem f hg)) ?_
    obtain ⟨o, s⟩ := r
    cases o with
    | inl e => exact h.serve (hf _ _ hr)
    | inr result => exact hf _ _ hr

/-! ## Incidents -/

/-- The same site; what happens is written down. -/
def Site.recorded (site : Site δ σ) : Site δ (σ × List (Incident ConnectError σ)) where
  tunnel := site.tunnel.beside _
  now s := site.now s.1
  connector := site.connector.recorded
  relayTo stream := (site.relayTo stream).announced stream
  dialFailed s := (site.dialFailed s.1, s.2)

theorem Site.connector_recorded (site : Site δ σ) :
    site.recorded.connector = site.connector.recorded := rfl

theorem Site.relayTo_recorded (site : Site δ σ) (stream : Nat) :
    site.recorded.relayTo stream = (site.relayTo stream).announced stream := rfl

/-- The site `site'` does to the part `π` of its state what `site` does. -/
structure Site.Within (π : σ' → σ) (site' : Site δ σ') (site : Site δ σ) : Prop where
  tunnel : site'.tunnel.Within π site.tunnel
  now : ∀ s, site'.now s = site.now (π s)
  connector : site'.connector.Within π site.connector
  relayTo : ∀ stream, (site'.relayTo stream).Within π (site.relayTo stream)
  dialFailed : ∀ s, π (site'.dialFailed s) = site.dialFailed (π s)

theorem Site.within_recorded (site : Site δ σ) : site.recorded.Within Prod.fst site where
  tunnel := site.tunnel.within_beside
  now _ := rfl
  connector := site.connector.within_recorded
  relayTo stream := (site.relayTo stream).within_announced stream
  dialFailed _ := rfl

section Within

variable {π : σ' → σ} {site' : Site δ σ'} {site : Site δ σ}

theorem relayOn_within (h : site'.Within π site) (stream : Nat) (relay : Relay) (s : σ') :
    relayOn site stream relay (π s) = Prod.map id π (relayOn site' stream relay s) := by
  unfold relayOn
  rw [Relay.step_within (h.relayTo stream)]
  generalize relay.step (site'.relayTo stream) s = r
  obtain ⟨relay', s'⟩ := r
  cases relay' with
  | copying | closing => rfl
  | finished result => cases result <;> rfl

theorem connectOn_within (h : site'.Within π site) (progress : δ) (s : σ') :
    connectOn site progress (π s) = Prod.map id π (connectOn site' progress s) := by
  unfold connectOn
  rw [h.connector.resume]
  generalize site'.connector.resume progress s = r
  obtain ⟨answer, s'⟩ := r
  cases answer with
  | pending => rfl
  | opened stream =>
    show relayOn site stream .start ((site.relayTo stream).started (π s')) = _
    rw [← (h.relayTo stream).started]
    exact relayOn_within h stream .start _
  | refused e =>
    show (_, site.dialFailed (π s')) = _
    rw [← h.dialFailed]
    rfl

theorem receive_within (h : site'.Within π site) (deadline : Nat)
    (talk : Talk TunnelError TunnelError String) (s : σ') :
    receive site deadline talk (π s) = Prod.map id π (receive site' deadline talk s) := by
  unfold receive
  rw [Talk.advance_within h.tunnel]
  generalize talk.advance site'.tunnel s = r
  obtain ⟨talk', s'⟩ := r
  cases talk' with
  | done target =>
    show connectOn site (site.connector.start target (π s')).1
      (site.connector.start target (π s')).2 = _
    rw [h.connector.start]
    exact connectOn_within h _ _
  | fail e => rfl
  | need | send =>
    show (if deadline ≤ site.now (π s') then _ else _) =
      Prod.map id π (if deadline ≤ site'.now s' then _ else _)
    rw [← h.now]
    split <;> rfl

theorem serve_within (h : site'.Within π site) (e : Egress δ) (s : σ') :
    e.serve site (π s) = Prod.map id π (e.serve site' s) := by
  cases e with
  | receiving deadline talk => exact receive_within h deadline talk s
  | connecting progress => exact connectOn_within h progress s
  | relaying stream relay => exact relayOn_within h stream relay s

end Within

/-- Serving, poll by poll, with the incidents written down. -/
def watch (site : Site δ σ) (others : List (σ → σ)) (e : Egress δ) (s : σ) :
    Outcome δ × σ × List (Incident ConnectError σ) :=
  serveAll site.recorded (others.map fun f => Prod.map f id) (.inl e, s, [])

/-- **Watching changes nothing.** -/
theorem serveAll_recorded (site : Site δ σ) (others : List (σ → σ))
    (r : Outcome δ × σ × List (Incident ConnectError σ)) :
    Prod.map id Prod.fst (serveAll site.recorded (others.map fun f => Prod.map f id) r) =
      serveAll site others (Prod.map id Prod.fst r) := by
  induction others generalizing r with
  | nil => rfl
  | cons f others ih =>
    refine (ih _).trans (congrArg (serveAll site others) ?_)
    obtain ⟨o, s, log⟩ := r
    cases o with
    | inl e => exact (serve_within site.within_recorded e (f s, log)).symm
    | inr result => rfl

/-! ## What becomes of a connection -/

/-- How serving a connection may stand, by the bytes on its wire: the incidents so far, and the
state, of which the connection is the part `π`. -/
inductive Course (s : Settings) (ahead : τ → Bytes) (wire : Bytes) (π : σ → Channel τ) :
    Outcome δ → List (Incident ConnectError σ) → σ → Prop
  /-- What the connection has given is a part of the header. -/
  | receiving {deadline talk got st} (hsilent : talk.Silent)
      (hreleased : (π st).Released s ahead wire got) (hleaves : Target.receive.Leaves got talk) :
      Course s ahead wire π (.inl (.receiving deadline talk)) [] st
  /-- No target has become known. -/
  | unnamed {why st} : Course s ahead wire π (.inr (.error why)) [] st
  | connecting {progress target st} (h : s.Vouched wire (Target.header target)) :
      Course s ahead wire π (.inl (.connecting progress)) [.asked target] st
  | refused {why target st} (h : s.Vouched wire (Target.header target)) :
      Course s ahead wire π (.inr (.error (.dial why.message))) [.asked target, .refused why] st
  | relaying {stream relay target start st} (h : s.Vouched wire (Target.header target)) :
      Course s ahead wire π (.inl (.relaying stream relay))
        [.asked target, .opened stream, .relays stream start] st
  | relayed {stream result target start st} (h : s.Vouched wire (Target.header target)) :
      Course s ahead wire π (.inr result)
        [.asked target, .opened stream, .relays stream start] st

section Course

variable {site : Site δ σ} {s : Settings} {d : Carrier τ} {ahead : τ → Bytes}
  {wire : Bytes} {π : σ → Channel τ} {fuel owner : Nat}

/-- Whoever leaves the reading side of the connection and the bytes on its wire alone leaves the
course as it is. -/
theorem Course.others {o : Outcome δ} {log : List (Incident ConnectError σ)} {st : σ} {f : σ → σ}
    (h : Course s ahead wire π o log st) (hreader : (π (f st)).reader = (π st).reader)
    (hahead : ahead (π (f st)).stream = ahead (π st).stream) :
    Course s ahead wire π o log (f st) := by
  cases h with
  | receiving hsilent hreleased hleaves =>
    refine .receiving hsilent ?_ hleaves
    unfold Channel.Released
    rw [hreader, hahead]
    exact hreleased
  | unnamed => exact .unnamed
  | connecting h => exact .connecting h
  | refused h => exact .refused h
  | relaying h => exact .relaying h
  | relayed h => exact .relayed h

/-- **The course is kept.** -/
theorem kept_course (h : d.Gives ahead)
    (htunnel : site.tunnel.Within π (Channel.toDuplex s d fuel owner)) (hwire : s.Authentic wire) :
    Kept site.recorded fun o st => Course s ahead wire π o st.2 st.1 where
  receiving := by
    rintro deadline talk ⟨st, log⟩ hc
    cases hc with
    | receiving hsilent hreleased hleaves =>
      have hdelivers := htunnel.delivers_of (Channel.delivers_released h s fuel owner wire)
      have hadvance := Talk.advance_delivers hdelivers hsilent hreleased
      rw [show site.recorded.tunnel = site.tunnel.beside _ from rfl, Talk.advance_beside]
      generalize talk.advance site.tunnel st = r at hadvance
      obtain ⟨talk', st'⟩ := r
      rcases hadvance with ⟨e, -, -, rfl, -⟩ | ⟨hsilent', more, hreleased', hmore, -⟩
      · exact .unnamed
      · have hleaves' := hleaves.trans hmore
        cases talk' with
        | done target =>
          have hon := hleaves' []
          rw [List.append_nil] at hon
          obtain ⟨hheader, -⟩ := Target.eq_header hon
          obtain ⟨frames, begun, chunks, rfl, hwhole⟩ := hreleased'
          have hgiven := hwhole.given
          rw [hheader, List.append_nil] at hgiven
          rw [List.append_assoc] at hwire
          refine .connecting ?_
          rw [List.append_assoc]
          exact (hwire.whole hwhole.whole).vouched hwhole.whole ⟨_, hgiven⟩ _
        | fail e => exact .unnamed
        | need | send =>
          exact ⟨.receiving hsilent' hreleased' hleaves', fun _ => .unnamed⟩
  connecting := by
    rintro progress ⟨st, log⟩ hc
    cases hc with
    | connecting hvouched =>
      rw [Site.connector_recorded, Opener.resume_recorded]
      dsimp only
      generalize site.connector.resume progress st = r
      obtain ⟨answer, st'⟩ := r
      cases answer with
      | pending => exact .connecting hvouched
      | opened => exact .relaying hvouched
      | refused => exact .refused hvouched
  relaying := by
    rintro stream relay ⟨st, log⟩ hc
    cases hc with
    | relaying hvouched =>
      rw [Site.relayTo_recorded, Relay.step_announced]
      generalize relay.step (site.relayTo stream) st = r
      obtain ⟨relay', st'⟩ := r
      cases relay' with
      | copying | closing => exact .relaying hvouched
      | finished result => cases result <;> exact .relayed hvouched

/-- Where no payload opens, nothing happens. -/
theorem Course.eq_nil_of_none_opens {o : Outcome δ} {log : List (Incident ConnectError σ)}
    {st : σ} (h : Course s ahead wire π o log st)
    (hnone : ∀ payload ∈ (Wire.split wire).payloads, ∀ opened,
      s.openPayload payload ≠ .ok opened) : log = [] := by
  -- A header has bytes, and all of them would have been written in frames that open.
  have hfalse {target : String} (hv : s.Vouched wire (Target.header target)) : False :=
    Target.header_ne_nil target (hv.eq_nil_of_none_opens hnone)
  cases h with
  | receiving | unnamed => rfl
  | connecting hv | refused hv | relaying hv | relayed hv => exact (hfalse hv).elim

/-- **Only what was written gets through.** Whoever is on the wire, as long as only payloads open
that someone with the key has made: all reads up to the first failure give whole chunks that were
written and a part of the next, out of frames that were taken off the wire by then; and serving a
connection takes a course on which at most one target is connected to, whose whole header was
written so, and none where no payload opens. -/
theorem only_authentic (h : d.Gives ahead)
    (htunnel : site.tunnel.Within π (Channel.toDuplex s d fuel owner)) {others : List (σ → σ)}
    (hothers : ∀ f ∈ others, ∀ st, (π (f st)).reader = (π st).reader ∧
      ahead (π (f st)).stream = ahead (π st).stream)
    {st : σ} (hfresh : (π st).reader = {}) (hwire : s.Authentic (ahead (π st).stream))
    (now timeoutMs : Nat) :
    let wire := ahead (π st).stream
    (∀ sizes, let run := (π st).readAll s d fuel owner sizes
      ∃ taken, wire = taken ++ ahead run.2.stream ∧
        s.Vouched taken (run.1.flatMap fun r => r.2.bytes)) ∧
    let (o, st', log) := watch site others (start now timeoutMs) st
    Course s ahead wire π o log st' ∧
      serveAll site others (.inl (start now timeoutMs), st) = (o, st') ∧
      ((∀ payload ∈ (Wire.split wire).payloads, ∀ opened, s.openPayload payload ≠ .ok opened) →
        log = []) := by
  have hreleased := Channel.released_fresh s ahead hfresh
  refine ⟨fun sizes => ?_, ?_⟩
  · obtain ⟨frames, begun, chunks, htaken, hparse, hgot⟩ :=
      Channel.readAll_releases h hreleased fuel owner sizes
    rw [List.append_assoc] at htaken
    rw [htaken] at hwire
    refine ⟨frames ++ begun, htaken.trans (List.append_assoc ..).symm, ?_⟩
    exact (hwire.whole hparse).vouched hparse hgot begun
  · have hstart : Course s ahead (ahead (π st).stream) π
        (.inl (start now timeoutMs) : Outcome δ) [] st :=
      .receiving Target.silent_receive hreleased (.refl _)
    have hbetween : ∀ g ∈ others.map fun f => Prod.map f id,
        ∀ (o : Outcome δ) (st' : σ × List (Incident ConnectError σ)),
          Course s ahead (ahead (π st).stream) π o st'.2 st'.1 →
          Course s ahead (ahead (π st).stream) π o (g st').2 (g st').1 := by
      intro g hg o st' hc
      obtain ⟨f, hf, rfl⟩ := List.mem_map.1 hg
      obtain ⟨hreader, hahead⟩ := hothers f hf st'.1
      exact hc.others hreader hahead
    have hall := (kept_course h htunnel hwire).serveAll hbetween
      (r := (.inl (start now timeoutMs), st, [])) hstart
    have hsame := serveAll_recorded site others (.inl (start now timeoutMs), st, [])
    exact ⟨hall, hsame.symm, hall.eq_nil_of_none_opens⟩

end Course

/-- The recorded frame of a header, and behind it the same frame with another last byte. -/
theorem only_authentic_altered :
    let s : Settings :=
      { cipher := some ⟨.chaCha20Poly1305, Bytes.zeros 32, rfl⟩, obfuscation := .disabled }
    let payload : Bytes :=
      [0, 0, 0, 0, 0, 0, 0, 0, 0, 0, 0, 0, 159, 14, 147, 221, 37, 107, 23, 85, 240, 128, 166, 169,
        145, 195, 86, 210, 55, 190, 18, 100, 107, 211, 222, 61, 113, 250, 219]
    let wire := Wire.frame payload ++ Wire.frame (payload.set 38 0)
    let ch : Channel (Pipe × Pipe) :=
      { pool := .empty 64 3, entropy := .ofBytes []
        stream := ({ queue := ByteQueue.empty.push wire, capacity := 99 }, { capacity := 99 }) }
    let tunnel := Channel.toDuplex s Pipe.crossed 9 0
    let ends : Relay.Ends (Channel (Pipe × Pipe)) :=
      { near := ⟨fun _ ch => (.waiting, ch), fun _ ch => (.waiting, ch)⟩, tunnel
        started := id, ended := id, countUp := fun _ => id, countDown := fun _ => id, abandon := id
        closeTunnel := fun ch => (.ready (), ch), closeNear := id }
    let site : Site Unit (Channel (Pipe × Pipe)) :=
      { tunnel, now := fun _ => 0
        connector := { start := fun _ ch => ((), ch), resume := fun _ ch => (.opened 0, ch) }
        relayTo := fun _ => ends, dialFailed := id }
    let r := watch site [id, id] (start 0 targetTimeoutMs) ch
    s.Authentic wire ∧ ch.reader = {} ∧
      Course s (·.1.queue.toList) wire id r.1 r.2.2 r.2.1 ∧
      (∃ more, r.2.2 = .asked "h:1" :: more) ∧ s.Vouched wire (Target.header "h:1") := by
  intro s payload wire ch tunnel ends site r
  have hmade : ∃ chunk, s.Made payload chunk := by
    let written := s.prepare (Target.header "h:1") (.empty 64 3) (.ofBytes (Bytes.zeros 12))
    have hframe : written.toOption.map (·.1.1.frame) = some (Wire.frame payload) := by
      decide +kernel
    cases hp : written with
    | ok r =>
      rw [hp] at hframe
      exact ⟨_, .write (.refl s) (Target.header_ne_nil _) hp (Option.some.inj hframe)⟩
    | error e =>
      rw [hp] at hframe
      cases hframe
  have hpayloads : (Wire.split wire).payloads = [payload, payload.set 38 0] := by decide +kernel
  have hauthentic : s.Authentic wire := by
    intro p hp opened hopen
    rw [hpayloads] at hp
    rcases List.mem_pair.1 hp with rfl | rfl
    · exact hmade
    · have hshut : (s.openPayload (payload.set 38 0)).isOk = false := by decide +kernel
      rw [hopen] at hshut
      cases hshut
  have hfresh : (id ch).reader = {} := rfl
  have hothers : ∀ f ∈ [id, id], ∀ c : Channel (Pipe × Pipe),
      (f c).reader = c.reader ∧ (f c).stream.1.queue.toList = c.stream.1.queue.toList := by
    intro f hf c
    rcases List.mem_pair.1 hf with rfl | rfl <;> exact ⟨rfl, rfl⟩
  have htunnel : site.tunnel.Within id tunnel := ⟨fun _ _ => rfl, fun _ _ => rfl⟩
  obtain ⟨-, hcourse, -⟩ := only_authentic Pipe.reliable_crossed.gives htunnel hothers hfresh
    hauthentic 0 targetTimeoutMs
  have hasked : Incident.targets (watch site [id, id] (start 0 targetTimeoutMs) ch).2.2 =
      ["h:1"] := by decide +kernel
  refine ⟨hauthentic, rfl, hcourse, ?_⟩
  change Course s _ wire id r.1 r.2.2 r.2.1 at hcourse
  change Incident.targets r.2.2 = ["h:1"] at hasked
  generalize r = r' at hcourse hasked ⊢
  obtain ⟨o, st, log⟩ := r'
  cases hcourse with
  | receiving | unnamed => cases hasked
  | connecting h | refused h | relaying h | relayed h =>
    obtain rfl := (List.cons.inj hasked).1
    exact ⟨⟨_, rfl⟩, h⟩

end SealedTunnel.Egress
