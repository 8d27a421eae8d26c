import SealedTunnel.Ends.Ingress
import SealedTunnel.Proofs.Ends.Incidents
import SealedTunnel.Proofs.Loopback.Pipe
import SealedTunnel.Proofs.Socks.Verdict

/-!
# How a client is served

A client sends some bytes over a reliable stream, in whatever pieces and with whatever pauses, and
others act between the polls of the task that serves it. What the client is told, what the opener is
asked for, and how serving ends, depend on the verdict on the bytes and on the opener's answer
alone.

## Main definitions

* `Ingress.Kept`: what every stage keeps
* `Ingress.Site.recorded`: what serving works with, where the incidents are written down
* `Ingress.serveAll`: serving, poll by poll
* `Ingress.Course`: how serving a client may stand, by the verdict on its bytes

## Main results

* `Ingress.Kept.serve`, `Ingress.Kept.serveAll`: what every stage keeps, serving keeps
* `Ingress.served_by_verdict`: a client is served by the verdict on its bytes
-/

namespace SealedTunnel.Ingress

open Socks Socks.Session

variable {δ σ σ' : Type}

/-! ## Stages -/

/-- What serving keeps, stage by stage. -/
structure Kept (site : Site δ σ) (P : Outcome δ → σ → Prop) : Prop where
  greeting : ∀ {deadline talk s}, P (.inl (.greeting deadline talk)) s →
    match talk.advance site.client s with
    | (.done (address, session), s) =>
      let r := site.opener.start address.text s
      P (.inl (.opening session address.text r.1)) r.2
    | (.fail (e, _), s) => P (.inr (.error e)) s
    | (talk, s) => P (.inl (.greeting deadline talk)) s ∧
        (deadline ≤ site.now s → P (.inr (.error .handshakeTimeout)) s)
  opening : ∀ {session target progress s}, P (.inl (.opening session target progress)) s →
    match site.opener.resume progress s with
    | (.pending progress, s) => P (.inl (.opening session target progress)) s
    | (.opened stream, s) => P (.inl (.accepting stream (session.reply .succeeded))) s
    | (.refused why, s) => P (.inl (.refusing target why (session.reply .hostUnreachable)))
        (site.warn (warning target why) s)
  refusing : ∀ {target why talk s}, P (.inl (.refusing target why talk)) s →
    match talk.advance site.client s with
    | (.done _, s) => P (.inr (.error (.dial target why))) s
    | (.fail (e, _), s) => P (.inr (.error e)) s
    | (talk, s) => P (.inl (.refusing target why talk)) s
  accepting : ∀ {stream talk s}, P (.inl (.accepting stream talk)) s →
    match talk.advance site.client s with
    | (.done _, s) => P (.inl (.relaying stream .start)) ((site.relayTo stream).started s)
    | (.fail (why, _), s) => P (.inl (.retreating stream why)) s
    | (talk, s) => P (.inl (.accepting stream talk)) s
  retreating : ∀ {stream why s}, P (.inl (.retreating stream why)) s →
    match (site.relayTo stream).closeTunnel s with
    | (.waiting, s) => P (.inl (.retreating stream why)) s
    | (_, s) => P (.inr (.error why)) s
  relaying : ∀ {stream relay s}, P (.inl (.relaying stream relay)) s →
    match relay.step (site.relayTo stream) s with
    | (.finished (.ok _), s) => P (.inr (.ok ())) s
    | (.finished (.error e), s) => P (.inr (.error (.tunnel e))) s
    | (relay, s) => P (.inl (.relaying stream relay)) s

namespace Kept

variable {site : Site δ σ} {P : Outcome δ → σ → Prop} {s : σ}

theorem relayOn (h : Kept site P) {stream : Nat} {relay : Relay}
    (hs : P (.inl (.relaying stream relay)) s) :
    let r := Ingress.relayOn site stream relay s
    P r.1 r.2 := by
  have := h.relaying hs
  unfold Ingress.relayOn
  generalize relay.step (site.relayTo stream) s = r at this
  obtain ⟨relay', s'⟩ := r
  cases relay' with
  | copying | closing => exact this
  | finished result => cases result <;> exact this

theorem retreat (h : Kept site P) {stream : Nat} {why : ProxyError}
    (hs : P (.inl (.retreating stream why)) s) :
    let r := Ingress.retreat site stream why s
    P r.1 r.2 := by
  have := h.retreating hs
  unfold Ingress.retreat
  generalize (site.relayTo stream).closeTunnel s = r at this
  obtain ⟨outcome, s'⟩ := r
  cases outcome <;> exact this

theorem accept (h : Kept site P) {stream : Nat} {talk : Socks.Session.Call Unit}
    (hs : P (.inl (.accepting stream talk)) s) :
    let r := Ingress.accept site stream talk s
    P r.1 r.2 := by
  have := h.accepting hs
  unfold Ingress.accept
  generalize talk.advance site.client s = r at this
  obtain ⟨talk', s'⟩ := r
  cases talk' with
  | done => exact h.relayOn this
  | fail e => exact h.retreat this
  | need | send => exact this

theorem refuse (h : Kept site P) {target : String} {why : TunnelError}
    {talk : Socks.Session.Call Unit}
    (hs : P (.inl (.refusing target why talk)) s) :
    let r := Ingress.refuse site target why talk s
    P r.1 r.2 := by
  have := h.refusing hs
  unfold Ingress.refuse
  generalize talk.advance site.client s = r at this
  obtain ⟨talk', s'⟩ := r
  cases talk' <;> exact this

theorem openOn (h : Kept site P) {session : Socks.Session} {target : String} {progress : δ}
    (hs : P (.inl (.opening session target progress)) s) :
    let r := Ingress.openOn site session target progress s
    P r.1 r.2 := by
  have := h.opening hs
  unfold Ingress.openOn
  generalize site.opener.resume progress s = r at this
  obtain ⟨answer, s'⟩ := r
  cases answer with
  | pending => exact this
  | opened => exact h.accept this
  | refused => exact h.refuse this

theorem greet (h : Kept site P) {deadline : Nat} {talk : Socks.Session.Call Address}
    (hs : P (.inl (.greeting deadline talk)) s) :
    let r := Ingress.greet site deadline talk s
    P r.1 r.2 := by
  have := h.greeting hs
  unfold Ingress.greet
  generalize talk.advance site.client s = r at this
  obtain ⟨talk', s'⟩ := r
  cases talk' with
  | done asked => exact h.openOn this
  | fail e => exact this
  | need | send =>
    dsimp only
    split
    · rename_i hlate
      exact this.2 hlate
    · exact this.1

/-- **What every stage keeps, serving keeps.** -/
theorem serve (h : Kept site P) {i : Ingress δ} (hs : P (.inl i) s) :
    let r := i.serve site s
    P r.1 r.2 := by
  cases i with
  | greeting => exact h.greet hs
  | opening => exact h.openOn hs
  | refusing => exact h.refuse hs
  | accepting => exact h.accept hs
  | retreating => exact h.retreat hs
  | relaying => exact h.relayOn hs

end Kept

/-! ## Polls -/

/-- Others act, and then serving goes on, if it has not come to its end. -/
def poll (site : Site δ σ) : Outcome δ × σ → (σ → σ) → Outcome δ × σ
  | (.inl i, s), others => i.serve site (others s)
  | (.inr result, s), others => (.inr result, others s)

/-- Serving, poll by poll, with what others do before each of them. -/
def serveAll (site : Site δ σ) (others : List (σ → σ)) (r : Outcome δ × σ) : Outcome δ × σ :=
  others.foldl (poll site) r

theorem Kept.serveAll {site : Site δ σ} {P : Outcome δ → σ → Prop} (h : Kept site P)
    {others : List (σ → σ)} (hothers : ∀ f ∈ others, ∀ o s, P o s → P o (f s))
    {r : Outcome δ × σ} (hr : P r.1 r.2) :
    P (Ingress.serveAll site others r).1 (Ingress.serveAll site others r).2 := by
  -- The induction is on the polls, from wherever the serving stands.
  induction others generalizing r with
  | nil => exact hr
  | cons f others ih =>
    have hf := hothers f List.mem_cons_self
    refine ih (fun g hg => hothers g (List.mem_cons_of_mem f hg)) ?_
    obtain ⟨o, s⟩ := r
    cases o with
    | inl i => exact h.serve (hf _ _ hr)
    | inr result => exact hf _ _ hr

/-! ## Incidents -/

/-- The same site; what happens is written down. -/
def Site.recorded (site : Site δ σ) : Site δ (σ × List (Incident TunnelError σ)) where
  client := site.client.beside _
  now s := site.now s.1
  opener := site.opener.recorded
  relayTo stream := (site.relayTo stream).announced stream
  warn text s := (site.warn text s.1, s.2)

theorem Site.opener_recorded (site : Site δ σ) : site.recorded.opener = site.opener.recorded := rfl

theorem Site.relayTo_recorded (site : Site δ σ) (stream : Nat) :
    site.recorded.relayTo stream = (site.relayTo stream).announced stream := rfl

/-- The site `site'` does to the part `π` of its state what `site` does. -/
structure Site.Within (π : σ' → σ) (site' : Site δ σ') (site : Site δ σ) : Prop where
  client : site'.client.Within π site.client
  now : ∀ s, site'.now s = site.now (π s)
  opener : site'.opener.Within π site.opener
  relayTo : ∀ stream, (site'.relayTo stream).Within π (site.relayTo stream)
  warn : ∀ text s, π (site'.warn text s) = site.warn text (π s)

theorem Site.within_recorded (site : Site δ σ) : site.recorded.Within Prod.fst site where
  client := site.client.within_beside
  now _ := rfl
  opener := site.opener.within_recorded
  relayTo stream := (site.relayTo stream).within_announced stream
  warn _ _ := rfl

section Within

variable {π : σ' → σ} {site' : Site δ σ'} {site : Site δ σ}

theorem relayOn_within (h : site'.Within π site) (stream : Nat) (relay : Relay) (s : σ') :
    relayOn site stream relay (π s) = Prod.map id π (relayOn site' stream relay s) := by
  unfold relayOn
  rw [Relay.step_within (h.relayTo stream)]
  generalize relay.step (site'.relayTo stream) s = r
  obtain ⟨relay', s'⟩ := r
  cases relay' with
  | copying | closing => rfl
  | finished result => cases result <;> rfl

theorem retreat_within (h : site'.Within π site) (stream : Nat) (why : ProxyError) (s : σ') :
    retreat site stream why (π s) = Prod.map id π (retreat site' stream why s) := by
  unfold retreat
  rw [(h.relayTo stream).closeTunnel]
  generalize (site'.relayTo stream).closeTunnel s = r
  obtain ⟨outcome, s'⟩ := r
  cases outcome <;> rfl

theorem accept_within (h : site'.Within π site) (stream : Nat) (talk : Socks.Session.Call Unit)
    (s : σ') :
    accept site stream talk (π s) = Prod.map id π (accept site' stream talk s) := by
  unfold accept
  rw [Talk.advance_within h.client]
  generalize talk.advance site'.client s = r
  obtain ⟨talk', s'⟩ := r
  cases talk' with
  | done =>
    show relayOn site stream .start ((site.relayTo stream).started (π s')) = _
    rw [← (h.relayTo stream).started]
    exact relayOn_within h stream .start _
  | fail e => exact retreat_within h stream e.1 s'
  | need | send => rfl

theorem refuse_within (h : site'.Within π site) (target : String) (why : TunnelError)
    (talk : Socks.Session.Call Unit) (s : σ') :
    refuse site target why talk (π s) = Prod.map id π (refuse site' target why talk s) := by
  unfold refuse
  rw [Talk.advance_within h.client]
  generalize talk.advance site'.client s = r
  obtain ⟨talk', s'⟩ := r
  cases talk' <;> rfl

theorem openOn_within (h : site'.Within π site) (session : Socks.Session) (target : String)
    (progress : δ) (s : σ') :
    openOn site session target progress (π s) =
      Prod.map id π (openOn site' session target progress s) := by
  unfold openOn
  rw [h.opener.resume]
  generalize site'.opener.resume progress s = r
  obtain ⟨answer, s'⟩ := r
  cases answer with
  | pending => rfl
  | opened stream => exact accept_within h stream _ s'
  | refused why =>
    show refuse site target why _ (site.warn (warning target why) (π s')) = _
    rw [← h.warn]
    exact refuse_within h target why _ _

theorem greet_within (h : site'.Within π site) (deadline : Nat)
    (talk : Socks.Session.Call Address) (s : σ') :
    greet site deadline talk (π s) = Prod.map id π (greet site' deadline talk s) := by
  unfold greet
  rw [Talk.advance_within h.client]
  generalize talk.advance site'.client s = r
  obtain ⟨talk', s'⟩ := r
  cases talk' with
  | done asked =>
    show openOn site asked.2 asked.1.text (site.opener.start asked.1.text (π s')).1
      (site.opener.start asked.1.text (π s')).2 = _
    rw [h.opener.start]
    exact openOn_within h asked.2 asked.1.text _ _
  | fail e => rfl
  | need | send =>
    show (if deadline ≤ site.now (π s') then _ else _) =
      Prod.map id π (if deadline ≤ site'.now s' then _ else _)
    rw [← h.now]
    split <;> rfl

theorem serve_within (h : site'.Within π site) (i : Ingress δ) (s : σ') :
    i.serve site (π s) = Prod.map id π (i.serve site' s) := by
  cases i with
  | greeting deadline talk => exact greet_within h deadline talk s
  | opening session target progress => exact openOn_within h session target progress s
  | refusing target why talk => exact refuse_within h target why talk s
  | accepting stream talk => exact accept_within h stream talk s
  | retreating stream why => exact retreat_within h stream why s
  | relaying stream relay => exact relayOn_within h stream relay s

end Within

/-- Serving, poll by poll, with the incidents written down. -/
def watch (site : Site δ σ) (others : List (σ → σ)) (i : Ingress δ) (s : σ) :
    Outcome δ × σ × List (Incident TunnelError σ) :=
  serveAll site.recorded (others.map fun f => Prod.map f id) (.inl i, s, [])

/-- **Watching changes nothing.** -/
theorem serveAll_recorded (site : Site δ σ) (others : List (σ → σ))
    (r : Outcome δ × σ × List (Incident TunnelError σ)) :
    Prod.map id Prod.fst (serveAll site.recorded (others.map fun f => Prod.map f id) r) =
      serveAll site others (Prod.map id Prod.fst r) := by
  induction others generalizing r with
  | nil => rfl
  | cons f others ih =>
    refine (ih _).trans (congrArg (serveAll site others) ?_)
    obtain ⟨o, s, log⟩ := r
    cases o with
    | inl i => exact (serve_within site.within_recorded i (f s, log)).symm
    | inr result => rfl

/-! ## What becomes of a client -/

/-- The opener, and whoever logs, leave the client's stream alone. -/
structure Site.Apart (site : Site δ σ) (up : σ → Prop) (taken ahead : σ → Bytes) : Prop where
  start : ∀ target, Duplex.Aside up taken ahead fun s => (site.opener.start target s).2
  resume : ∀ progress, Duplex.Aside up taken ahead fun s => (site.opener.resume progress s).2
  warn : ∀ text, Duplex.Aside up taken ahead (site.warn text)

/-- How serving a client until a deadline may stand, by the verdict on its bytes: the incidents so
far, the state, and what the client has been told. -/
inductive Course (v : Verdict) (deadline : Nat) (now : σ → Nat) (up : σ → Prop)
    (taken ahead : σ → Bytes) : Outcome δ → List (Incident TunnelError σ) → σ → Prop
  /-- What the client has been told, and what it is still to be told, make up the verdict. -/
  | greeting {talk s} (hup : up s)
      (htold : taken s ++ (Call.verdict talk (ahead s)).told = v.told)
      (hout : (Call.verdict talk (ahead s)).outcome = v.outcome) :
      Course v deadline now up taken ahead (.inl (.greeting deadline talk)) [] s
  | late {s s'} (hlate : deadline ≤ now s') (htold : taken s <+: v.told) :
      Course v deadline now up taken ahead (.inr (.error .handshakeTimeout)) [] s
  /-- Something is wrong with its bytes, and nothing is asked for. -/
  | turnedAway {why s} (hout : v.outcome = .error why) (htold : taken s = v.told) :
      Course v deadline now up taken ahead (.inr (.error why)) [] s
  | opening {session address progress s} (hup : up s) (hout : v.outcome = .ok (address, ahead s))
      (htold : taken s = v.told) :
      Course v deadline now up taken ahead (.inl (.opening session address.text progress))
        [.asked address.text] s
  | refusing {address rest why talk done s} (hup : up s) (hout : v.outcome = .ok (address, rest))
      (hon : talk.on (ahead s) = (.ok done, rest))
      (htold : taken s ++ talk.speech (ahead s) = v.told ++ answer 4) :
      Course v deadline now up taken ahead (.inl (.refusing address.text why talk))
        [.asked address.text, .refused why] s
  | refused {address rest why s} (hout : v.outcome = .ok (address, rest))
      (htold : taken s = v.told ++ answer 4) :
      Course v deadline now up taken ahead (.inr (.error (.dial address.text why)))
        [.asked address.text, .refused why] s
  | accepting {address rest stream talk done s} (hup : up s)
      (hout : v.outcome = .ok (address, rest)) (hon : talk.on (ahead s) = (.ok done, rest))
      (htold : taken s ++ talk.speech (ahead s) = v.told ++ answer 0) :
      Course v deadline now up taken ahead (.inl (.accepting stream talk))
        [.asked address.text, .opened stream] s
  /-- When the relay began, the client had been told all, and what was behind its request was still
  unread. -/
  | relaying {address stream relay start s} (hup : up start)
      (hout : v.outcome = .ok (address, ahead start)) (htold : taken start = v.told ++ answer 0) :
      Course v deadline now up taken ahead (.inl (.relaying stream relay))
        [.asked address.text, .opened stream, .relays stream start] s
  | relayed {address stream start s} (hup : up start)
      (hout : v.outcome = .ok (address, ahead start)) (htold : taken start = v.told ++ answer 0) :
      Course v deadline now up taken ahead (.inr (.ok ()))
        [.asked address.text, .opened stream, .relays stream start] s
  | broken {address stream e start s} (hup : up start)
      (hout : v.outcome = .ok (address, ahead start)) (htold : taken start = v.told ++ answer 0) :
      Course v deadline now up taken ahead (.inr (.error (.tunnel e)))
        [.asked address.text, .opened stream, .relays stream start] s

variable {site : Site δ σ} {up : σ → Prop} {taken ahead : σ → Bytes} {v : Verdict} {deadline : Nat}
  {now : σ → Nat}

/-- What others do leaves the course as it is. -/
theorem Course.others {o : Outcome δ} {log : List (Incident TunnelError σ)} {s : σ} {f : σ → σ}
    (h : Course v deadline now up taken ahead o log s) (hf : Duplex.Aside up taken ahead f) :
    Course v deadline now up taken ahead o log (f s) := by
  have htaken := hf.taken s
  have hahead := hf.ahead s
  cases h with
  | greeting hup htold hout =>
    rw [← htaken, ← hahead] at htold
    rw [← hahead] at hout
    exact .greeting (hf.up hup) htold hout
  | late hlate htold => exact .late hlate (htaken ▸ htold)
  | turnedAway hout htold => exact .turnedAway hout (htaken.trans htold)
  | opening hup hout htold => exact .opening (hf.up hup) (hahead ▸ hout) (htaken.trans htold)
  | refusing hup hout hon htold =>
    rw [← htaken, ← hahead] at htold
    exact .refusing (hf.up hup) hout (hahead ▸ hon) htold
  | refused hout htold => exact .refused hout (htaken.trans htold)
  | accepting hup hout hon htold =>
    rw [← htaken, ← hahead] at htold
    exact .accepting (hf.up hup) hout (hahead ▸ hon) htold
  | relaying hup hout htold => exact .relaying hup hout htold
  | relayed hup hout htold => exact .relayed hup hout htold
  | broken hup hout htold => exact .broken hup hout htold

/-- A conversation with the client goes on: what it comes to, and what is said in all, stays. -/
theorem advance_recorded {ε α : Type} (hclient : site.client.Reliable up taken ahead)
    (talk : Talk IoError ε α) (log : List (Incident TunnelError σ)) {s : σ} (hup : up s) :
    ∃ talk' s', talk.advance site.recorded.client (s, log) = (talk', s', log) ∧ up s' ∧
      talk.on (ahead s) = talk'.on (ahead s') ∧
      taken s ++ talk.speech (ahead s) = taken s' ++ talk'.speech (ahead s') := by
  obtain ⟨⟨hup', hlog⟩, hon, hspeech⟩ :=
    talk.advance_reliable (hclient.beside log) (s := (s, log)) ⟨hup, rfl⟩
  exact ⟨_, _, Prod.ext rfl (Prod.ext rfl hlog), hup', hon, hspeech⟩

/-- **Every stage keeps to the course.** -/
theorem kept_course (hclient : site.client.Reliable up taken ahead)
    (hapart : site.Apart up taken ahead) (v : Verdict) (deadline : Nat) :
    Kept site.recorded fun o s => Course v deadline site.now up taken ahead o s.2 s.1 where
  greeting := by
    rintro _ talk ⟨s, log⟩ h
    cases h with
    | greeting hup htold hout =>
      obtain ⟨talk', s', heq, hup', hon, hspeech⟩ := advance_recorded hclient talk [] hup
      have htold' : taken s' ++ talk'.speech (ahead s') = v.told := hspeech ▸ htold
      have hout' : Call.outcome (talk'.on (ahead s')) = v.outcome := hon ▸ hout
      rw [heq]
      cases talk' with
      | done asked =>
        have hf := hapart.start asked.1.text
        refine .opening (hf.up hup') ?_ ((hf.taken s').trans ?_)
        · show v.outcome = .ok (asked.1, ahead (site.opener.start asked.1.text s').2)
          rw [hf.ahead s']
          exact hout'.symm
        · rw [← htold']
          exact (List.append_nil _).symm
      | fail e => exact .turnedAway hout'.symm ((List.append_nil _).symm.trans htold')
      | need | send => exact ⟨.greeting hup' htold' hout', fun hlate => .late hlate ⟨_, htold'⟩⟩
  opening := by
    rintro session target progress ⟨s, log⟩ h
    cases h with
    | @opening _ address _ _ hup hout htold =>
      have hf := hapart.resume progress
      have hup' := hf.up hup
      have htold' := (hf.taken s).trans htold
      rw [← hf.ahead] at hout
      dsimp only at hup' htold' hout
      rw [Site.opener_recorded, Opener.resume_recorded]
      dsimp only
      generalize site.opener.resume progress s = r at hup' htold' hout
      obtain ⟨answer, s'⟩ := r
      cases answer with
      | pending progress' => exact .opening hup' hout htold'
      | opened stream =>
        refine .accepting hup' hout rfl ?_
        rw [htold']
        rfl
      | refused why =>
        have hw := hapart.warn (warning address.text why)
        rw [← hw.ahead] at hout
        have htold'' := (hw.taken s').trans htold'
        exact .refusing (hw.up hup') hout rfl (congrArg (· ++ answer 4) htold'')
  refusing := by
    rintro target why talk ⟨s, log⟩ h
    cases h with
    | refusing hup hout hon htold =>
      obtain ⟨talk', s', heq, hup', hon', hspeech⟩ := advance_recorded hclient talk _ hup
      rw [hon'] at hon
      rw [hspeech] at htold
      rw [heq]
      cases talk' with
      | done => exact .refused hout ((List.append_nil _).symm.trans htold)
      | fail e => cases (Prod.mk.inj hon).1
      | need | send => exact .refusing hup' hout hon htold
  accepting := by
    rintro stream talk ⟨s, log⟩ h
    cases h with
    | accepting hup hout hon htold =>
      obtain ⟨talk', s', heq, hup', hon', hspeech⟩ := advance_recorded hclient talk _ hup
      rw [hon'] at hon
      rw [hspeech] at htold
      rw [heq]
      cases talk' with
      | done =>
        obtain ⟨-, rfl⟩ := Prod.mk.inj hon
        exact .relaying hup' hout ((List.append_nil _).symm.trans htold)
      | fail e => cases (Prod.mk.inj hon).1
      | need | send => exact .accepting hup' hout hon htold
  retreating := by
    rintro stream why ⟨s, log⟩ h
    cases h
  relaying := by
    rintro stream relay ⟨s, log⟩ h
    cases h with
    | relaying hup hout htold =>
      rw [Site.relayTo_recorded, Relay.step_announced]
      generalize relay.step (site.relayTo stream) s = r
      obtain ⟨relay', s'⟩ := r
      cases relay' with
      | copying | closing => exact .relaying hup hout htold
      | finished result =>
        cases result with
        | ok => exact .relayed hup hout htold
        | error => exact .broken hup hout htold

/-! ## Waiting for the client -/

/-- Whether serving has to wait for the client to send, or to take, more bytes of the handshake. -/
def Outcome.onClient : Outcome δ → Bool
  | .inl (.greeting ..) | .inl (.refusing ..) | .inl (.accepting ..) => true
  | _ => false

/-- While `P` holds, the client makes nobody wait, whatever opener and log do. -/
structure Site.Swift (site : Site δ σ) (P : σ → Prop) : Prop where
  client : site.client.Swift P
  start : ∀ target {s}, P s → P (site.opener.start target s).2
  resume : ∀ progress {s}, P s → P (site.opener.resume progress s).2
  warn : ∀ text {s}, P s → P (site.warn text s)

section Swift

variable {P : σ → Prop} {s : σ}

theorem onClient_relayOn (site : Site δ σ) (stream : Nat) (relay : Relay) (s : σ) :
    (relayOn site stream relay s).1.onClient = false := by
  unfold relayOn
  generalize relay.step (site.relayTo stream) s = r
  obtain ⟨relay', s'⟩ := r
  cases relay' with
  | copying | closing => rfl
  | finished result => cases result <;> rfl

theorem onClient_retreat (site : Site δ σ) (stream : Nat) (why : ProxyError) (s : σ) :
    (retreat site stream why s).1.onClient = false := by
  unfold retreat
  generalize (site.relayTo stream).closeTunnel s = r
  obtain ⟨outcome, s'⟩ := r
  cases outcome <;> rfl

theorem onClient_accept (h : site.Swift P) (stream : Nat) (talk : Socks.Session.Call Unit)
    (hs : P s) :
    (accept site stream talk s).1.onClient = false := by
  obtain ⟨hover, -⟩ := Talk.isOver_advance_of_swift h.client talk hs
  unfold accept
  generalize talk.advance site.client s = r at hover
  obtain ⟨talk', s'⟩ := r
  cases talk' with
  | done => exact onClient_relayOn site stream _ _
  | fail e => exact onClient_retreat site stream _ _
  | need | send => cases hover

theorem onClient_refuse (h : site.Swift P) (target : String) (why : TunnelError)
    (talk : Socks.Session.Call Unit) (hs : P s) :
    (refuse site target why talk s).1.onClient = false := by
  obtain ⟨hover, -⟩ := Talk.isOver_advance_of_swift h.client talk hs
  unfold refuse
  generalize talk.advance site.client s = r at hover
  obtain ⟨talk', s'⟩ := r
  cases talk' with
  | done | fail => rfl
  | need | send => cases hover

theorem onClient_openOn (h : site.Swift P) (session : Socks.Session) (target : String)
    (progress : δ) (hs : P s) : (openOn site session target progress s).1.onClient = false := by
  have hs' := h.resume progress hs
  unfold openOn
  generalize site.opener.resume progress s = r at hs'
  obtain ⟨answer, s'⟩ := r
  cases answer with
  | pending => rfl
  | opened stream => exact onClient_accept h stream _ hs'
  | refused why => exact onClient_refuse h target why _ (h.warn _ hs')

/-- A client that makes nobody wait is not waited for. -/
theorem onClient_serve (h : site.Swift P) (i : Ingress δ) (hs : P s) :
    (i.serve site s).1.onClient = false := by
  cases i with
  | opening session target progress => exact onClient_openOn h session target progress hs
  | refusing target why talk => exact onClient_refuse h target why talk hs
  | accepting stream talk => exact onClient_accept h stream talk hs
  | retreating stream why => exact onClient_retreat site stream why s
  | relaying stream relay => exact onClient_relayOn site stream relay s
  | greeting deadline talk =>
    obtain ⟨hover, hs'⟩ := Talk.isOver_advance_of_swift h.client talk hs
    show (greet site deadline talk s).1.onClient = false
    unfold greet
    generalize talk.advance site.client s = r at hover hs'
    obtain ⟨talk', s'⟩ := r
    cases talk' with
    | done asked => exact onClient_openOn h _ _ _ (h.start _ hs')
    | fail e => rfl
    | need | send => cases hover

end Swift

/-- **A client is served by the verdict on its bytes**, in whatever pieces they come and whatever
others do between the polls. What the client has been told so far, what the opener was asked for,
and how serving ends, are those of the course that the verdict gives; watching it changes nothing;
and a poll at which the client makes nobody wait does not end in waiting for it. -/
theorem served_by_verdict (hclient : site.client.Reliable up taken ahead)
    (hapart : site.Apart up taken ahead) {others : List (σ → σ)}
    (hothers : ∀ f ∈ others, Duplex.Aside up taken ahead f) {s : σ} (hup : up s)
    (htaken : taken s = []) (now timeoutMs : Nat) :
    let (o, s', log) := watch site others (start now timeoutMs) s
    Course (judge (ahead s)) (now + timeoutMs) site.now up taken ahead o log s' ∧
      serveAll site others (.inl (start now timeoutMs), s) = (o, s') ∧
      ∀ P, site.Swift P → ∀ i s, P s → (serve site i s).1.onClient = false := by
  have hstart : Course (judge (ahead s)) (now + timeoutMs) site.now up taken ahead
      (.inl (start now timeoutMs) : Outcome δ) [] s := by
    have hverdict := verdict_handshake (ahead s)
    refine .greeting hup ?_ (congrArg Verdict.outcome hverdict)
    rw [htaken]
    exact congrArg Verdict.told hverdict
  have hbetween : ∀ g ∈ others.map fun f => Prod.map f id,
      ∀ (o : Outcome δ) (s' : σ × List (Incident TunnelError σ)),
        Course (judge (ahead s)) (now + timeoutMs) site.now up taken ahead o s'.2 s'.1 →
        Course (judge (ahead s)) (now + timeoutMs) site.now up taken ahead o (g s').2 (g s').1 := by
    intro g hg o s' hs
    obtain ⟨f, hf, rfl⟩ := List.mem_map.1 hg
    exact hs.others (hothers f hf)
  have hall := (kept_course hclient hapart (judge (ahead s)) (now + timeoutMs)).serveAll hbetween
    (r := (.inl (start now timeoutMs), s, [])) hstart
  have hsame := serveAll_recorded site others (.inl (start now timeoutMs), s, [])
  exact ⟨hall, hsame.symm, fun P h i s hs => onClient_serve h i hs⟩

/-- A client that asks for 1.2.3.4:80 and sends one byte more, of a stream opened at once. -/
theorem served_by_verdict_at_once :
    let ends : Relay.Ends (Pipe × Pipe) :=
      { near := ⟨fun _ s => (.waiting, s), fun _ s => (.waiting, s)⟩
        tunnel := ⟨fun _ s => (.waiting, s), fun _ s => (.waiting, s)⟩
        started := id, ended := id, countUp := fun _ => id, countDown := fun _ => id, abandon := id
        closeTunnel := fun s => (.ready (), s), closeNear := id }
    let site : Site Unit (Pipe × Pipe) :=
      { client := Pipe.crossed, now := fun _ => 0
        opener := { start := fun _ s => ((), s), resume := fun _ s => (.opened 0, s) }
        relayTo := fun _ => ends, warn := fun _ => id }
    let inbound : Pipe :=
      { queue := ByteQueue.empty.push [5, 1, 0, 5, 1, 0, 1, 1, 2, 3, 4, 0, 80, 9], capacity := 99 }
    let s : Pipe × Pipe := (inbound, { capacity := 99 })
    let r := watch site [id] (start 0 handshakeTimeoutMs) s
    (s.2.closed = false ∧ s.2.queue.toList = []) ∧
      Course (judge s.1.queue.toList) handshakeTimeoutMs site.now (·.2.closed = false)
        (·.2.queue.toList) (·.1.queue.toList) r.1 r.2.2 r.2.1 ∧
      (judge s.1.queue.toList).outcome = .ok (.ipv4 1 2 3 4 80, [9]) ∧
      r.2.1.2.queue.toList = [5, 0, 5, 0, 0, 1, 0, 0, 0, 0, 0, 0] ∧ r.2.1.1.queue.toList = [9] := by
  intro ends site inbound s r
  have hsame : Duplex.Aside (fun p : Pipe × Pipe => p.2.closed = false) (·.2.queue.toList)
      (·.1.queue.toList) id := ⟨fun h => h, fun _ => rfl, fun _ => rfl⟩
  have hclient : site.client.Reliable (·.2.closed = false) (·.2.queue.toList)
      (·.1.queue.toList) := Pipe.reliable_crossed.toReliable
  have hothers : ∀ f ∈ [id], Duplex.Aside (fun p : Pipe × Pipe => p.2.closed = false)
      (·.2.queue.toList) (·.1.queue.toList) f :=
    fun f hf => List.mem_singleton.1 hf ▸ hsame
  obtain ⟨hcourse, -⟩ := served_by_verdict hclient ⟨fun _ => hsame, fun _ => hsame, fun _ => hsame⟩
    hothers (s := s) rfl rfl 0 handshakeTimeoutMs
  exact ⟨⟨rfl, rfl⟩, hcourse, rfl, by decide +kernel, by decide +kernel⟩

end SealedTunnel.Ingress
