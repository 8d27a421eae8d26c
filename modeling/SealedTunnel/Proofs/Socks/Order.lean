import SealedTunnel.Proofs.Loopback.Pipe
import SealedTunnel.Proofs.Stream.Outcome
import SealedTunnel.Socks.Session

/-!
# The order of calls on a session

Whoever holds a session may make its three calls in any order, over any stream, and go on behind
failures. Greeting and request are refused outside of their phase; a reply is not, so a session
relays as soon as success has been told, whatever came before. What a relaying session has agreed on
therefore follows from the order of the calls: if success was only told where the last request gave
an address, that address is its target.

## Main definitions

* `Op`, `Turn`: the calls, and everything that a call can do to a session
* `Run`: calls one after the other, with what came of them
* `lastAsked`, `InOrder`: what the last request gave, and when success may be told

## Main results

* `Op.turn`: a call does to a session one of the things that a turn can be
* `Run.phase_tells`: what each phase of a session tells about it, in any run
* `reply_on_fresh_session`: a session that nobody has greeted relays after a reply
-/

namespace SealedTunnel

namespace Socks

/-! ## Calls -/

/-- The calls that can be made on a session. -/
inductive Op where
  | negotiate
  | readRequest
  | reply (r : Reply)
  deriving DecidableEq

/-- What came of a call: nothing or an address, or an error. -/
abbrev Came := Except ProxyError (Option Address)

/-- The conversation of a call. -/
def Op.talk (s : Session) : Op → Session.Call (Option Address)
  | .negotiate => s.negotiate.map id fun (_, s) => (none, s)
  | .readRequest => s.readRequest.map id fun (address, s) => (some address, s)
  | .reply r => (s.reply r).map id fun (_, s) => (none, s)

/-- The phase that a call insists on. -/
def Op.phase? : Op → Option Phase
  | .negotiate => some .awaitHandshake
  | .readRequest => some .awaitRequest
  | .reply _ => none

/-- What came of a call, without the session. -/
def came : Except (ProxyError × Session) (Option Address × Session) → Came
  | .ok (address, _) => .ok address
  | .error (why, _) => .error why

/-- The session after a call. -/
def after : Except (ProxyError × Session) (Option Address × Session) → Session
  | .ok (_, s) => s
  | .error (_, s) => s

/-- What is said to a call outside of its phase. -/
def outOfPhase (s : Session) (phase : Phase) : ProxyError :=
  .state s!"session in {s.phase.name}, expected {phase.name}"

/-- An error that is no refusal of the call. -/
def Ordinary (e : ProxyError) : Prop :=
  ∀ why, e ≠ .state why

/-- Everything that a call can do to a session. -/
inductive Turn (s : Session) : Op → Came → Session → Prop
  | refused {op : Op} {phase : Phase} (hop : op.phase? = some phase) (h : s.phase ≠ phase) :
      Turn s op (.error (outOfPhase s phase)) s
  | greeted (h : s.phase = .awaitHandshake) :
      Turn s .negotiate (.ok none) { s with negotiated := true, phase := .awaitRequest }
  | notGreeted {e : ProxyError} (h : s.phase = .awaitHandshake) (he : Ordinary e) :
      Turn s .negotiate (.error e) s
  | asked (h : s.phase = .awaitRequest) (address : Address) :
      Turn s .readRequest (.ok (some address))
        { s with command := some .connect, target := some address }
  /-- A request that cannot be met leaves its command behind, if that much was understood. -/
  | notAsked {e : ProxyError} {command : Option Command} (h : s.phase = .awaitRequest)
      (he : Ordinary e)
      (hcommand : command = s.command ∨ command = some .connect ∨
        ∃ b, e = .command b ∧ command = (Command.ofByte b).toOption) :
      Turn s .readRequest (.error e) { s with command := command }
  | replied (r : Reply) :
      Turn s (.reply r) (.ok none) (if r = .succeeded then { s with phase := .relaying } else s)
  | notReplied (r : Reply) (e : IoError) : Turn s (.reply r) (.error (.io e)) s

section Turns

variable {α : Type} {s : Session} {P : Except (ProxyError × Session) (α × Session) → Prop}

theorem ordinary_io (e : IoError) : Ordinary (.io e) := nofun

/-- Reading ensures what holds of every stream failure and of what is done with the bytes. -/
theorem ensures_read {n : Nat} {next : Bytes → Session.Call α}
    (hstop : ∀ e : IoError, P (.error (.io e, s))) (hnext : ∀ bs, (next bs).Ensures P) :
    (s.read n next).Ensures P := by
  refine ⟨fun why => ?_, hnext⟩
  cases why with
  | ended got => exact hstop _
  | broken e => exact hstop e

/-- The same of writing. -/
theorem ensures_send {data : Bytes} {next : Session.Call α}
    (hstop : ∀ e : IoError, P (.error (.io e, s))) (hnext : next.Ensures P) :
    Talk.Ensures P (.send data s.writeStop next) := by
  refine ⟨fun why => ?_, hnext⟩
  cases why with
  | ended got => exact hstop _
  | broken e => exact hstop e

theorem ensures_negotiate (h : s.phase = .awaitHandshake) :
    ((Op.negotiate).talk s).Ensures fun r => Turn s .negotiate (came r) (after r) := by
  rw [Op.talk, Talk.ensures_map, Session.negotiate, Session.expect, if_pos h]
  have hstop : ∀ e : IoError, Turn s .negotiate (.error (.io e)) s :=
    fun e => .notGreeted h (ordinary_io e)
  refine ensures_read hstop fun greeting => ?_
  dsimp only
  split
  · exact .notGreeted h nofun
  · exact ensures_read hstop fun _ => ensures_send hstop (.greeted h)

/-- An address is read, or what is wrong with it is an ordinary error; the session is left as it
was but for the target. -/
theorem ensures_readAddress {P : Except (ProxyError × Session) (Address × Session) → Prop}
    (kind : UInt8) (herror : ∀ e, Ordinary e → P (.error (e, s)))
    (hdone : ∀ target, P (.ok (target, { s with target := some target }))) :
    (s.readAddress kind).Ensures P := by
  have hstop : ∀ e : IoError, P (.error (.io e, s)) := fun e => herror _ (ordinary_io e)
  have hport : ∀ address : UInt16 → Address, (s.readPort address).Ensures P :=
    fun address => ensures_read hstop fun port => hdone _
  unfold Session.readAddress
  split
  · exact ensures_read hstop fun octets => hport _
  split
  · refine ensures_read hstop fun length => ensures_read hstop fun name => ?_
    cases Bytes.toString? name with
    | some name => exact hport _
    | none => exact herror _ nofun
  split
  · exact ensures_read hstop fun octets => hport _
  · exact herror _ nofun

theorem ensures_readRequest (h : s.phase = .awaitRequest) :
    ((Op.readRequest).talk s).Ensures fun r => Turn s .readRequest (came r) (after r) := by
  rw [Op.talk, Talk.ensures_map, Session.readRequest, Session.expect, if_pos h]
  have herror : ∀ e, Ordinary e → Turn s .readRequest (.error e) s :=
    fun e he => .notAsked h he (.inl rfl)
  have hstop : ∀ e : IoError, Turn s .readRequest (.error (.io e)) s :=
    fun e => herror _ (ordinary_io e)
  refine ensures_read hstop fun request => ?_
  dsimp only
  split
  · exact herror _ nofun
  split
  · exact ensures_send hstop (.notAsked h nofun (.inr (.inr ⟨_, rfl, rfl⟩)))
  · refine ensures_readAddress _ (fun e he => ?_) (fun target => .asked h target)
    exact .notAsked h he (.inr (.inl rfl))

theorem ensures_reply (s : Session) (r : Reply) :
    ((Op.reply r).talk s).Ensures fun out => Turn s (.reply r) (came out) (after out) := by
  rw [Op.talk, Talk.ensures_map]
  exact ensures_send (fun e => .notReplied r e) (.replied r)

end Turns

/-- **Outside of its phase a call is refused**: the stream is not touched, and the session stays as
it is. -/
theorem Op.refused {s : Session} {op : Op} {phase : Phase} (hop : op.phase? = some phase)
    (h : s.phase ≠ phase) {σ : Type} (d : Duplex IoError σ) (stream : σ) :
    (op.talk s).advance d stream = (.fail (outOfPhase s phase, s), stream) := by
  cases op with
  | negotiate =>
    obtain rfl := Option.some.inj hop
    rw [talk, Session.negotiate, Session.expect, if_neg h]
    rfl
  | readRequest =>
    obtain rfl := Option.some.inj hop
    rw [talk, Session.readRequest, Session.expect, if_neg h]
    rfl
  | reply r => cases hop

/-- What remains of a refused call is refused, whatever others do to the stream. -/
theorem Op.ensures_refused {s : Session} {op : Op} {phase : Phase} (hop : op.phase? = some phase)
    (h : s.phase ≠ phase) : (op.talk s).Ensures fun r => Turn s op (came r) (after r) := by
  cases op with
  | negotiate =>
    obtain rfl := Option.some.inj hop
    rw [talk, Talk.ensures_map, Session.negotiate, Session.expect, if_neg h]
    exact .refused rfl h
  | readRequest =>
    obtain rfl := Option.some.inj hop
    rw [talk, Talk.ensures_map, Session.readRequest, Session.expect, if_neg h]
    exact .refused rfl h
  | reply r => cases hop

/-- **A call does one of the things that a turn can be**, over any stream. -/
theorem Op.turn (s : Session) (op : Op) {σ : Type} {d : Duplex IoError σ} {stream : σ}
    {r : Except (ProxyError × Session) (Option Address × Session)}
    (h : (op.talk s).Completes d stream r) : Turn s op (came r) (after r) := by
  suffices hall : (op.talk s).Ensures fun r => Turn s op (came r) (after r) from hall.of_completes h
  cases op with
  | negotiate =>
    by_cases hs : s.phase = .awaitHandshake
    · exact ensures_negotiate hs
    · exact Op.ensures_refused rfl hs
  | readRequest =>
    by_cases hs : s.phase = .awaitRequest
    · exact ensures_readRequest hs
    · exact Op.ensures_refused rfl hs
  | reply r => exact ensures_reply s r

/-! ## Runs -/

/-- Calls on a session, one after the other, each over any stream; the last one comes first in the
log. -/
inductive Run (start : Session) : List (Op × Came) → Session → Prop
  | start : Run start [] start
  | call {log : List (Op × Came)} {s : Session} {σ : Type} (op : Op) (d : Duplex IoError σ)
      (stream : σ) {r : Except (ProxyError × Session) (Option Address × Session)}
      (h : Run start log s) (hr : (op.talk s).Completes d stream r) :
      Run start ((op, came r) :: log) (after r)

/-- The address that the last request gave, if it gave one. Requests that were refused do not
count. -/
def lastAsked : List (Op × Came) → Option Address
  | [] => none
  | (.readRequest, .ok address) :: _ => address
  | (.readRequest, .error (.state _)) :: log => lastAsked log
  | (.readRequest, .error _) :: _ => none
  | (.negotiate, _) :: log | (.reply _, _) :: log => lastAsked log

/-- Success was told only where the last request had given an address. -/
def InOrder : List (Op × Came) → Prop
  | [] => True
  | (.reply .succeeded, .ok _) :: log => (lastAsked log).isSome ∧ InOrder log
  | _ :: log => InOrder log

/-- How far a phase is. -/
def Phase.rank : Phase → Nat
  | .awaitHandshake => 0
  | .awaitRequest => 1
  | .relaying => 2

section Runs

variable {start s s' : Session} {log : List (Op × Came)} {op : Op} {c : Came}

theorem Turn.rank_le (h : Turn s op c s') : s.phase.rank ≤ s'.phase.rank := by
  cases h with
  | greeted h =>
    rw [h]
    exact Nat.zero_le _
  | replied r =>
    split
    · cases s.phase with
      | awaitHandshake | awaitRequest | relaying => simp [Phase.rank]
    · exact Nat.le_refl _
  | refused | notGreeted | asked | notAsked | notReplied => exact Nat.le_refl _

/-- **A session never goes back.** -/
theorem Run.rank_le (h : Run start log s) : start.phase.rank ≤ s.phase.rank := by
  induction h with
  | start => exact Nat.le_refl _
  | call op d stream _ hr ih => exact Nat.le_trans ih (Op.turn _ _ hr).rank_le

/-- What is known of a session after the calls in the log. -/
structure Known (log : List (Op × Came)) (s : Session) : Prop where
  fresh : s.phase = .awaitHandshake → s = {}
  greeted : s.phase = .awaitRequest → s.negotiated = true
  asked : ∀ address, lastAsked log = some address →
    s.negotiated = true ∧ s.target = some address ∧ s.command = some .connect
  relaying : s.phase = .relaying → InOrder log → (lastAsked log).isSome

theorem lastAsked_notAsked {e : ProxyError} (he : Ordinary e) :
    lastAsked ((.readRequest, .error e) :: log) = none := by
  cases e with
  | state why => exact absurd rfl (he why)
  | _ => rfl

/-- One more call keeps what is known. -/
theorem Known.turn (h : Known log s) (ht : Turn s op c s') : Known ((op, c) :: log) s' := by
  cases ht with
  | @refused op phase hop hs =>
    cases op with
    | negotiate => exact ⟨h.fresh, h.greeted, h.asked, h.relaying⟩
    | readRequest => exact ⟨h.fresh, h.greeted, h.asked, h.relaying⟩
    | reply r => cases hop
  | greeted hs =>
    have hfresh := h.fresh hs
    refine ⟨nofun, fun _ => rfl, ?_, nofun⟩
    intro address haddress
    have htarget := (h.asked address haddress).2.1
    rw [hfresh] at htarget
    cases htarget
  | notGreeted hs he => exact ⟨h.fresh, h.greeted, h.asked, h.relaying⟩
  | asked hs address =>
    have hgreeted := h.greeted hs
    refine ⟨fun hp => ?_, fun _ => hgreeted, ?_, fun _ _ => rfl⟩
    · rw [hs] at hp
      cases hp
    · intro address' haddress
      obtain rfl := Option.some.inj haddress
      exact ⟨hgreeted, rfl, rfl⟩
  | @notAsked e command hs he hcommand =>
    have hgreeted := h.greeted hs
    refine ⟨fun hp => ?_, fun _ => hgreeted, ?_, fun hp => ?_⟩
    · rw [hs] at hp
      cases hp
    · intro address haddress
      rw [lastAsked_notAsked he] at haddress
      cases haddress
    · rw [hs] at hp
      cases hp
  | replied r =>
    by_cases hr : r = .succeeded
    · subst hr
      exact ⟨nofun, nofun, h.asked, fun _ horder => horder.1⟩
    · rw [if_neg hr]
      refine ⟨h.fresh, h.greeted, h.asked, fun hp horder => h.relaying hp ?_⟩
      cases r with
      | succeeded => exact absurd rfl hr
      | hostUnreachable | commandNotSupported => exact horder
  | notReplied r e =>
    refine ⟨h.fresh, h.greeted, h.asked, fun hp horder => h.relaying hp ?_⟩
    cases r <;> exact horder

theorem Run.known (h : Run {} log s) : Known log s := by
  induction h with
  | start => exact ⟨fun _ => rfl, nofun, nofun, nofun⟩
  | call op d stream _ hr ih => exact ih.turn (Op.turn _ _ hr)

end Runs

/-- **What the order of the calls is worth.** In any run of a fresh session, whichever calls are
made over whichever streams and however they fail: before the greeting nothing is agreed on, a
session that awaits a request has been greeted, no phase is left for an earlier one, and a greeting
or a request outside of its phase is refused without touching the stream or the session. A reply is
refused in no phase, so what a relaying session has agreed on depends on when success was told:
where it was told only behind a request that gave an address, the session has been greeted and
relays to that address. -/
theorem Run.phase_tells {log : List (Op × Came)} {s : Session} (h : Run {} log s) :
    (s.phase = .awaitHandshake →
      s.negotiated = false ∧ s.target = none ∧ s.command = none) ∧
    (s.phase = .awaitRequest → s.negotiated = true) ∧
    (s.phase = .relaying → InOrder log → s.negotiated = true ∧ s.command = some .connect ∧
      ∃ address, lastAsked log = some address ∧ s.target = some address) ∧
    (∀ more s', Run s more s' → s.phase.rank ≤ s'.phase.rank) ∧
    (∀ (op : Op) (phase : Phase), op.phase? = some phase → s.phase ≠ phase →
      ∀ {σ : Type} (d : Duplex IoError σ) (stream : σ),
        (op.talk s).advance d stream = (.fail (outOfPhase s phase, s), stream)) ∧
    ∀ reply {σ : Type} (d : Duplex IoError σ) (stream : σ) out,
      ((Op.reply reply).talk s).Completes d stream out →
        (∃ e, came out = .error (.io e) ∧ after out = s) ∨
          came out = .ok none ∧
            after out = if reply = .succeeded then { s with phase := .relaying } else s := by
  have hknown := h.known
  refine ⟨?_, hknown.greeted, ?_, fun more s' hmore => hmore.rank_le, ?_, ?_⟩
  · intro hphase
    rw [hknown.fresh hphase]
    exact ⟨rfl, rfl, rfl⟩
  · intro hphase horder
    obtain ⟨address, hlast⟩ := Option.isSome_iff_exists.1 (hknown.relaying hphase horder)
    obtain ⟨hgreeted, htarget, hcommand⟩ := hknown.asked address hlast
    exact ⟨hgreeted, hcommand, address, hlast, htarget⟩
  · intro op phase hop hs σ d stream
    exact Op.refused hop hs d stream
  · intro reply σ d stream out hout
    have hturn := Op.turn s (.reply reply) hout
    generalize came out = c at hturn
    generalize after out = s' at hturn
    cases hturn with
    | refused hop => cases hop
    | replied r => exact .inr ⟨rfl, rfl⟩
    | notReplied r e => exact .inl ⟨e, rfl, rfl⟩

/-- A greeting, a request for 127.0.0.1:80 and the reply to it. -/
theorem Run.phase_tells_of_handshake :
    let s : Session :=
      { phase := .relaying, negotiated := true, target := some (.ipv4 127 0 0 1 80)
        command := some .connect }
    let log : List (Op × Came) :=
      [(.reply .succeeded, .ok none), (.readRequest, .ok (some (.ipv4 127 0 0 1 80))),
        (.negotiate, .ok none)]
    Run {} log s ∧ InOrder log ∧
      (∃ address, lastAsked log = some address ∧ s.target = some address) ∧
      ∀ more s', Run s more s' → s'.phase = .relaying := by
  intro s log
  let client (bs : Bytes) : Pipe × Pipe :=
    ({ queue := ByteQueue.empty.push bs, capacity := 64 }, { capacity := 64 })
  have hfresh : Run {} [] {} := .start
  have hgreeting := hfresh.call .negotiate Pipe.crossed (client [5, 1, 0])
    (r := .ok (none, { phase := .awaitRequest, negotiated := true }))
    (Talk.Completes.of_run (by with_unfolding_all rfl))
  have hrequest := hgreeting.call .readRequest Pipe.crossed
    (client [5, 1, 0, 1, 127, 0, 0, 1, 0, 80])
    (r := .ok (some (.ipv4 127 0 0 1 80),
      { phase := .awaitRequest, negotiated := true, target := some (.ipv4 127 0 0 1 80)
        command := some .connect }))
    (Talk.Completes.of_run (by with_unfolding_all rfl))
  have hrun : Run {} log s := hrequest.call (.reply .succeeded) Pipe.crossed (client [])
    (r := .ok (none, s)) (Talk.Completes.of_run (by with_unfolding_all rfl))
  have horder : InOrder log := ⟨rfl, trivial⟩
  obtain ⟨-, -, hrelaying, hrank, -⟩ := Run.phase_tells hrun
  obtain ⟨-, -, hlast⟩ := hrelaying rfl horder
  refine ⟨hrun, horder, hlast, fun more s' hmore => ?_⟩
  have hle := hrank more s' hmore
  cases hs' : s'.phase with
  | relaying => rfl
  | awaitHandshake | awaitRequest =>
    rw [hs'] at hle
    exact absurd hle (by decide)

/-- **A session that nobody has greeted relays after a reply**: the ten bytes of the answer are
written, and neither a target nor a command is known. After a request for another command, which is
refused, a reply has the session relay with that command and no target. -/
theorem reply_on_fresh_session :
    let client (bs : Bytes) : Pipe × Pipe :=
      ({ queue := ByteQueue.empty.push bs, capacity := 64 }, { capacity := 64 })
    let answered := ((Op.reply .succeeded).talk {}).run Pipe.crossed (client [])
    answered.1 = some (.ok (none, { phase := .relaying })) ∧
      answered.2.2.queue.toList = [5, 0, 0, 1, 0, 0, 0, 0, 0, 0] ∧
      Run {} [(.reply .succeeded, .ok none)] { phase := .relaying } ∧
      Run {} [(.reply .succeeded, .ok none), (.readRequest, .error (.command 2)),
          (.negotiate, .ok none)]
        { phase := .relaying, negotiated := true, command := some .bind } := by
  intro client answered
  have hanswered :
      (((Op.reply .succeeded).talk {}).run Pipe.crossed (client [])).1 =
        some (.ok (none, { phase := .relaying })) := by with_unfolding_all rfl
  have hfresh : Run {} [] {} := .start
  have hgreeting := hfresh.call .negotiate Pipe.crossed (client [5, 1, 0])
    (r := .ok (none, { phase := .awaitRequest, negotiated := true }))
    (Talk.Completes.of_run (by with_unfolding_all rfl))
  have hrequest := hgreeting.call .readRequest Pipe.crossed (client [5, 2, 0, 1])
    (r := .error (.command 2,
      { phase := .awaitRequest, negotiated := true, command := some .bind }))
    (Talk.Completes.of_run (by with_unfolding_all rfl))
  have hreply := hrequest.call (.reply .succeeded) Pipe.crossed (client [])
    (r := .ok (none, { phase := .relaying, negotiated := true, command := some .bind }))
    (Talk.Completes.of_run (by with_unfolding_all rfl))
  exact ⟨hanswered, by decide +kernel,
    hfresh.call (.reply .succeeded) Pipe.crossed.toDuplex (client [])
      (Talk.Completes.of_run hanswered),
    hreply⟩

end Socks

end SealedTunnel
