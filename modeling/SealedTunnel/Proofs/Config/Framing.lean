import SealedTunnel.Proofs.Config.Resolved
import SealedTunnel.Proofs.Conn.Buffers

/-!
# The frames of a checked configuration

A connection that is made from a checked configuration sends only frames that the other end can
read: however its tasks take turns, and whatever the random source gives, a write either fails for
want of random bytes before it has joined the line, or joins it with a frame whose header tells how
many bytes follow, at least one and no more than any such connection accepts. From then on only the
stream, or the draw of the pause behind the frame, can make it fail.

## Main definitions

* `Channel.Sound`: what a write of some data may come to
* `Channel.Counted`: everyone in the line, but for those that close, has a frame that carries data

## Main results

* `Channel.write_begins`: what a write does before any byte is on the stream
* `Channel.Counted.perform`, `Channel.Counted.performAll`: what every step keeps, and what a run
  answers
* `Config.frames_are_readable`: all of it for a checked configuration
-/

namespace SealedTunnel

/-- How long a payload may be depends on the switch of the disguise and on whether there is a
cipher, and on nothing else. -/
theorem Settings.maxFrameLength_congr {a b : Settings}
    (hpadded : a.obfuscation.enabled = b.obfuscation.enabled)
    (hcipher : a.cipher.isSome = b.cipher.isSome) : a.maxFrameLength = b.maxFrameLength := by
  rw [maxFrameLength_eq, maxFrameLength_eq, sealedLength, sealedLength, maxText, maxText, hpadded,
    hcipher]

theorem Settings.length_chunkOf_pos (s : Settings) {data : Bytes} (hd : data ≠ []) :
    1 ≤ (s.chunkOf data).length ∧ (s.chunkOf data).length ≤ maxFramePayload := by
  constructor
  · exact List.length_pos_iff.2 (s.chunkOf_ne_nil hd)
  · exact Nat.le_trans (s.length_chunkOf_le data) s.chunkLimit_le

namespace Channel

variable {τ : Type} {s : Settings} {d : Carrier τ} {ch : Channel τ} {owner : Nat}

/-! ## The beginning of a write -/

/-- **What a write does before any byte is on the stream.** It fails for want of random bytes, and
then nothing has changed; or its task joins the line with a frame whose header tells the length of
what follows, which is at least one and no more than any end accepts that has the same switches. -/
theorem write_begins (ho : s.obfuscation.check = .ok ()) (d : Carrier τ) {data : Bytes}
    (hd : data ≠ []) (hout : ch.writeLine.has owner = false) :
    (∃ pool, ch.write s d owner data = (.failed (.crypto .noEntropy), { ch with pool })) ∨
      ∃ payload loans pool entropy,
        let frame := Bytes.bigEndian Header.size payload.length ++ payload
        let consumed := min data.length s.chunkLimit
        Header.decode (Bytes.bigEndian Header.size payload.length) = .ok payload.length ∧
          1 ≤ payload.length ∧
          (∀ r : Settings, r.obfuscation.enabled = s.obfuscation.enabled →
            r.cipher.isSome = s.cipher.isSome → payload.length ≤ r.maxFrameLength) ∧
          1 ≤ consumed ∧ consumed ≤ maxFramePayload ∧
          ch.write s d owner data =
            (Channel.join owner ⟨frame, consumed, loans⟩ { ch with pool, entropy }).proceed s d
              owner := by
  have hnew : ¬ch.writeLine.has owner = true := by
    rw [hout]
    exact Bool.false_ne_true
  rw [write, if_neg hnew, if_neg (mt List.isEmpty_iff.1 hd)]
  rcases make_eq ho hd ch with ⟨e, pool, hp, hmake⟩ | ⟨payload, entropy, loans, pool, hp, hmake⟩
  · rw [hmake, Settings.eq_noEntropy_of_payload hp]
    exact .inl ⟨pool, rfl⟩
  · have hl := s.length_chunkOf_le data
    have hne := s.chunkOf_ne_nil hd
    obtain ⟨hpos, hmax⟩ := Settings.length_payload ho hne hl hp
    obtain ⟨hsome, hfew⟩ := s.length_chunkOf_pos hd
    have hconsumed : (s.chunkOf data).length = min data.length s.chunkLimit := by
      rw [Settings.chunkOf, List.length_take, Nat.min_comm]
    rw [hconsumed] at hsome hfew hmake
    refine .inr ⟨payload, loans, pool, entropy, ?_, hpos, ?_, hsome, hfew, ?_⟩
    · exact Header.decode_bigEndian (Settings.fits_payload ho hne hl hp)
    · intro r hpadded hcipher
      rw [Settings.maxFrameLength_congr hpadded hcipher]
      exact hmax
    · rw [hmake]
      rfl

/-! ## What writes come to -/

/-- What a write of some data may come to: it has to wait, it has sent between one byte of the data
and as many as a payload holds, or the random source or the stream has failed it. -/
inductive Sound : Poll TunnelError (Nat × Option UInt64) → Prop
  | waiting : Sound .waiting
  | sent {n : Nat} {pause : Option UInt64} (hpos : 1 ≤ n) (hle : n ≤ maxFramePayload) :
      Sound (.ready (n, pause))
  | dry : Sound (.failed (.crypto .noEntropy))
  | broken (e : IoError) : Sound (.failed (.io e))

/-- Everyone in the line has a frame that carries some data, but for those that `closes` names. -/
def Counted (closes : Nat → Prop) (line : WriteLine) : Prop :=
  ∀ turn ∈ line, (1 ≤ turn.consumed ∧ turn.consumed ≤ maxFramePayload) ∨ closes turn.owner

variable {closes : Nat → Prop}

theorem Counted.leave {line : WriteLine} (h : Counted closes line) (owner : Nat) :
    Counted closes (line.leave owner) := by
  intro turn hturn
  exact h turn (List.mem_filter.1 hturn).1

theorem Counted.enter {line : WriteLine} (h : Counted closes line) {owner : Nat} {p : Prepared}
    (hp : (1 ≤ p.consumed ∧ p.consumed ≤ maxFramePayload) ∨ closes owner) :
    Counted closes (line.enter owner p) := by
  intro turn hturn
  rcases List.mem_append.1 hturn with hturn | hturn
  · exact h turn hturn
  · rw [List.mem_singleton.1 hturn]
    exact hp

/-- Going on with a frame keeps the line counted, and comes to what a write may come to. -/
theorem Counted.proceed (h : Counted closes ch.writeLine) (howner : ¬closes owner) :
    Sound (ch.proceed s d owner).1 ∧ Counted closes (ch.proceed s d owner).2.writeLine := by
  by_cases hturn : ∃ turn line, ch.writeLine = turn :: line ∧ turn.owner = owner
  · obtain ⟨turn, line, hline, rfl⟩ := hturn
    have hfirst : 1 ≤ turn.consumed ∧ turn.consumed ≤ maxFramePayload := by
      rcases h turn (hline ▸ List.mem_cons_self) with hcounted | hcloses
      · exact hcounted
      · exact absurd hcloses howner
    rw [Channel.proceed, push_of_turn hline]
    generalize d.emit turn.rest ch.stream = r
    obtain ⟨transfer, stream⟩ := r
    cases transfer with
    | complete bs =>
      dsimp only
      let left := Channel.leave turn.owner { ch with stream }
      cases hpause : s.drawPause turn.consumed left.entropy with
      | error e =>
        rw [Settings.eq_noEntropy_of_drawPause hpause]
        exact ⟨.dry, h.leave _⟩
      | ok r => exact ⟨.sent hfirst.1 hfirst.2, h.leave _⟩
    | partway rest =>
      refine ⟨.waiting, fun other hother => ?_⟩
      rcases List.mem_cons.1 hother with rfl | hother
      · exact .inl hfirst
      · exact h other (hline ▸ .tail _ hother)
    | stopped why =>
      cases why with
      | broken e => exact ⟨.broken e, h.leave _⟩
      | ended got => exact ⟨.broken _, h.leave _⟩
  · have hwaits : ch.push d owner = (.waiting, ch) := by
      refine push_of_not_turn fun turn hholder howns => hturn ?_
      cases hline : ch.writeLine with
      | nil =>
        rw [hline] at hholder
        cases hholder
      | cons first line =>
        rw [hline] at hholder
        obtain rfl := Option.some.inj hholder
        exact ⟨_, line, rfl, howns⟩
    rw [Channel.proceed, hwaits]
    exact ⟨.waiting, h⟩

theorem Counted.write (ho : s.obfuscation.check = .ok ()) (h : Counted closes ch.writeLine)
    (howner : ¬closes owner) (data : Bytes) :
    (data ≠ [] → Sound (ch.write s d owner data).1) ∧
      Counted closes (ch.write s d owner data).2.writeLine := by
  cases hin : ch.writeLine.has owner with
  | true =>
    rw [Channel.write, if_pos hin]
    obtain ⟨hsound, hcounted⟩ := h.proceed (s := s) (d := d) howner
    exact ⟨fun _ => hsound, hcounted⟩
  | false =>
    by_cases hd : data = []
    · subst hd
      rw [Channel.write, hin]
      exact ⟨fun hd => absurd rfl hd, h⟩
    · rcases write_begins ho d hd hin with
        ⟨pool, hfails⟩ | ⟨payload, loans, pool, entropy, -, -, -, hsome, hfew, hjoins⟩
      · rw [hfails]
        exact ⟨fun _ => .dry, h⟩
      · rw [hjoins]
        let frame := Bytes.bigEndian Header.size payload.length ++ payload
        let prepared : Prepared := ⟨frame, min data.length s.chunkLimit, loans⟩
        let joined : Channel τ := Channel.join owner prepared { ch with pool, entropy }
        have hjoined : Counted closes joined.writeLine := h.enter (.inl ⟨hsome, hfew⟩)
        obtain ⟨hsound, hcounted⟩ := hjoined.proceed (s := s) (d := d) howner
        exact ⟨fun _ => hsound, hcounted⟩

theorem Counted.close (h : Counted closes ch.writeLine) (d : Carrier τ) (howner : closes owner) :
    Counted closes (ch.close d owner).2.writeLine := by
  have hlined : Counted closes (ch.lineUp owner).writeLine := by
    unfold Channel.lineUp
    split
    · exact h
    · exact h.enter (.inr howner)
  rw [Channel.close]
  generalize ch.lineUp owner = ch' at hlined
  cases ch'.writeLine.holder? with
  | none => exact hlined
  | some turn =>
    dsimp only
    split
    · generalize d.finish ch'.stream = r
      obtain ⟨outcome, stream⟩ := r
      cases outcome with
      | waiting => exact hlined
      | ready | failed => exact hlined.leave owner
    · exact hlined

theorem writeLine_read (n fuel : Nat) : (ch.read s d fuel owner n).2.writeLine = ch.writeLine := by
  unfold read
  split
  · rfl
  dsimp only
  split
  · rfl
  · split <;> rfl

/-! ## Runs -/

/-- **Every step keeps the line counted**, if those that close do not write; and a write of some
data comes to what it may come to. -/
theorem Counted.perform (ho : s.obfuscation.check = .ok ()) (h : Counted closes ch.writeLine)
    (fuel : Nat) (act : Act) (hwrites : ∀ owner data, act = .write owner data →
      ¬closes owner) (hcloses : ∀ owner, act = .close owner → closes owner) :
    (∀ owner data, act = .write owner data → data ≠ [] →
      ∃ r, (ch.perform s d fuel act).1 = .wrote r ∧ Sound r) ∧
      Counted closes (ch.perform s d fuel act).2.writeLine := by
  cases act with
  | write owner data =>
    obtain ⟨hsound, hcounted⟩ := h.write (d := d) ho (hwrites owner data rfl) data
    refine ⟨fun owner' data' hact hd => ?_, hcounted⟩
    obtain ⟨rfl, rfl⟩ := Act.write.inj hact
    exact ⟨_, rfl, hsound hd⟩
  | read owner room =>
    refine ⟨nofun, ?_⟩
    show Counted closes (ch.read s d fuel owner room).2.writeLine
    rw [writeLine_read]
    exact h
  | close owner => exact ⟨nofun, h.close d (hcloses owner rfl)⟩
  | abandonRead owner => exact ⟨nofun, h⟩
  | abandonWrite owner => exact ⟨nofun, h.leave owner⟩
  | usePool use => exact ⟨nofun, h⟩

/-- The writes of a run come to what they may come to. -/
theorem Counted.performAll (ho : s.obfuscation.check = .ok ()) (fuel : Nat)
    {acts : List Act} (h : Counted closes ch.writeLine)
    (hwrites : ∀ owner data, .write owner data ∈ acts → ¬closes owner)
    (hcloses : ∀ owner, .close owner ∈ acts → closes owner) :
    ∀ owner data answer,
      (.write owner data, answer) ∈ acts.zip (ch.performAll s d fuel acts).1 →
      data ≠ [] → ∃ r, answer = .wrote r ∧ Sound r := by
  -- By induction on the acts: each of them leaves the line counted for the next.
  induction acts generalizing ch with
  | nil => nofun
  | cons act acts ih =>
    obtain ⟨hanswer, hcounted⟩ := h.perform (d := d) ho fuel act
      (fun owner data hact => hwrites owner data (hact ▸ List.mem_cons_self))
      (fun owner hact => hcloses owner (hact ▸ List.mem_cons_self))
    have hrest := ih hcounted (fun owner data hmem => hwrites owner data (.tail _ hmem))
      (fun owner hmem => hcloses owner (.tail _ hmem))
    intro owner data answer hmem hd
    rcases List.mem_cons.1 hmem with hhead | htail
    · obtain ⟨hact, rfl⟩ := Prod.mk.inj hhead
      exact hanswer owner data hact.symm hd
    · exact hrest owner data answer htail hd

end Channel

/-- **A checked configuration never sends a frame that the other end refuses.** Under every profile
its settings can be made, and for every stream, every supply of random bytes and every way in which
tasks take turns: a write of some data fails before it has touched the stream only for want of
random bytes, and leaves everything but the pool as it was; else its frame declares exactly the
bytes behind its header, at least one and no more than any end with the same switches accepts, which
in turn is no more than a header can declare. In any run from an empty line, whatever a write comes
to is a wait, between one and 65535 bytes of the data sent, or a failure of the random source or of
the stream. -/
theorem Config.frames_are_readable {c : Config} (hc : c.validate = .ok ()) (profile : String) :
    ∃ s, c.settings (c.tunables.resolve profile) = .ok s ∧
      (∀ r : Settings, r.maxFrameLength ≤ Header.maxLength) ∧
      (∀ {τ : Type} (d : Carrier τ) (ch : Channel τ) (owner : Nat) (data : Bytes),
        data ≠ [] → ch.writeLine.has owner = false →
        (∃ pool, ch.write s d owner data = (.failed (.crypto .noEntropy), { ch with pool })) ∨
          ∃ payload loans pool entropy,
            let frame := Bytes.bigEndian Header.size payload.length ++ payload
            let consumed := min data.length s.chunkLimit
            Header.decode (Bytes.bigEndian Header.size payload.length) = .ok payload.length ∧
              1 ≤ payload.length ∧
              (∀ r : Settings, r.obfuscation.enabled = s.obfuscation.enabled →
                r.cipher.isSome = s.cipher.isSome → payload.length ≤ r.maxFrameLength) ∧
              1 ≤ consumed ∧ consumed ≤ 65535 ∧
              ch.write s d owner data =
                (Channel.join owner ⟨frame, consumed, loans⟩ { ch with pool, entropy }).proceed s d
                  owner) ∧
      ∀ {τ : Type} (d : Carrier τ) (fuel : Nat) (ch : Channel τ)
        (acts : List Channel.Act), ch.writeLine = [] →
        (∀ owner data, .write owner data ∈ acts → .close owner ∉ acts) →
        ∀ owner data answer,
          (.write owner data, answer) ∈ acts.zip (ch.performAll s d fuel acts).1 →
          data ≠ [] → ∃ r, answer = .wrote r ∧ Channel.Sound r := by
  obtain ⟨s, hs, -, hobfuscation, -, -⟩ := c.settings_eq_ok (c.tunables.resolve profile)
  have ho : s.obfuscation.check = .ok () := by
    rw [hobfuscation]
    exact check_effectiveObfuscation (check_of_validate hc) _
  refine ⟨s, hs, Settings.maxFrameLength_le, ?_, ?_⟩
  · intro τ d ch owner data hd hout
    exact Channel.write_begins ho d hd hout
  · intro τ d fuel ch acts hline happart
    have hempty : Channel.Counted (fun owner => .close owner ∈ acts) ch.writeLine := by
      rw [hline]
      nofun
    exact hempty.performAll ho fuel happart fun owner hmem => hmem

/-- Two writers and one that closes, on a connection of the starting configuration under a profile
that it does not name itself. -/
theorem Config.starter_frames_are_readable :
    let ch : Channel Pipe :=
      { pool := .empty 64 3, entropy := .ofBytes (Bytes.zeros 64), stream := { capacity := 99 } }
    let acts : List Channel.Act := [.write 0 [1, 2, 3], .write 1 [4], .close 2, .write 1 [4]]
    starter.validate = .ok () ∧
      ∃ s, starter.settings (starter.tunables.resolve "latency") = .ok s ∧
        s.maxFrameLength ≤ Header.maxLength ∧
        (∃ r, (ch.write s Pipe.ends 0 [1, 2, 3]).1 = r ∧ Channel.Sound r) ∧
        ∀ answer,
          (.write 1 [4], answer) ∈ acts.zip (ch.performAll s Pipe.ends 9 acts).1 →
          ∃ r, answer = .wrote r ∧ Channel.Sound r := by
  intro ch acts
  have hvalid : starter.validate = .ok () := rfl
  obtain ⟨s, hs, hlimit, -, hruns⟩ := frames_are_readable hvalid "latency"
  have happart : ∀ owner data, Channel.Act.write owner data ∈ acts → .close owner ∉ acts := by
    intro owner data hwrite hclose
    simp only [acts, List.mem_cons, Channel.Act.write.injEq, Channel.Act.close.injEq,
      List.not_mem_nil, reduceCtorEq, false_or, or_false] at hwrite hclose
    omega
  have hrun := hruns Pipe.ends 9 ch acts rfl happart
  refine ⟨hvalid, s, hs, hlimit s, ?_, fun answer hmem => hrun 1 [4] answer hmem (by simp)⟩
  obtain ⟨r, hr, hsound⟩ := hrun 0 [1, 2, 3] _ List.mem_cons_self (by simp)
  exact ⟨r, Channel.Answer.wrote.inj hr, hsound⟩

end SealedTunnel
