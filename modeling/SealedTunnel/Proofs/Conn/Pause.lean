import SealedTunnel.Conn.Channel
import SealedTunnel.Proofs.Obfuscation.Jitter

/-!
# The pause after a write

A write makes a frame, puts it on the stream and draws the pause after it. The pause is drawn for
the number of bytes of the data that the frame carries, whatever the frame became on its way:
compressed, padded, sealed. What making the frame uses of the random bytes does not bear on the
pause, and so each of the delays for that number may follow the very same frame.

## Main definitions

* `WriteLine.amountsOf`: how much data the frames of a task in the line carry
* `Channel.Writes`: how a write ends that is polled until it does

## Main results

* `Settings.frugal_prepare`: what a frame uses of the random bytes
* `Channel.sends_write`: one poll of a write
* `Channel.write_again`: the same write with another pause
* `Channel.pauses_for_its_data`: which delays occur, and after which writes
-/

namespace SealedTunnel

/-! ## What a frame uses of its supply -/

namespace Padding

theorem frugal_encodeInto (data : Bytes) (o : Obfuscation) (scratch : Bytes) :
    (encodeInto data o scratch).Frugal := by
  unfold encodeInto
  split
  · exact .bind (.throw _) fun _ =>
      .bind (plain_drawLength o).frugal.forTunnel fun _ =>
        .bind (plain_fill ..).frugal.forTunnel fun _ => .pure _
  · exact .bind (plain_drawLength o).frugal.forTunnel fun _ =>
      .bind (plain_fill ..).frugal.forTunnel fun _ => .pure _

end Padding

theorem Cipher.frugal_sealInto (c : Cipher) (plain out : Bytes) :
    (c.sealInto plain out).Frugal := by
  by_cases hlength : out.length = sealedLength plain.length
  · rw [c.sealInto_eq plain hlength]
    exact .bind (.bytes _) fun _ => .pure _
  · intro e sealedText e' h
    rw [sealInto, sealOver, if_pos hlength] at h
    cases h

/-- What gives buffers back draws what it would draw without them. -/
theorem Draw.Frugal.orGiveBack {α : Type} {m : Draw TunnelError α} (hm : m.Frugal)
    {loans : List Buffer} {pool : Pool} : (m.orGiveBack loans pool).Frugal := by
  intro e a e' h
  obtain ⟨used, hused⟩ := hm e a e' (orGiveBack_eq_ok.1 h)
  refine ⟨used, fun f more hf => ?_⟩
  obtain ⟨f', hf', hmore⟩ := hused f more hf
  exact ⟨f', orGiveBack_eq_ok.2 hf', hmore⟩

namespace Settings

variable {s : Settings}

theorem frugal_frameInto (plain scratch : Bytes) : (s.frameInto plain scratch).Frugal := by
  have hsealed (place : Bytes) : (s.sealedInto plain place).Frugal := by
    unfold sealedInto
    split
    · exact (Cipher.frugal_sealInto _ plain place).forTunnel
    · exact .pure _
  unfold frameInto
  exact .bind (.lift _) fun header => .bind (hsealed _) fun _ => .pure _

/-- **What making a frame uses of the random bytes**: some bytes in front, whatever is behind. -/
theorem frugal_prepare (data : Bytes) (pool : Pool) : (s.prepare data pool).Frugal := by
  have hpadded (body scratch : Bytes) : (s.paddedInto body scratch).Frugal := by
    unfold paddedInto
    split
    · exact Padding.frugal_encodeInto _ _ _
    · exact .pure _
  unfold prepare
  exact .bind (Draw.Frugal.lift _).orGiveBack fun body =>
    .bind (hpadded _ _).orGiveBack fun padded =>
      .bind (frugal_frameInto _ _).orGiveBack fun _ => .pure _

theorem consumed_of_prepare {data : Bytes} {pool pool' : Pool} {e e' : Entropy} {p : Prepared}
    (h : s.prepare data pool e = .ok ((p, pool'), e')) :
    p.consumed = min data.length s.chunkLimit := by
  unfold prepare at h
  obtain ⟨body, e₁, -, h⟩ := Draw.bind_eq_ok.1 h
  obtain ⟨padded, e₂, -, h⟩ := Draw.bind_eq_ok.1 h
  obtain ⟨frame, e₃, -, h⟩ := Draw.bind_eq_ok.1 h
  obtain ⟨hp, -⟩ := Prod.mk.inj (Except.ok.inj h)
  obtain ⟨rfl, -⟩ := Prod.mk.inj hp
  show (data.take s.chunkLimit).length = _
  rw [List.length_take, Nat.min_comm]

theorem frugal_drawPause (length : Nat) : (s.drawPause length).Frugal := by
  unfold drawPause
  split
  · exact (plain_drawDelay _ length).frugal.forTunnel
  · exact .pure none

/-- The pauses of a connection are the delays of its disguise. -/
theorem exists_drawPause_iff {length : Nat} {pause : Option UInt64} :
    (∃ e e', s.drawPause length e = .ok (pause, e')) ↔
      Jitter.Occurs s.obfuscation length pause := by
  unfold drawPause
  split
  · simp only [Draw.forTunnel_eq_ok]
    rfl
  · rename_i hoff
    rw [Jitter.occurs_of_still (.inl (by simpa using hoff))]
    constructor
    · rintro ⟨e, e', h⟩
      exact (Prod.mk.inj (Except.ok.inj h)).1.symm
    · rintro rfl
      exact ⟨.ofBytes [], .ofBytes [], rfl⟩

end Settings

/-! ## The line -/

namespace WriteLine

variable {line : WriteLine} {owner : Nat}

/-- How much of their data the frames of a task in the line carry. -/
def amountsOf (line : WriteLine) (owner : Nat) : List Nat :=
  (line.filter (·.owner = owner)).map (·.consumed)

theorem amountsOf_enter (line : WriteLine) (owner : Nat) (p : Prepared) :
    (line.enter owner p).amountsOf owner = line.amountsOf owner ++ [p.consumed] := by
  simp [amountsOf, enter]

theorem amountsOf_push (rest : Bytes) (line : WriteLine) (owner : Nat) :
    (line.push rest).amountsOf owner = line.amountsOf owner := by
  cases line with
  | nil => rfl
  | cons turn line =>
    by_cases h : turn.owner = owner <;> simp [amountsOf, push, h]

theorem amountsOf_eq_nil_iff : line.amountsOf owner = [] ↔ line.has owner = false := by
  simp [amountsOf, has, List.filter_eq_nil_iff]

theorem consumed_mem_amountsOf {turn : Turn} (h : line.holder? = some turn) :
    turn.consumed ∈ line.amountsOf turn.owner := by
  cases line with
  | nil => cases h
  | cons first line =>
    obtain rfl := Option.some.inj h
    simp [amountsOf]

end WriteLine

namespace Channel

variable {τ : Type} {s : Settings} {d : Carrier τ} {owner n k : Nat} {data : Bytes}
  {pause pause' : Option UInt64} {ch ch' ch'' : Channel τ}

/-! ## One poll -/

/-- A push does not look at the random bytes. -/
theorem push_entropy (entropy : Entropy) (ch : Channel τ) :
    push d owner { ch with entropy } =
      ((ch.push d owner).1, { (ch.push d owner).2 with entropy }) := by
  unfold push
  dsimp only
  cases ch.writeLine.holder? with
  | none => rfl
  | some turn =>
    dsimp only
    split
    · rfl
    · rcases d.emit turn.rest ch.stream with ⟨_ | _ | why, stream⟩
      · rfl
      · rfl
      · cases why <;> rfl

/-- A task whose frame is out knows how much of its data that frame carried. -/
theorem mem_amountsOf_of_push (h : ch.push d owner = (.ready n, ch')) :
    n ∈ ch.writeLine.amountsOf owner := by
  unfold push at h
  split at h
  · cases h
  · rename_i turn hholder
    split at h
    · cases h
    · rename_i howner
      obtain rfl := Decidable.not_not.1 howner
      split at h
      · cases h
      · cases h
      · cases h
      · cases h
        exact WriteLine.consumed_mem_amountsOf hholder

/-- A task that waits keeps its place. -/
theorem amountsOf_of_push (h : ch.push d owner = (.waiting, ch')) :
    ch'.writeLine.amountsOf owner = ch.writeLine.amountsOf owner := by
  unfold push at h
  split at h
  · cases h
    rfl
  · split at h
    · cases h
      rfl
    · split at h <;> cases h
      exact WriteLine.amountsOf_push ..

theorem proceed_eq_ready_iff :
    ch.proceed s d owner = (.ready (n, pause), ch') ↔
      ∃ out entropy, ch.push d owner = (.ready n, out) ∧
        s.drawPause n out.entropy = .ok (pause, entropy) ∧ ch' = { out with entropy } := by
  rw [proceed]
  constructor
  · intro h
    split at h
    · rename_i m out hpush
      split at h
      · cases h
      · rename_i hpause
        cases h
        exact ⟨out, _, hpush, hpause, rfl⟩
    · cases h
    · cases h
  · rintro ⟨out, entropy, hpush, hpause, rfl⟩
    rw [hpush]
    dsimp only
    rw [hpause]

theorem proceed_eq_waiting_iff :
    ch.proceed s d owner = (.waiting, ch') ↔ ch.push d owner = (.waiting, ch') := by
  rw [proceed]
  rcases ch.push d owner with ⟨_ | _ | _, out⟩
  · dsimp only
    split <;> exact iff_of_false nofun nofun
  · exact iff_of_false nofun nofun
  · constructor <;> (intro h; cases h; rfl)

/-- The task is to send `k` bytes of data: its frame in the line carries them, or the next one
will. -/
def Sends (s : Settings) (owner : Nat) (data : Bytes) (k : Nat) (ch : Channel τ) : Prop :=
  ch.writeLine.amountsOf owner = [k] ∨
    ch.writeLine.amountsOf owner = [] ∧ k = min data.length s.chunkLimit

/-- A task that does not leave the line is still to send what it was to send. -/
theorem sends_proceed (h : ch.writeLine.amountsOf owner = [k]) :
    (∀ n pause, ch.proceed s d owner = (.ready (n, pause), ch') →
        n = k ∧ Jitter.Occurs s.obfuscation n pause) ∧
      (ch.proceed s d owner = (.waiting, ch') → ch'.writeLine.amountsOf owner = [k]) := by
  constructor
  · intro n pause hready
    obtain ⟨out, entropy, hpush, hpause, -⟩ := proceed_eq_ready_iff.1 hready
    have hmem := mem_amountsOf_of_push hpush
    rw [h] at hmem
    exact ⟨List.mem_singleton.1 hmem, Settings.exists_drawPause_iff.1 ⟨_, _, hpause⟩⟩
  · intro hwaiting
    rw [amountsOf_of_push (proceed_eq_waiting_iff.1 hwaiting), h]

/-- The three ways of a write: it goes on, there is nothing to do, or a frame joins the line. -/
theorem write_cases (s : Settings) (d : Carrier τ) (owner : Nat) (data : Bytes)
    (ch : Channel τ) :
    (ch.writeLine.has owner = true ∧ ch.write s d owner data = ch.proceed s d owner) ∨
      (ch.writeLine.has owner = false ∧ data = [] ∧
        ch.write s d owner data = (.ready (0, none), ch)) ∨
      (ch.writeLine.has owner = false ∧ data ≠ [] ∧
        ((∃ unmade, s.prepare data ch.pool ch.entropy = .error unmade ∧
            ch.write s d owner data =
              (.failed unmade.error, { ch with pool := unmade.pool })) ∨
          ∃ p pool entropy, s.prepare data ch.pool ch.entropy = .ok ((p, pool), entropy) ∧
            ch.write s d owner data =
              (join owner p { ch with pool, entropy }).proceed s d owner)) := by
  cases hin : ch.writeLine.has owner with
  | true => exact .inl ⟨rfl, by rw [write, if_pos hin]⟩
  | false =>
    have hnew : ¬ch.writeLine.has owner = true := by
      rw [hin]
      exact Bool.false_ne_true
    rw [write, if_neg hnew]
    by_cases hd : data = []
    · exact .inr (.inl ⟨rfl, hd, by rw [hd]; rfl⟩)
    · rw [if_neg (mt List.isEmpty_iff.1 hd), make]
      refine .inr (.inr ⟨rfl, hd, ?_⟩)
      cases hprepare : s.prepare data ch.pool ch.entropy with
      | error e => exact .inl ⟨e, rfl, rfl⟩
      | ok r => exact .inr ⟨r.1.1, r.1.2, r.2, rfl, rfl⟩

/-- **One poll of a write**: when it is done, what it says it has written is what it was to send,
and the pause is a delay for that. -/
theorem sends_write (h : Sends s owner data k ch) :
    (∀ n pause, ch.write s d owner data = (.ready (n, pause), ch') →
        n = k ∧ Jitter.Occurs s.obfuscation n pause) ∧
      (ch.write s d owner data = (.waiting, ch') → Sends s owner data k ch') := by
  have hfirst (hout : ch.writeLine.has owner = false) : k = min data.length s.chunkLimit := by
    rcases h with hone | ⟨-, hk⟩
    · rw [WriteLine.amountsOf_eq_nil_iff.2 hout] at hone
      cases hone
    · exact hk
  rcases write_cases s d owner data ch with
    ⟨hin, hwrite⟩ | ⟨hout, rfl, hwrite⟩ | ⟨hout, -, hmade⟩
  · have hone : ch.writeLine.amountsOf owner = [k] := by
      refine h.resolve_right fun hnone => ?_
      rw [WriteLine.amountsOf_eq_nil_iff.1 hnone.1] at hin
      cases hin
    obtain ⟨hready, hwaiting⟩ := sends_proceed (d := d) hone
    rw [hwrite]
    exact ⟨hready, fun h => .inl (hwaiting h)⟩
  · have hk : k = 0 := (hfirst hout).trans (Nat.zero_min _)
    rw [hwrite]
    refine ⟨fun n pause hready => ?_, nofun⟩
    cases hready
    exact ⟨hk.symm, (Jitter.occurs_of_still (.inr (.inr (Nat.zero_le _)))).2 rfl⟩
  · rcases hmade with ⟨e, -, hwrite⟩ | ⟨p, pool, entropy, hprepare, hwrite⟩
    · rw [hwrite]
      exact ⟨nofun, nofun⟩
    · have hjoined : (join owner p { ch with pool, entropy }).writeLine.amountsOf owner = [k] := by
        show (ch.writeLine.enter owner p).amountsOf owner = [k]
        rw [WriteLine.amountsOf_enter, WriteLine.amountsOf_eq_nil_iff.2 hout,
          Settings.consumed_of_prepare hprepare, ← hfirst hout, List.nil_append]
      obtain ⟨hready, hwaiting⟩ := sends_proceed (d := d) hjoined
      rw [hwrite]
      exact ⟨hready, fun h => .inl (hwaiting h)⟩

/-- Whatever else happens in the line, a write that is done has drawn a delay for what it has
written. -/
theorem occurs_of_write (h : ch.write s d owner data = (.ready (n, pause), ch')) :
    Jitter.Occurs s.obfuscation n pause := by
  have hdrawn {ch : Channel τ} (h : ch.proceed s d owner = (.ready (n, pause), ch')) :
      Jitter.Occurs s.obfuscation n pause := by
    obtain ⟨out, entropy, -, hpause, -⟩ := proceed_eq_ready_iff.1 h
    exact Settings.exists_drawPause_iff.1 ⟨_, _, hpause⟩
  rcases write_cases s d owner data ch with
    ⟨-, hwrite⟩ | ⟨-, rfl, hwrite⟩ | ⟨-, -, ⟨e, -, hwrite⟩ | ⟨p, pool, entropy, -, hwrite⟩⟩
  · exact hdrawn (hwrite.symm.trans h)
  · cases hwrite.symm.trans h
    exact (Jitter.occurs_of_still (.inr (.inr (Nat.zero_le _)))).2 rfl
  · cases hwrite.symm.trans h
  · exact hdrawn (hwrite.symm.trans h)

/-- **The same write with another pause**: other random bytes make the same frame and put the same
bytes on the stream, and any of the delays for what it carries comes after it. -/
theorem write_again (h : ch.write s d owner data = (.ready (n, pause), ch'))
    (hoccurs : Jitter.Occurs s.obfuscation n pause') :
    ∃ entropy entropy', write s d owner data { ch with entropy } =
      (.ready (n, pause'), { ch' with entropy := entropy' }) := by
  obtain ⟨e, e', hdrawn⟩ := Settings.exists_drawPause_iff.2 hoccurs
  rcases write_cases s d owner data ch with
    ⟨hin, hwrite⟩ | ⟨hout, rfl, hwrite⟩ | ⟨hout, hd, ⟨err, -, hwrite⟩ | hmade⟩
  · obtain ⟨out, entropy, hpush, -, rfl⟩ := proceed_eq_ready_iff.1 (hwrite.symm.trans h)
    refine ⟨e, e', ?_⟩
    rw [write, if_pos hin]
    refine proceed_eq_ready_iff.2 ⟨{ out with entropy := e }, e', ?_, hdrawn, rfl⟩
    rw [push_entropy, hpush]
  · cases hwrite.symm.trans h
    obtain rfl := (Jitter.occurs_of_still (.inr (.inr (Nat.zero_le _)))).1 hoccurs
    exact ⟨ch.entropy, ch.entropy, hwrite⟩
  · cases hwrite.symm.trans h
  · obtain ⟨p, pool, entropy, hprepare, hwrite⟩ := hmade
    obtain ⟨out, entropy', hpush, -, rfl⟩ := proceed_eq_ready_iff.1 (hwrite.symm.trans h)
    obtain ⟨forFrame, hframe⟩ := Settings.frugal_prepare data ch.pool _ _ _ hprepare
    obtain ⟨forPause, hpause⟩ := Settings.frugal_drawPause n _ _ _ hdrawn
    obtain ⟨f, hf, hleft⟩ := hframe _ _ (Entropy.holds_ofBytes (forFrame ++ (forPause ++ [])))
    obtain ⟨f', hf', -⟩ := hpause f [] hleft
    refine ⟨.ofBytes (forFrame ++ (forPause ++ [])), f', ?_⟩
    rcases write_cases s d owner data { ch with entropy := .ofBytes (forFrame ++ (forPause ++ [])) }
      with ⟨hin, -⟩ | ⟨-, hnil, -⟩ | ⟨-, -, ⟨err, hfails, -⟩ | hmade⟩
    · cases hout.symm.trans hin
    · exact absurd hnil hd
    · cases hf.symm.trans hfails
    · obtain ⟨p', pool', entropy'', hprepare', hwrite'⟩ := hmade
      cases hf.symm.trans hprepare'
      refine hwrite'.trans (proceed_eq_ready_iff.2 ⟨{ out with entropy := f }, f', ?_, hf', rfl⟩)
      rw [show join owner p { ch with pool, entropy := f } =
        { join owner p { ch with pool, entropy } with entropy := f } from rfl, push_entropy, hpush]

/-! ## A whole write -/

/-- **How a write ends** that is polled until it does. Between its polls the others may do anything
to the connection, except to the place of this task in the line. -/
inductive Writes (s : Settings) (d : Carrier τ) (owner : Nat) (data : Bytes) :
    Channel τ → Nat × Option UInt64 → Prop
  | now {ch ch' : Channel τ} {r : Nat × Option UInt64}
      (h : ch.write s d owner data = (.ready r, ch')) : Writes s d owner data ch r
  | later {ch ch' ch'' : Channel τ} {r : Nat × Option UInt64}
      (h : ch.write s d owner data = (.waiting, ch'))
      (hkept : ch''.writeLine.amountsOf owner = ch'.writeLine.amountsOf owner)
      (hrest : Writes s d owner data ch'' r) : Writes s d owner data ch r

/-- However often it is polled, a write ends with what it was to send, and with a delay for that. -/
theorem Writes.sends {r : Nat × Option UInt64} (h : Writes s d owner data ch r)
    (hch : Sends s owner data k ch) : r.1 = k ∧ Jitter.Occurs s.obfuscation r.1 r.2 := by
  induction h with
  | now h => exact (sends_write hch).1 _ _ h
  | later h hkept _ ih =>
    refine ih ?_
    rw [Sends, hkept]
    exact (sends_write hch).2 h

/-- **The delays that occur, and after which writes.** For bounds below `2 ^ 63`, the lower of which
counts for no more than the upper one, all whole milliseconds between them occur, from one on, and
no delay just if they begin at zero; nothing is drawn without disguise, with an upper bound of zero,
or for at most 128 bytes. A write has a delay for the number of bytes of its data that it has
written, and any of these may follow the same frame. -/
theorem pauses_for_its_data (o : Obfuscation) (hrange : o.maxDelayMs.toNat < 2 ^ 63) :
    (∀ length, o.enabled = false ∨ o.maxDelayMs = 0 ∨ length ≤ 128 →
      ∀ e, Jitter.drawDelay o length e = .ok (none, e)) ∧
    (∀ length, o.enabled = true → o.maxDelayMs ≠ 0 → 128 < length →
      let m := min o.minDelayMs.toNat o.maxDelayMs.toNat
      (∀ ms : UInt64, Jitter.Occurs o length (some ms) ↔
        max 1 m ≤ ms.toNat ∧ ms.toNat ≤ o.maxDelayMs.toNat) ∧
      (Jitter.Occurs o length none ↔ m = 0)) ∧
    ∀ (τ : Type) (s : Settings) (d : Carrier τ) (owner : Nat) (data : Bytes)
      (ch : Channel τ), s.obfuscation = o →
      (ch.writeLine.has owner = false → ∀ n pause, ch.Writes s d owner data (n, pause) →
        n = min data.length s.chunkLimit ∧ Jitter.Occurs o n pause) ∧
      ∀ n pause ch', ch.write s d owner data = (.ready (n, pause), ch') →
        ∀ pause', Jitter.Occurs o n pause' ↔ ∃ entropy entropy',
          write s d owner data { ch with entropy } =
            (.ready (n, pause'), { ch' with entropy := entropy' }) := by
  refine ⟨?_, ?_, ?_⟩
  · intro length hstill e
    rw [Jitter.drawDelay_of_still hstill]
    rfl
  · intro length henabled hmax hlong
    have hmoves : ¬Jitter.Still o length := by
      rintro (h | h | h)
      · rw [henabled] at h
        cases h
      · exact hmax h
      · exact absurd h (Nat.not_le.2 hlong)
    have hpart : ¬o.WholeRange := by
      rintro ⟨-, hall⟩
      rw [hall] at hrange
      exact absurd hrange (by decide)
    exact ⟨fun ms => Jitter.occurs_some_iff hmoves hpart, Jitter.occurs_none_iff hmoves hpart⟩
  · rintro τ s d owner data ch rfl
    refine ⟨fun hout n pause h => ?_, fun n pause ch' h pause' => ⟨write_again h, ?_⟩⟩
    · exact h.sends (.inr ⟨WriteLine.amountsOf_eq_nil_iff.2 hout, rfl⟩)
    · rintro ⟨entropy, entropy', hagain⟩
      exact occurs_of_write hagain

/-- Bounds of 20 and 5 are turned round, so that 5 is all there is: it comes after the 200 bytes of
a write to a stream that takes all it gets. -/
theorem pauses_for_its_data_turned_round :
    let o : Obfuscation := ⟨true, 0, 0, 20, 5⟩
    let data : Bytes := List.replicate 200 7
    let sink : Carrier Bytes :=
      { read := fun _ t => (.waiting, t), write := fun bs t => (.ready bs.length, t ++ bs)
        flush := fun t => (.ready (), t), shut := fun t => (.ready (), t) }
    let ch : Channel Bytes := { pool := .empty 8 0, entropy := .ofBytes [], stream := [] }
    o.maxDelayMs.toNat < 2 ^ 63 ∧
      (∀ ms : UInt64, Jitter.Occurs o 200 (some ms) ↔ ms = 5) ∧ ¬Jitter.Occurs o 200 none ∧
      ch.Writes { obfuscation := o } sink 0 data (200, some 5) ∧
      ∀ n pause, ch.Writes { obfuscation := o } sink 0 data (n, pause) →
        n = 200 ∧ pause = some 5 := by
  intro o data sink ch
  have hrange : o.maxDelayMs.toNat < 2 ^ 63 := by decide
  obtain ⟨-, hlong, hwrites⟩ := pauses_for_its_data o hrange
  obtain ⟨hsome, hnone⟩ := hlong 200 rfl (by decide) (by decide)
  have hfive (ms : UInt64) : Jitter.Occurs o 200 (some ms) ↔ ms = 5 := by
    rw [hsome, ← UInt64.toNat_inj]
    exact ⟨fun ⟨hlow, hhigh⟩ => Nat.le_antisymm hhigh hlow,
      fun h => ⟨Nat.le_of_eq h.symm, Nat.le_of_eq h⟩⟩
  have hnever : ¬Jitter.Occurs o 200 none := fun h => absurd (hnone.1 h) (by decide)
  have hdone : ch.Writes { obfuscation := o } sink 0 data (200, some 5) := by
    have hready : (ch.write { obfuscation := o } sink 0 data).1 = .ready (200, some 5) := by
      decide +kernel
    generalize hwrite : ch.write { obfuscation := o } sink 0 data = r at hready
    obtain ⟨outcome, out⟩ := r
    obtain rfl : outcome = _ := hready
    exact .now hwrite
  refine ⟨hrange, hfive, hnever, hdone, ?_⟩
  intro n pause h
  obtain ⟨hn, hoccurs⟩ :=
    (hwrites Bytes { obfuscation := o } sink 0 data ch rfl).1 rfl n pause h
  have hall : n = 200 := by
    rw [hn, List.length_replicate]
    rfl
  rw [hall] at hoccurs
  cases pause with
  | none => exact absurd hoccurs hnever
  | some ms => exact ⟨hall, by rw [(hfive ms).1 hoccurs]⟩

end Channel

end SealedTunnel
