import SealedTunnel.Conn.Channel
import SealedTunnel.Proofs.Conn.Carrier
import SealedTunnel.Proofs.Conn.Payload

/-!
# Writing puts frames on the stream

A write makes a frame, which costs buffers and random bytes only, and then pushes it: over a stream
that takes bytes, whoever has the turn puts in the next of its frame and leaves the line with the
last of it. Nobody else puts anything on the stream.

## Main results

* `Channel.make_eq`: what making a frame gives
* `Channel.push_takes`: what pushing does for the one who has the turn
* `Channel.push_of_not_turn`: and for everyone else
* `Channel.close_of_alone`: what closing does for the only one in the line
-/

namespace SealedTunnel

namespace Channel

variable {τ : Type} {s : Settings} {d : Carrier τ} {ch : Channel τ}

/-- **Making a frame**: it is the payload of the first bytes of the data behind its header; only
buffers and random bytes are used up, and only buffers if there is no payload. -/
theorem make_eq (ho : s.obfuscation.check = .ok ()) {data : Bytes} (hd : data ≠ [])
    (ch : Channel τ) :
    (∃ e pool, s.payload (s.chunkOf data) ch.entropy = .error e ∧
        ch.make s data = (.error e, { ch with pool })) ∨
      ∃ payload entropy loans pool,
        s.payload (s.chunkOf data) ch.entropy = .ok (payload, entropy) ∧
        ch.make s data =
          (.ok ⟨Wire.frame payload, (s.chunkOf data).length, loans⟩,
            { ch with pool, entropy }) := by
  unfold make
  rcases s.prepare_cases ho hd ch.pool ch.entropy with
    ⟨e, pool, hpayload, hmade⟩ | ⟨payload, entropy, loans, pool, hpayload, hmade⟩
  · rw [hmade]
    exact .inl ⟨e, pool, hpayload, rfl⟩
  · rw [hmade]
    exact .inr ⟨payload, entropy, loans, pool, hpayload, rfl⟩

theorem make_keeps (s : Settings) (data : Bytes) (ch : Channel τ) :
    ∃ pool entropy, (ch.make s data).2 = { ch with pool, entropy } := by
  unfold make
  cases s.prepare data ch.pool ch.entropy with
  | error unmade => exact ⟨_, _, rfl⟩
  | ok r => exact ⟨_, _, rfl⟩

/-- Whoever does not have the turn only waits. -/
theorem push_of_not_turn {owner : Nat}
    (h : ∀ turn, ch.writeLine.holder? = some turn → turn.owner ≠ owner) :
    ch.push d owner = (.waiting, ch) := by
  rw [push]
  cases hholder : ch.writeLine.holder? with
  | none => rfl
  | some turn => exact if_pos (h turn hholder)

/-- Whoever has the turn delivers its frame to the stream. -/
theorem push_of_turn {turn : Turn} {line : WriteLine} (hline : ch.writeLine = turn :: line) :
    ch.push d turn.owner =
      match d.emit turn.rest ch.stream with
      | (.partway rest, stream) =>
        (.waiting, { ch with stream, writeLine := { turn with rest } :: line })
      | (.stopped (.broken e), stream) =>
        (.failed (.io e), { ch with stream }.leave turn.owner)
      | (.stopped (.ended _), stream) =>
        (.failed (.io .nothingTaken), { ch with stream }.leave turn.owner)
      | (.complete _, stream) => (.ready turn.consumed, { ch with stream }.leave turn.owner) := by
  have hholder : ch.writeLine.holder? = some turn := by
    rw [hline]
    rfl
  rw [push, hholder]
  dsimp only
  rw [if_neg (not_not_intro rfl), hline]
  rfl

/-- **Whoever has the turn puts in the next bytes of its frame**, and leaves the line once the last
of them is flushed. -/
theorem push_takes {up : τ → Prop} {taken : τ → Bytes} (h : d.Takes up taken) {turn : Turn}
    {line : WriteLine} (hline : ch.writeLine = turn :: line) (hup : up ch.stream) :
    ∃ went rest stream, turn.rest = went ++ rest ∧ up stream ∧
      taken stream = taken ch.stream ++ went ∧
      (rest = [] ∧
          ch.push d turn.owner = (.ready turn.consumed, { ch with stream }.leave turn.owner) ∨
        ch.push d turn.owner =
          (.waiting, { ch with stream, writeLine := { turn with rest } :: line })) := by
  obtain ⟨went, rest, hsplit, hup', htaken, hcases⟩ := h.emitted turn.rest hup
  refine ⟨went, rest, (d.emit turn.rest ch.stream).2, hsplit, hup', htaken, ?_⟩
  rw [push_of_turn hline]
  generalize d.emit turn.rest ch.stream = r at hcases
  obtain ⟨transfer, stream⟩ := r
  rcases hcases with ⟨rfl, rfl⟩ | rfl
  · exact .inl ⟨rfl, rfl⟩
  · exact .inr rfl

/-- **A writer that is alone in the line goes on with its frame**: it puts in the next bytes of it,
and is done once the last of them is flushed, unless no random bytes are left for the pause. -/
theorem proceed_takes {up : τ → Prop} {taken : τ → Bytes} (h : d.Takes up taken) {turn : Turn}
    (hline : ch.writeLine = [turn]) (hup : up ch.stream) :
    ∃ went rest stream, turn.rest = went ++ rest ∧ up stream ∧
      taken stream = taken ch.stream ++ went ∧
      ((rest = [] ∧ ∃ pool entropy pause, ch.proceed s d turn.owner =
          (.ready (turn.consumed, pause), { ch with pool, entropy, stream, writeLine := [] })) ∨
        (rest = [] ∧ ∃ pool, ch.proceed s d turn.owner =
          (.failed (.crypto .noEntropy), { ch with pool, stream, writeLine := [] })) ∨
        ch.proceed s d turn.owner =
          (.waiting, { ch with stream, writeLine := [{ turn with rest }] })) := by
  obtain ⟨went, rest, stream, hsplit, hup', htaken, ⟨rfl, hpush⟩ | hpush⟩ :=
    push_takes h hline hup
  · have hleft : WriteLine.leave [turn] turn.owner = [] := by simp [WriteLine.leave]
    refine ⟨went, [], stream, hsplit, hup', htaken, ?_⟩
    rw [proceed, hpush]
    dsimp only [leave]
    rw [hline, hleft]
    cases hpause : s.drawPause turn.consumed ch.entropy with
    | error e =>
      rw [Settings.eq_noEntropy_of_drawPause hpause]
      exact .inr (.inl ⟨rfl, _, rfl⟩)
    | ok r => exact .inl ⟨rfl, _, r.2, r.1, rfl⟩
  · refine ⟨went, rest, stream, hsplit, hup', htaken, .inr (.inr ?_)⟩
    rw [proceed, hpush]

/-! ## Closing -/

@[simp] theorem stream_lineUp (owner : Nat) (ch : Channel τ) :
    (ch.lineUp owner).stream = ch.stream := by
  unfold lineUp
  split <;> rfl

@[simp] theorem reader_lineUp (owner : Nat) (ch : Channel τ) :
    (ch.lineUp owner).reader = ch.reader := by
  unfold lineUp
  split <;> rfl

/-- Nobody is in the way of closing when nobody else is in the line. -/
theorem close_of_alone {owner : Nat}
    (hline : ch.writeLine = [] ∨ ch.writeLine = [⟨owner, [], 0, []⟩]) :
    ch.close d owner =
      match d.finish ch.stream with
      | (.waiting, stream) => (.waiting, { ch with stream, writeLine := [⟨owner, [], 0, []⟩] })
      | (outcome, stream) => (outcome, { ch with stream, writeLine := [] }) := by
  have hup : ch.lineUp owner = { ch with writeLine := [⟨owner, [], 0, []⟩] } := by
    rcases hline with hnil | hone
    · simp [lineUp, join, hnil, WriteLine.has, WriteLine.enter]
    · have hin : ch.writeLine.has owner = true := by simp [hone, WriteLine.has]
      rw [lineUp, if_pos hin, ← hone]
  rw [close, hup]
  dsimp only [WriteLine.holder?]
  rw [if_pos rfl]
  generalize d.finish ch.stream = r
  obtain ⟨outcome, stream⟩ := r
  cases outcome <;> simp [leave, WriteLine.leave, WriteLine.loansOf, Pool.releaseAll]

/-- Closing shuts the stream, or leaves it as it is. -/
theorem stream_close (d : Carrier τ) (owner : Nat) (ch : Channel τ) :
    (ch.close d owner).2.stream = ch.stream ∨
      (ch.close d owner).2.stream = (d.finish ch.stream).2 := by
  rw [close, ← ch.stream_lineUp owner]
  cases (ch.lineUp owner).writeLine.holder? with
  | none => exact .inl rfl
  | some turn =>
    dsimp only
    split
    · generalize d.finish (ch.lineUp owner).stream = r
      obtain ⟨outcome, stream⟩ := r
      cases outcome <;> exact .inr rfl
    · exact .inl rfl

/-- Closing leaves the readers alone. -/
theorem reader_close (d : Carrier τ) (owner : Nat) (ch : Channel τ) :
    (ch.close d owner).2.reader = ch.reader := by
  rw [close, ← ch.reader_lineUp owner]
  cases (ch.lineUp owner).writeLine.holder? with
  | none => rfl
  | some turn =>
    dsimp only
    split
    · generalize d.finish (ch.lineUp owner).stream = r
      obtain ⟨outcome, stream⟩ := r
      cases outcome <;> rfl
    · rfl

/-! ## What stays as it is -/

/-- Pushing leaves the readers alone, and keeps of the stream what writing and flushing keep. -/
theorem push_readers {P : τ → Prop} (hwrite : ∀ {bs t}, bs ≠ [] → P t → P (d.write bs t).2)
    (hflush : ∀ {t}, P t → P (d.flush t).2) (owner : Nat) (ht : P ch.stream) :
    (ch.push d owner).2.reader = ch.reader ∧ (ch.push d owner).2.readLine = ch.readLine ∧
      P (ch.push d owner).2.stream := by
  rw [push]
  cases ch.writeLine.holder? with
  | none => exact ⟨rfl, rfl, ht⟩
  | some turn =>
    dsimp only
    by_cases howner : turn.owner = owner
    · have hkeeps := Carrier.emit_keeps hwrite hflush turn.rest ht
      rw [if_neg (not_not_intro howner)]
      generalize d.emit turn.rest ch.stream = r at hkeeps
      obtain ⟨transfer, stream⟩ := r
      cases transfer with
      | complete => exact ⟨rfl, rfl, hkeeps⟩
      | partway => exact ⟨rfl, rfl, hkeeps⟩
      | stopped why => cases why <;> exact ⟨rfl, rfl, hkeeps⟩
    · rw [if_pos howner]
      exact ⟨rfl, rfl, ht⟩

theorem proceed_readers {P : τ → Prop} (hwrite : ∀ {bs t}, bs ≠ [] → P t → P (d.write bs t).2)
    (hflush : ∀ {t}, P t → P (d.flush t).2) (s : Settings) (owner : Nat) (ht : P ch.stream) :
    let r := ch.proceed s d owner
    r.2.reader = ch.reader ∧ r.2.readLine = ch.readLine ∧ P r.2.stream := by
  have hpush := push_readers hwrite hflush owner ht
  rw [proceed]
  generalize ch.push d owner = r at hpush
  obtain ⟨outcome, ch'⟩ := r
  cases outcome with
  | waiting | failed => exact hpush
  | ready n =>
    dsimp only
    cases s.drawPause n ch'.entropy <;> exact hpush

/-- So does writing. -/
theorem write_readers {P : τ → Prop} (hwrite : ∀ {bs t}, bs ≠ [] → P t → P (d.write bs t).2)
    (hflush : ∀ {t}, P t → P (d.flush t).2) (s : Settings) (owner : Nat) (data : Bytes)
    (ht : P ch.stream) :
    let r := ch.write s d owner data
    r.2.reader = ch.reader ∧ r.2.readLine = ch.readLine ∧ P r.2.stream := by
  rw [write]
  split
  · exact proceed_readers hwrite hflush s owner ht
  · split
    · exact ⟨rfl, rfl, ht⟩
    · obtain ⟨pool, entropy, hmade⟩ := make_keeps s data ch
      generalize ch.make s data = made at hmade
      obtain ⟨outcome, ch'⟩ := made
      obtain rfl : ch' = { ch with pool, entropy } := hmade
      cases outcome with
      | error e => exact ⟨rfl, rfl, ht⟩
      | ok p => exact proceed_readers hwrite hflush s owner ht

end Channel

end SealedTunnel
