import SealedTunnel.Conn.Settings
import SealedTunnel.Proofs.Frame.Body
import SealedTunnel.Proofs.Obfuscation.Padding
import SealedTunnel.Proofs.Sealing

/-!
# The payload of a chunk

A frame is the header of a payload and the payload; a payload is its chunk compressed, padded and
sealed, each where the settings say so. That is all that `Settings.prepare` puts into a frame,
whatever buffers it is built in, and decoding undoes all of it.

## Main definitions

* `Settings.payload`: the payload of a chunk, without buffers
* `Wire.frame`: a payload behind its header
* `Settings.chunksOf`: the pieces of data that the frames of it carry
* `Settings.Agree`: what two ends of a connection have in common

## Main results

* `Settings.prepare_cases`: a frame is the header and the payload, whatever buffers are used
* `Settings.decode_payload`: decoding gives the chunk back
* `Settings.length_payload`: a payload is not empty, and not longer than the other end accepts
-/

namespace SealedTunnel

/-- A payload behind its header. -/
def Wire.frame (payload : Bytes) : Bytes :=
  Bytes.bigEndian Header.size payload.length ++ payload

namespace Draw

variable {α : Type} {draw : Draw TunnelError α} {e : Entropy}

theorem orGiveBack_of_error {err : TunnelError} (h : draw e = .error err) (loans : List Buffer)
    (pool : Pool) : draw.orGiveBack loans pool e = .error ⟨err, pool.releaseAll loans⟩ := by
  unfold orGiveBack
  rw [h]
  rfl

theorem orGiveBack_eq_ok {loans : List Buffer} {pool : Pool} {r : α × Entropy} :
    draw.orGiveBack loans pool e = .ok r ↔ draw e = .ok r := by
  cases hr : draw e with
  | error err =>
    rw [orGiveBack_of_error hr]
    exact ⟨nofun, nofun⟩
  | ok r' =>
    unfold orGiveBack
    rw [hr]
    exact ⟨fun h => congrArg _ (Except.ok.inj h), fun h => congrArg _ (Except.ok.inj h)⟩

theorem orGiveBack_of_ok {r : α × Entropy} (h : draw e = .ok r) (loans : List Buffer)
    (pool : Pool) : draw.orGiveBack loans pool e = .ok r :=
  orGiveBack_eq_ok.2 h

end Draw

namespace Settings

/-! ## The layers -/

/-- The body of a chunk, compressed where the settings say so. -/
def bodyOf (s : Settings) (chunk : Bytes) : Bytes :=
  match s.compression with
  | .snappy => Body.ofChunk chunk
  | .none => chunk

/-- The text of a body, padded where the settings say so. -/
def drawText (s : Settings) (body : Bytes) : Draw TunnelError Bytes :=
  if s.obfuscation.enabled then (Padding.draw body s.obfuscation).forTunnel else pure body

/-- The sealed form of a text, where there is a cipher. -/
def drawSealed (s : Settings) (text : Bytes) : Draw TunnelError Bytes :=
  match s.cipher with
  | some c => Draw.forTunnel do return c.sealUnder (← Draw.bytes Cipher.nonceLength) text
  | none => pure text

/-- **The payload of a chunk**: compressed, padded, sealed. -/
def payload (s : Settings) (chunk : Bytes) : Draw TunnelError Bytes := do
  s.drawSealed (← s.drawText (s.bodyOf chunk))

/-- The first bytes of the data, as many as the next frame takes. -/
def chunkOf (s : Settings) (data : Bytes) : Bytes :=
  data.take s.chunkLimit

/-- What two ends of a connection have in common: the cipher, whether texts are padded, and
whether bodies are compressed. The sizes of frames and paddings may differ. -/
structure Agree (a b : Settings) : Prop where
  cipher : a.cipher = b.cipher
  padded : a.obfuscation.enabled = b.obfuscation.enabled
  compression : a.compression = b.compression

theorem Agree.refl (s : Settings) : Agree s s := ⟨rfl, rfl, rfl⟩

variable {s : Settings} {data chunk body text : Bytes} {e e' : Entropy}

/-! ## Lengths -/

theorem maxPayload_pos (s : Settings) : 0 < s.maxPayload :=
  Nat.lt_of_lt_of_le Nat.zero_lt_one (Nat.le_max_left ..)

theorem maxPayload_le (s : Settings) : s.maxPayload ≤ maxFramePayload := by
  unfold maxPayload
  rw [maxFramePayload]
  omega

theorem chunkLimit_pos (s : Settings) : 0 < s.chunkLimit := by
  have := s.maxPayload_pos
  unfold chunkLimit
  split
  · rw [Body.maxChunk, maxFramePayload, Body.markerLength]
    omega
  · exact this

theorem chunkLimit_le (s : Settings) : s.chunkLimit ≤ maxFramePayload := by
  have := s.maxPayload_le
  unfold chunkLimit
  split
  · exact Nat.le_trans (Nat.min_le_left ..) this
  · exact this

theorem chunkOf_ne_nil (s : Settings) (hd : data ≠ []) : s.chunkOf data ≠ [] := by
  intro h
  rcases List.take_eq_nil_iff.1 h with h | h
  · exact Nat.ne_of_gt s.chunkLimit_pos h
  · exact hd h

theorem length_chunkOf_le (s : Settings) (data : Bytes) :
    (s.chunkOf data).length ≤ s.chunkLimit := by
  rw [chunkOf, List.length_take]
  exact Nat.min_le_left ..

/-- The pieces of the data that the frames of it carry, one after the other. -/
def chunksOf (s : Settings) (data : Bytes) : List Bytes :=
  if data = [] then [] else s.chunkOf data :: s.chunksOf (data.drop s.chunkLimit)
termination_by data.length
decreasing_by
  rename_i hd
  have := List.length_pos_iff.2 hd
  have := s.chunkLimit_pos
  rw [List.length_drop]
  omega

@[simp] theorem chunksOf_nil (s : Settings) : s.chunksOf [] = [] := by
  rw [chunksOf, if_pos rfl]

theorem chunksOf_of_ne (s : Settings) (hd : data ≠ []) :
    s.chunksOf data = s.chunkOf data :: s.chunksOf (data.drop s.chunkLimit) := by
  rw [chunksOf, if_neg hd]

@[simp] theorem flatten_chunksOf (s : Settings) (data : Bytes) :
    (s.chunksOf data).flatten = data := by
  fun_induction s.chunksOf data with
  | case1 => rfl
  | case2 data hd ih => rw [List.flatten_cons, ih, chunkOf, List.take_append_drop]

@[simp] theorem flatten_flatMap_chunksOf (s : Settings) (program : List Bytes) :
    (program.flatMap s.chunksOf).flatten = program.flatten := by
  induction program with
  | nil => rfl
  | cons data more ih =>
    rw [List.flatMap_cons, List.flatten_append, s.flatten_chunksOf, ih, List.flatten_cons]

theorem bodyOf_ne_nil (hc : chunk ≠ []) : s.bodyOf chunk ≠ [] := by
  unfold bodyOf
  split
  · exact Body.ofChunk_ne_nil chunk
  · exact hc

theorem length_bodyOf_le (hc : chunk.length ≤ s.chunkLimit) :
    (s.bodyOf chunk).length ≤ maxFramePayload := by
  have hlimit := s.chunkLimit_le
  unfold bodyOf
  unfold chunkLimit at hc
  cases hm : s.compression with
  | none =>
    simp only [hm] at hc
    exact Nat.le_trans hc s.maxPayload_le
  | snappy =>
    simp only [hm] at hc ⊢
    have := Body.length_ofChunk_le chunk
    have : chunk.length ≤ Body.maxChunk := Nat.le_trans hc (Nat.min_le_right ..)
    rw [Body.maxChunk, maxFramePayload, Body.markerLength] at this
    rw [maxFramePayload]
    omega

/-- The longest text of a body: as long as a payload that is not sealed may be. -/
def maxText (s : Settings) : Nat :=
  if s.obfuscation.enabled then
    maxFramePayload + (Padding.headerLength + Obfuscation.paddingLimit.toNat)
  else maxFramePayload

theorem maxFrameLength_eq (s : Settings) : s.maxFrameLength = s.sealedLength s.maxText := rfl

theorem sealedLength_mono {m n : Nat} (h : m ≤ n) : s.sealedLength m ≤ s.sealedLength n := by
  unfold sealedLength
  split
  · rw [Cipher.sealedLength, Cipher.sealedLength]
    omega
  · exact h

theorem le_sealedLength (n : Nat) : n ≤ s.sealedLength n := by
  unfold sealedLength
  split
  · rw [Cipher.sealedLength]
    omega
  · exact Nat.le_refl n

theorem maxFrameLength_le (s : Settings) : s.maxFrameLength ≤ Header.maxLength := by
  have htext : s.maxText ≤ 65535 + (2 + 32768) := by
    unfold maxText
    split
    · exact Nat.le_refl _
    · rw [maxFramePayload]
      omega
  refine Nat.le_trans (sealedLength_mono htext) ?_
  unfold sealedLength
  rw [Header.maxLength]
  split
  · rw [Cipher.sealedLength, Cipher.nonceLength, Cipher.tagLength]
    omega
  · omega

theorem Agree.maxFrameLength {a b : Settings} (h : Agree a b) :
    a.maxFrameLength = b.maxFrameLength := by
  rw [maxFrameLength_eq, maxFrameLength_eq, sealedLength, sealedLength, maxText, maxText, h.cipher,
    h.padded]

/-- A text that was drawn for a body: the body, or the body padded. -/
theorem drawText_eq_ok (h : s.drawText body e = .ok (text, e')) :
    (s.obfuscation.enabled = false ∧ text = body) ∨
      (s.obfuscation.enabled = true ∧ ∃ padding, text = Padding.layout body padding ∧
        (s.obfuscation.check = .ok () → padding.length ≤ 32768)) := by
  unfold drawText at h
  cases he : s.obfuscation.enabled with
  | false =>
    rw [he, if_neg Bool.false_ne_true] at h
    obtain ⟨rfl, -⟩ := Prod.mk.inj (Except.ok.inj h)
    exact .inl ⟨rfl, rfl⟩
  | true =>
    rw [he, if_pos rfl, Draw.forTunnel_eq_ok] at h
    exact .inr ⟨rfl, Padding.draw_eq_ok h⟩

theorem length_of_drawText (ho : s.obfuscation.check = .ok ()) (hb : body ≠ [])
    (hl : body.length ≤ maxFramePayload) (h : s.drawText body e = .ok (text, e')) :
    0 < text.length ∧ text.length ≤ s.maxText := by
  have hpos := List.length_pos_iff.2 hb
  unfold maxText
  rcases drawText_eq_ok h with ⟨he, rfl⟩ | ⟨he, padding, rfl, hp⟩
  · rw [he, if_neg Bool.false_ne_true]
    exact ⟨hpos, hl⟩
  · have hp := hp ho
    have hlimit : Obfuscation.paddingLimit.toNat = 32768 := rfl
    rw [he, if_pos rfl, Padding.length_layout, hlimit]
    omega

/-- A sealed text: the text, or its sealed form under some nonce. -/
theorem drawSealed_eq_ok {payload : Bytes} (h : s.drawSealed text e = .ok (payload, e')) :
    (s.cipher = none ∧ payload = text) ∨
      ∃ c nonce, s.cipher = some c ∧ nonce.length = Cipher.nonceLength ∧
        payload = c.sealUnder nonce text := by
  unfold drawSealed at h
  cases hc : s.cipher with
  | none =>
    rw [hc] at h
    obtain ⟨rfl, -⟩ := Prod.mk.inj (Except.ok.inj h)
    exact .inl ⟨rfl, rfl⟩
  | some c =>
    rw [hc, Draw.forTunnel_eq_ok] at h
    obtain ⟨nonce, e₁, hn, h⟩ := Draw.bind_eq_ok.1 h
    obtain ⟨rfl, -⟩ := Prod.mk.inj (Except.ok.inj h)
    exact .inr ⟨c, nonce, rfl, Draw.length_bytes hn, rfl⟩

theorem length_of_drawSealed {payload : Bytes} (h : s.drawSealed text e = .ok (payload, e')) :
    payload.length = s.sealedLength text.length := by
  unfold sealedLength
  rcases drawSealed_eq_ok h with ⟨hc, rfl⟩ | ⟨c, nonce, hc, hn, rfl⟩
  · rw [hc]
    rfl
  · rw [hc]
    exact c.length_sealUnder text hn

/-- **A payload is not empty, and never longer than the other end accepts.** -/
theorem length_payload (ho : s.obfuscation.check = .ok ()) (hc : chunk ≠ [])
    (hl : chunk.length ≤ s.chunkLimit) {payload : Bytes}
    (h : s.payload chunk e = .ok (payload, e')) :
    0 < payload.length ∧ payload.length ≤ s.maxFrameLength := by
  obtain ⟨text, e₁, htext, h⟩ := Draw.bind_eq_ok.1 h
  obtain ⟨hpos, hmax⟩ := length_of_drawText ho (bodyOf_ne_nil hc) (length_bodyOf_le hl) htext
  rw [length_of_drawSealed h]
  exact ⟨Nat.lt_of_lt_of_le hpos (le_sealedLength _), sealedLength_mono hmax⟩

theorem fits_payload (ho : s.obfuscation.check = .ok ()) (hc : chunk ≠ [])
    (hl : chunk.length ≤ s.chunkLimit) {payload : Bytes}
    (h : s.payload chunk e = .ok (payload, e')) : Header.Fits payload.length := by
  obtain ⟨hpos, hmax⟩ := length_payload ho hc hl h
  exact ⟨hpos, Nat.le_trans hmax s.maxFrameLength_le⟩

/-! ## Decoding -/

theorem expand_bodyOf {a b : Settings} (h : Agree a b) (hl : chunk.length ≤ a.chunkLimit) :
    b.expand (a.bodyOf chunk) = .ok chunk := by
  unfold expand bodyOf
  rw [← h.compression]
  cases a.compression with
  | none => rfl
  | snappy =>
    dsimp only
    rw [List.isEmpty_eq_false_iff.2 (Body.ofChunk_ne_nil chunk), if_neg Bool.false_ne_true,
      Body.decode_ofChunk (Nat.le_trans hl a.chunkLimit_le)]
    rfl

theorem unpad_of_drawText {a b : Settings} (h : Agree a b) (hl : body.length ≤ maxFramePayload)
    (ht : a.drawText body e = .ok (text, e')) : b.unpad text = .ok body := by
  unfold unpad
  rw [← h.padded]
  rcases drawText_eq_ok ht with ⟨he, rfl⟩ | ⟨he, padding, rfl, -⟩
  · rw [he, if_neg Bool.false_ne_true]
  · rw [he, if_pos rfl]
    exact Padding.decode_layout hl padding

theorem openPayload_of_drawSealed {a b : Settings} (h : Agree a b) {payload : Bytes}
    (hp : a.drawSealed text e = .ok (payload, e')) :
    ∃ place, b.openPayload payload = .ok (text, place) := by
  unfold openPayload
  rw [← h.cipher]
  rcases drawSealed_eq_ok hp with ⟨hnone, rfl⟩ | ⟨c, nonce, hsome, hn, rfl⟩
  · rw [hnone]
    exact ⟨payload, rfl⟩
  · rw [hsome]
    dsimp only
    rw [c.openInPlace_sealUnder text hn]
    exact ⟨_, rfl⟩

/-- **Decoding gives the chunk back**, at any end that agrees with the sender. -/
theorem decode_payload {a b : Settings} (h : Agree a b)
    (hl : chunk.length ≤ a.chunkLimit) {payload : Bytes}
    (hp : a.payload chunk e = .ok (payload, e')) : b.decode payload = .ok chunk := by
  obtain ⟨text, e₁, htext, hp⟩ := Draw.bind_eq_ok.1 hp
  obtain ⟨place, hopen⟩ := openPayload_of_drawSealed h hp
  rw [decode, hopen]
  show b.decodeText text = _
  rw [decodeText, unpad_of_drawText h (length_bodyOf_le hl) htext]
  exact expand_bodyOf h hl

/-! ## Building in buffers -/

theorem bodyInto_eq (hc : chunk.length ≤ s.chunkLimit) (scratch : Bytes) :
    ∃ inScratch, s.bodyInto chunk scratch = .ok ⟨s.bodyOf chunk, inScratch⟩ := by
  unfold bodyInto bodyOf
  unfold chunkLimit at hc
  cases hm : s.compression with
  | none => exact ⟨false, rfl⟩
  | snappy =>
    simp only [hm] at hc
    obtain ⟨inScratch, h⟩ := Body.encodeInto_eq (Nat.le_trans hc (Nat.min_le_right ..)) scratch
    dsimp only
    rw [h]
    exact ⟨inScratch, rfl⟩

theorem paddedInto_eq (hb : body.length ≤ maxFramePayload) (scratch : Bytes) :
    Placed.bytes <$> s.paddedInto body scratch = s.drawText body := by
  unfold paddedInto drawText
  split
  · exact Padding.encodeInto_eq hb _ _
  · rfl

theorem sealedInto_eq {place : Bytes} (h : place.length = s.sealedLength text.length) :
    s.sealedInto text place = s.drawSealed text := by
  unfold sealedInto drawSealed
  unfold sealedLength at h
  cases hc : s.cipher with
  | none => rfl
  | some c =>
    rw [hc] at h
    dsimp only
    rw [c.sealInto_eq text h]

/-- A frame that is built in a buffer is the header and the payload. -/
theorem frameInto_eq (hf : Header.Fits (s.sealedLength text.length)) (scratch : Bytes) :
    Placed.bytes <$> s.frameInto text scratch = Wire.frame <$> s.drawSealed text := by
  have hroom := Placed.length_room scratch (Header.size + s.sealedLength text.length)
  have hheader := Bytes.length_bigEndian Header.size (s.sealedLength text.length)
  have hencode : (Header.encode (s.sealedLength text.length)).mapError TunnelError.framing =
      .ok (Bytes.bigEndian Header.size (s.sealedLength text.length)) := by
    rw [Header.encode_eq hf]
    rfl
  funext e
  simp only [frameInto, hencode, Draw.lift_ok_bind]
  rw [sealedInto_eq, Draw.map_apply, Draw.map_apply, Draw.bind_apply]
  · cases hd : s.drawSealed text e with
    | error err => rfl
    | ok r =>
      obtain ⟨payload, e'⟩ := r
      have hl := length_of_drawSealed hd
      show Except.ok (_, e') = Except.ok (Wire.frame payload, e')
      rw [Bytes.overwrite_two hheader (by rw [hroom, hheader, hl]), Wire.frame, hl]
  · rw [List.length_drop, Bytes.length_overwrite _ _ _ (by rw [hheader, hroom]; omega), hroom,
      Nat.add_sub_cancel_left]

theorem frameInto_cases (hf : Header.Fits (s.sealedLength text.length)) (scratch : Bytes)
    (e : Entropy) :
    (∃ err, s.frameInto text scratch e = .error err ∧ s.drawSealed text e = .error err) ∨
      ∃ frame payload e', s.frameInto text scratch e = .ok (frame, e') ∧
        s.drawSealed text e = .ok (payload, e') ∧ frame.bytes = Wire.frame payload := by
  rcases Draw.cases_of_map_eq (frameInto_eq hf scratch) e with
      ⟨err, hframe, hmapped⟩ | ⟨frame, e', hframe, hmapped⟩ <;>
    rcases Draw.cases_of_map_eq (m := s.drawSealed text) rfl e with
      ⟨err', hsealed, hmapped'⟩ | ⟨payload, e'', hsealed, hmapped'⟩ <;>
    have heq := hmapped.symm.trans hmapped'
  · obtain rfl := Except.error.inj heq
    exact .inl ⟨err, hframe, hsealed⟩
  · cases heq
  · cases heq
  · obtain ⟨hbytes, rfl⟩ := Prod.mk.inj (Except.ok.inj heq)
    exact .inr ⟨frame, payload, e', hframe, hsealed, hbytes⟩

/-- What follows once the body stands in the first buffer. -/
theorem prepare_of_body {pool : Pool} {body : Placed}
    (h : s.bodyInto (s.chunkOf data) pool.acquire.1.bytes = .ok body) :
    s.prepare data pool = (do
      let first := pool.acquire.1.keep body
      let (second, pool) := pool.acquire.2.acquire
      let padded ← (s.paddedInto body.bytes second.bytes).orGiveBack [second, first] pool
      let (third, pool) := pool.acquire
      let frame ← (s.frameInto padded.bytes third.bytes).orGiveBack
        [third, second.keep padded, first] pool
      return (⟨frame.bytes, (s.chunkOf data).length,
        [third.keep frame, second.keep padded, first]⟩, pool)) := by
  unfold chunkOf at h ⊢
  unfold prepare
  dsimp only
  rw [h]
  rfl

/-- **A frame is the header and the payload of its chunk**, whatever buffers it is built in, and it
is not made just if there is no payload. -/
theorem prepare_cases (ho : s.obfuscation.check = .ok ()) (hd : data ≠ []) (pool : Pool)
    (e : Entropy) :
    (∃ err pool', s.payload (s.chunkOf data) e = .error err ∧
        s.prepare data pool e = .error ⟨err, pool'⟩) ∨
      ∃ payload e' loans pool', s.payload (s.chunkOf data) e = .ok (payload, e') ∧
        s.prepare data pool e =
          .ok ((⟨Wire.frame payload, (s.chunkOf data).length, loans⟩, pool'), e') := by
  have hl := s.length_chunkOf_le data
  have hbody := length_bodyOf_le hl
  obtain ⟨inScratch, hinto⟩ := bodyInto_eq hl pool.acquire.1.bytes
  rw [prepare_of_body hinto, payload]
  dsimp only
  rcases Draw.cases_of_map_eq (paddedInto_eq hbody pool.acquire.2.acquire.1.bytes) e with
    ⟨err, hpadded, htext⟩ | ⟨padded, e₁, hpadded, htext⟩
  · exact .inl ⟨err, _, Draw.bind_of_error htext,
      Draw.bind_of_error (Draw.orGiveBack_of_error hpadded _ _)⟩
  rw [Draw.bind_of_ok htext, Draw.bind_of_ok (Draw.orGiveBack_of_ok hpadded _ _)]
  have hlength := length_of_drawText ho (bodyOf_ne_nil (s.chunkOf_ne_nil hd)) hbody htext
  have hfits : Header.Fits (s.sealedLength padded.bytes.length) :=
    ⟨Nat.lt_of_lt_of_le hlength.1 (le_sealedLength _),
      Nat.le_trans (sealedLength_mono hlength.2) s.maxFrameLength_le⟩
  rcases frameInto_cases hfits pool.acquire.2.acquire.2.acquire.1.bytes e₁ with
    ⟨err, hframe, hsealed⟩ | ⟨⟨bytes, inScratch⟩, payload, e₂, hframe, hsealed, rfl⟩
  · exact .inl ⟨err, _, hsealed, Draw.bind_of_error (Draw.orGiveBack_of_error hframe _ _)⟩
  · rw [Draw.bind_of_ok (Draw.orGiveBack_of_ok hframe _ _)]
    exact .inr ⟨payload, e₂, _, _, hsealed, rfl⟩

theorem eq_noEntropy_of_payload {err : TunnelError} (h : s.payload chunk e = .error err) :
    err = .crypto .noEntropy := by
  rcases Draw.bind_eq_error.1 h with h | ⟨text, e₁, -, h⟩
  · unfold drawText at h
    split at h
    · exact (Padding.plain_draw _ _).onlyDry.forTunnel h
    · cases h
  · unfold drawSealed at h
    cases hc : s.cipher with
    | none =>
      rw [hc] at h
      cases h
    | some c =>
      rw [hc] at h
      exact Draw.OnlyDry.forTunnel (.bind (.bytes _) fun _ => .pure _) h

theorem plain_drawDelay (o : Obfuscation) (length : Nat) : (Jitter.drawDelay o length).Plain := by
  unfold Jitter.drawDelay
  split
  · exact .pure _
  · exact .bind (.number _) fun _ => .pure _

/-- The pause after a frame fails only when the random source does. -/
theorem eq_noEntropy_of_drawPause {length : Nat} {err : TunnelError}
    (h : s.drawPause length e = .error err) : err = .crypto .noEntropy := by
  unfold drawPause at h
  split at h
  · exact (plain_drawDelay _ _).onlyDry.forTunnel h
  · cases h

end Settings

end SealedTunnel
