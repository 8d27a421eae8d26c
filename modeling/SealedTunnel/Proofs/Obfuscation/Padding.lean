import SealedTunnel.Obfuscation.Padding
import SealedTunnel.Proofs.Bytes
import SealedTunnel.Proofs.Random

/-!
# Padding is taken off again

A padded text is its length, the text and as many random bytes as were drawn for; nothing of the
buffer it was built in is left in it. Taking the padding off gives the text, whatever was drawn.

## Main definitions

* `Padding.layout`: a text padded, without a buffer
* `Padding.draw`: a text with random padding
* `Padding.Modest`: a range of lengths up to the limit

## Main results

* `Padding.length_drawPadding`: a decoy stays inside the padding
* `Padding.encodeInto_eq`: the scratch buffer does not matter
* `Padding.decode_layout`: decoding gives the text back
* `Padding.drawLength_mem`: the length drawn is in the range of the settings
-/

namespace SealedTunnel.Padding

/-- A text behind its length and before its padding. -/
def layout (data padding : Bytes) : Bytes :=
  Bytes.bigEndian headerLength data.length ++ data ++ padding

@[simp] theorem length_layout (data padding : Bytes) :
    (layout data padding).length = headerLength + data.length + padding.length := by
  rw [layout, List.length_append, List.length_append, Bytes.length_bigEndian]

/-- Random padding of a length that was drawn; for none of it nothing more is drawn. -/
def drawTail (pad : UInt64) : Draw CryptoError Bytes :=
  if pad = 0 then pure [] else drawPadding pad.toNat

/-- A text with random padding. -/
def draw (data : Bytes) (o : Obfuscation) : Draw CryptoError Bytes := do
  return layout data (← drawTail (← drawLength o))

/-- **Decoding gives the text back**, whatever the padding. -/
theorem decode_layout {data : Bytes} (h : data.length ≤ maxPayload) (padding : Bytes) :
    decode (layout data padding) = .ok data := by
  have hh := Bytes.length_bigEndian headerLength data.length
  have hfit : data.length < 256 ^ headerLength := by
    rw [maxPayload] at h
    rw [headerLength]
    omega
  have hdeclared : Bytes.ofBigEndian ((layout data padding).take headerLength) = data.length := by
    rw [layout, List.append_assoc, List.take_left' hh, Bytes.ofBigEndian_bigEndian _ _ hfit]
  rw [decode, if_neg (by rw [length_layout]; omega)]
  simp only [hdeclared]
  rw [if_neg (by rw [length_layout]; omega), layout, List.append_assoc, List.drop_left' hh,
    List.take_left]

/-- Whatever is decoded, two bytes say how long it is. -/
theorem length_le_of_decode {buf text : Bytes} (h : decode buf = .ok text) :
    text.length ≤ maxPayload := by
  have hdeclared := Bytes.ofBigEndian_lt (buf.take headerLength)
  have hwidth : (buf.take headerLength).length ≤ headerLength := List.length_take_le ..
  have hlimit : Bytes.ofBigEndian (buf.take headerLength) < 256 ^ headerLength :=
    Nat.lt_of_lt_of_le hdeclared (Nat.pow_le_pow_right (by decide) hwidth)
  unfold decode at h
  dsimp only at h
  split at h
  · cases h
  · split at h
    · cases h
    · obtain rfl := Except.ok.inj h
      rw [List.length_take]
      simp only [headerLength, maxPayload] at hlimit ⊢
      omega

/-! ## What is drawn -/

/-- A decoy stays inside the padding: it never makes it longer. -/
theorem length_drawPadding {length : Nat} {e e' : Entropy} {padding : Bytes}
    (h : drawPadding length e = .ok (padding, e')) : padding.length = length := by
  unfold drawPadding at h
  obtain ⟨noise, e₁, hnoise, h⟩ := Draw.bind_eq_ok.1 h
  have hn := Draw.length_bytes hnoise
  split at h
  · obtain ⟨rfl, -⟩ := Prod.mk.inj (Except.ok.inj h)
    exact hn
  · obtain ⟨choice, e₂, -, h⟩ := Draw.bind_eq_ok.1 h
    split at h
    · obtain ⟨rfl, -⟩ := Prod.mk.inj (Except.ok.inj h)
      exact hn
    · rename_i hfit
      obtain ⟨offset, e₃, hoffset, h⟩ := Draw.bind_eq_ok.1 h
      obtain ⟨rfl, -⟩ := Prod.mk.inj (Except.ok.inj h)
      have hlt := Draw.below_lt hoffset
      rw [Nat.toUInt64_eq, UInt64.toNat_ofNat'] at hlt
      have hwrap := Nat.mod_le (length - (decoys.getD choice.toNat []).length + 1) (2 ^ 64)
      rw [Bytes.length_overwrite _ _ _ (by omega), hn]

theorem plain_drawPadding (length : Nat) : (drawPadding length).Plain := by
  unfold drawPadding
  refine .bind (.bytes _) fun noise => ?_
  split
  · exact .pure _
  · refine .bind (.number _) fun choice => ?_
    dsimp only
    split
    · exact .pure _
    · exact .bind (.number _) fun _ => .pure _

theorem drawLength_eq (o : Obfuscation) :
    drawLength o =
      if o.minPadding < o.maxPadding then do
        return o.minPadding + (← Draw.below (o.maxPadding - o.minPadding + 1))
      else pure o.minPadding := by
  unfold drawLength
  split
  · rename_i hlt
    have hlt := UInt64.lt_iff_toNat_lt.1 hlt
    have hne : o.maxPadding - o.minPadding ≠ 0 := by
      intro hz
      have hsub := UInt64.toNat_sub_of_le _ _ (UInt64.le_iff_toNat_le.2 (Nat.le_of_lt hlt))
      rw [hz] at hsub
      simp only [UInt64.toNat_zero] at hsub
      omega
    rw [if_neg hne]
  · rfl

theorem plain_drawLength (o : Obfuscation) : (drawLength o).Plain := by
  rw [drawLength_eq]
  split
  · exact .bind (.number _) fun _ => .pure _
  · exact .pure _

/-- A range in which no padding is long, be it one that a configuration may ask for or one that is
turned round. -/
structure Modest (o : Obfuscation) : Prop where
  min_le : o.minPadding.toNat ≤ 32768
  max_le : o.maxPadding.toNat ≤ 32768

/-- **The length drawn is in the range.** -/
theorem drawLength_mem {o : Obfuscation} (ho : Modest o) {e e' : Entropy} {pad : UInt64}
    (h : drawLength o e = .ok (pad, e')) :
    o.minPadding.toNat ≤ pad.toNat ∧ pad.toNat ≤ max o.minPadding.toNat o.maxPadding.toNat := by
  have hmax := ho.max_le
  rw [drawLength_eq] at h
  split at h
  · rename_i hlt
    have hlt := UInt64.lt_iff_toNat_lt.1 hlt
    obtain ⟨extra, e₁, hextra, h⟩ := Draw.bind_eq_ok.1 h
    obtain ⟨rfl, -⟩ := Prod.mk.inj (Except.ok.inj h)
    have hbelow := Draw.below_lt hextra
    rw [UInt64.toNat_add, UInt64.toNat_sub_of_le _ _ (UInt64.le_iff_toNat_le.2 (Nat.le_of_lt hlt)),
      UInt64.toNat_one] at hbelow
    rw [UInt64.toNat_add]
    omega
  · obtain ⟨rfl, -⟩ := Prod.mk.inj (Except.ok.inj h)
    exact ⟨Nat.le_refl _, Nat.le_max_left ..⟩

/-- Settings that pass the check ask for no more padding than the limit. -/
theorem modest_of_check {o : Obfuscation} (ho : o.check = .ok ()) : Modest o := by
  unfold Obfuscation.check at ho
  split at ho
  · cases ho
  · split at ho
    · cases ho
    · rename_i hmin hmax
      have hmin := UInt64.le_iff_toNat_le.1 (UInt64.not_lt.1 hmin)
      have hmax := UInt64.le_iff_toNat_le.1 (UInt64.not_lt.1 hmax)
      exact ⟨Nat.le_trans hmin hmax, hmax⟩

/-- The padding drawn under such a range is never longer than the limit. -/
theorem drawLength_le {o : Obfuscation} (ho : Modest o) {e e' : Entropy} {pad : UInt64}
    (h : drawLength o e = .ok (pad, e')) : pad.toNat ≤ 32768 :=
  Nat.le_trans (drawLength_mem ho h).2 (Nat.max_le.2 ⟨ho.min_le, ho.max_le⟩)

theorem length_drawTail {pad : UInt64} {e e' : Entropy} {padding : Bytes}
    (h : drawTail pad e = .ok (padding, e')) : padding.length = pad.toNat := by
  unfold drawTail at h
  split at h
  · rename_i hz
    obtain ⟨rfl, -⟩ := Prod.mk.inj (Except.ok.inj h)
    rw [hz]
    rfl
  · exact length_drawPadding h

theorem plain_drawTail (pad : UInt64) : (drawTail pad).Plain := by
  unfold drawTail
  split
  · exact Draw.Plain.pure _
  · exact plain_drawPadding _

theorem plain_fill (data : Bytes) (pad : Nat) (out : Bytes) : (fill data pad out).Plain := by
  unfold fill
  dsimp only
  split
  · exact .pure _
  · exact .bind (plain_drawPadding pad) fun _ => .pure _

theorem plain_draw (data : Bytes) (o : Obfuscation) : (draw data o).Plain :=
  .bind (plain_drawLength o) fun pad => .bind (plain_drawTail pad) fun _ => .pure _

/-- What is drawn for a text is the text with padding of a length in the range. -/
theorem draw_mem {data text : Bytes} {o : Obfuscation} {e e' : Entropy}
    (h : draw data o e = .ok (text, e')) :
    ∃ padding, text = layout data padding ∧ (Modest o → o.minPadding.toNat ≤ padding.length ∧
      padding.length ≤ max o.minPadding.toNat o.maxPadding.toNat) := by
  obtain ⟨pad, e₁, hpad, h⟩ := Draw.bind_eq_ok.1 h
  obtain ⟨padding, e₂, hpadding, h⟩ := Draw.bind_eq_ok.1 h
  obtain ⟨rfl, -⟩ := Prod.mk.inj (Except.ok.inj h)
  refine ⟨padding, rfl, fun ho => ?_⟩
  rw [length_drawTail hpadding]
  exact drawLength_mem ho hpad

theorem draw_eq_ok {data text : Bytes} {o : Obfuscation} {e e' : Entropy}
    (h : draw data o e = .ok (text, e')) :
    ∃ padding, text = layout data padding ∧ (o.check = .ok () → padding.length ≤ 32768) := by
  obtain ⟨padding, htext, hrange⟩ := draw_mem h
  refine ⟨padding, htext, fun ho => ?_⟩
  have ho := modest_of_check ho
  exact Nat.le_trans (hrange ho).2 (Nat.max_le.2 ⟨ho.min_le, ho.max_le⟩)

/-! ## Building in a buffer -/

/-- What is written leaves nothing of a buffer of the right length. -/
theorem fill_eq (data : Bytes) (pad : UInt64) {out : Bytes}
    (h : out.length = headerLength + data.length + pad.toNat) :
    fill data pad.toNat out = do return layout data (← drawTail pad) := by
  have hfront : ((out.overwrite 0 (Bytes.bigEndian headerLength data.length)).overwrite
      headerLength data) = Bytes.bigEndian headerLength data.length ++ data ++
        out.drop (headerLength + data.length) := by
    rw [Bytes.overwrite_zero, Bytes.length_bigEndian, Bytes.overwrite,
      List.take_left' (Bytes.length_bigEndian ..), List.drop_append, Bytes.length_bigEndian,
      List.drop_of_length_le (by rw [Bytes.length_bigEndian]; omega), List.nil_append,
      List.drop_drop, Nat.add_sub_cancel_left]
  have hl : (Bytes.bigEndian headerLength data.length ++ data).length =
      headerLength + data.length := by
    rw [List.length_append, Bytes.length_bigEndian]
  unfold fill drawTail
  simp only [hfront]
  by_cases hp : pad = 0
  · have hz : out.drop (headerLength + data.length) = [] := by
      refine List.drop_of_length_le ?_
      rw [h, hp]
      exact Nat.le_refl _
    rw [if_pos (by rw [hp]; rfl), if_pos hp, hz]
    rfl
  · have hz : pad.toNat ≠ 0 := fun hz => hp (UInt64.toNat_inj.1 hz)
    rw [if_neg hz, if_neg hp]
    funext e
    rw [Draw.bind_apply, Draw.bind_apply]
    cases hd : drawPadding pad.toNat e with
    | error err => rfl
    | ok r =>
      show Except.ok (_, r.2) = Except.ok (layout data r.1, r.2)
      rw [Bytes.overwrite_append hl, layout]
      rw [List.length_drop, h, length_drawPadding hd, Nat.add_sub_cancel_left]

/-- **The scratch buffer of a padded text does not matter.** -/
theorem encodeInto_eq {data : Bytes} (hd : data.length ≤ maxPayload) (o : Obfuscation)
    (scratch : Bytes) :
    Placed.bytes <$> encodeInto data o scratch = (draw data o).forTunnel := by
  unfold encodeInto draw
  rw [if_neg (Nat.not_lt.2 hd), map_bind, Draw.forTunnel_bind]
  congr 1
  funext pad
  rw [map_bind]
  simp only [map_pure, bind_pure]
  rw [fill_eq data pad (Placed.length_room ..)]

end SealedTunnel.Padding
