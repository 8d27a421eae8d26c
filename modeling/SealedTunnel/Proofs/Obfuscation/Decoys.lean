import SealedTunnel.Proofs.Obfuscation.Padding
import SealedTunnel.Proofs.Random.Supply

/-!
# Where decoys lie

Padding is noise. If it is long enough a decoy is chosen, and if there is more padding than decoy it
is laid over the noise at some place where it ends with the padding or before. So a decoy covers
noise and nothing else, and all places occur, for every decoy and whatever the noise.

## Main definitions

* `Padding.drawNoise`: the random bytes that padding consists of
* `Padding.Fits`: the places of a decoy
* `Padding.Drawn`: how padding is drawn

## Main results

* `Padding.layout_drawTail_eq_ok_iff`: padding is drawn in these ways
* `Padding.exists_drawn_iff`: the decoys that are laid over noise, and where
* `Padding.decoys_stay_inside`: what this says of a padded text
-/

namespace SealedTunnel.Padding

variable {pad : UInt64} {e e' : Entropy} {noise padding decoy : Bytes} {offset : Nat}
  {laid : Option (Bytes × Nat)}

/-- The random bytes that padding consists of; for none of it nothing is drawn. -/
def drawNoise (pad : UInt64) : Draw CryptoError Bytes :=
  if pad = 0 then pure [] else Draw.bytes pad.toNat

/-- A decoy is shorter than the padding, and at this place it does not reach beyond it. -/
structure Fits (length : Nat) (decoy : Bytes) (offset : Nat) : Prop where
  mem : decoy ∈ decoys
  shorter : decoy.length < length
  inside : offset + decoy.length ≤ length

/-- How padding is drawn: its noise, the decoy that is laid over it and where, if any is, what comes
of both, and what is left of the supply. -/
inductive Drawn (pad : UInt64) (e : Entropy) :
    (noise : Bytes) → (laid : Option (Bytes × Nat)) → (padding : Bytes) → (e' : Entropy) → Prop
  /-- For short padding no decoy is chosen. -/
  | short {noise : Bytes} {e' : Entropy} (hpad : pad.toNat ≤ decoyThreshold)
      (hnoise : drawNoise pad e = .ok (noise, e')) : Drawn pad e noise none noise e'
  /-- The decoy that is chosen would leave no noise. -/
  | crowded {noise decoy : Bytes} {choice : UInt64} {e₁ e' : Entropy}
      (hpad : decoyThreshold < pad.toNat) (hnoise : drawNoise pad e = .ok (noise, e₁))
      (hchoice : Draw.below decoys.length.toUInt64 e₁ = .ok (choice, e'))
      (hdecoy : decoys[choice.toNat]? = some decoy) (hlong : pad.toNat ≤ decoy.length) :
      Drawn pad e noise none noise e'
  /-- The decoy that is chosen is laid over the noise at a place that is drawn. -/
  | covered {noise decoy : Bytes} {choice offset : UInt64} {e₁ e₂ e' : Entropy}
      (hpad : decoyThreshold < pad.toNat) (hnoise : drawNoise pad e = .ok (noise, e₁))
      (hchoice : Draw.below decoys.length.toUInt64 e₁ = .ok (choice, e₂))
      (hdecoy : decoys[choice.toNat]? = some decoy) (hshort : decoy.length < pad.toNat)
      (hoffset : Draw.below (pad.toNat - decoy.length + 1).toUInt64 e₂ = .ok (offset, e')) :
      Drawn pad e noise (some (decoy, offset.toNat)) (noise.overwrite offset.toNat decoy) e'

/-! ## The catalogue -/

theorem length_pos_of_mem_decoys (h : decoy ∈ decoys) : 0 < decoy.length := by
  obtain ⟨text, htext, rfl⟩ := List.mem_map.1 h
  have hall : ∀ text ∈ decoyTexts, 0 < text.utf8ByteSize := by decide
  rw [Bytes.length_ofString]
  exact hall text htext

/-- Whatever number is drawn, a decoy goes by it. -/
theorem exists_decoy {choice : UInt64}
    (h : Draw.below decoys.length.toUInt64 e = .ok (choice, e')) :
    ∃ decoy, decoys[choice.toNat]? = some decoy ∧ decoys.getD choice.toNat [] = decoy := by
  have hlt : choice.toNat < decoys.length := Draw.below_lt h
  exact ⟨decoys[choice.toNat], List.getElem?_eq_getElem hlt, List.getD_eq_getElem _ _ hlt⟩

/-- So many places are left beside a decoy. -/
theorem toNat_places (hmem : decoy ∈ decoys) (hshort : decoy.length < pad.toNat) :
    (pad.toNat - decoy.length + 1).toUInt64.toNat = pad.toNat - decoy.length + 1 := by
  have hpos := length_pos_of_mem_decoys hmem
  have hpad := pad.toNat_lt
  rw [Nat.toUInt64_eq, UInt64.toNat_ofNat_of_lt']
  show _ < 18446744073709551616
  omega

/-! ## How padding is drawn -/

theorem length_drawNoise (h : drawNoise pad e = .ok (noise, e')) : noise.length = pad.toNat := by
  unfold drawNoise at h
  split at h
  · rename_i hz
    obtain ⟨rfl, -⟩ := Prod.mk.inj (Except.ok.inj h)
    rw [hz]
    rfl
  · exact Draw.length_bytes h

/-- **A decoy ends with the padding or before.** -/
theorem Drawn.fits (h : Drawn pad e noise (some (decoy, offset)) padding e') :
    Fits pad.toNat decoy offset := by
  cases h with
  | covered _ _ _ hdecoy hshort hoffset =>
    have hmem := List.mem_of_getElem? hdecoy
    have hlt := Draw.below_lt hoffset
    rw [toNat_places hmem hshort] at hlt
    exact ⟨hmem, hshort, by omega⟩

/-- What is drawn is the noise, or the noise with a decoy over it. -/
theorem Drawn.padding_eq (h : Drawn pad e noise laid padding e') :
    padding = match laid with
      | none => noise
      | some (decoy, offset) => noise.overwrite offset decoy := by
  cases h <;> rfl

theorem Drawn.length_noise (h : Drawn pad e noise laid padding e') : noise.length = pad.toNat := by
  cases h with
  | short _ hnoise | crowded _ hnoise | covered _ hnoise => exact length_drawNoise hnoise

/-- A decoy makes padding neither longer nor shorter. -/
theorem Drawn.length_padding (h : Drawn pad e noise laid padding e') :
    padding.length = pad.toNat := by
  rw [h.padding_eq]
  cases laid with
  | none => exact h.length_noise
  | some place =>
    obtain ⟨decoy, offset⟩ := place
    have hinside := h.fits.inside
    rw [← h.length_noise] at hinside ⊢
    exact Bytes.length_overwrite _ _ _ hinside

/-- For no padding it is the same whether noise is drawn: there is none of it. -/
theorem drawTail_eq (pad : UInt64) :
    drawTail pad = (do
      let noise ← drawNoise pad
      if pad.toNat ≤ decoyThreshold then return noise
      let decoy := decoys.getD (← Draw.below decoys.length.toUInt64).toNat []
      if pad.toNat ≤ decoy.length then return noise
      let offset ← Draw.below (pad.toNat - decoy.length + 1).toUInt64
      return noise.overwrite offset.toNat decoy) := by
  by_cases hz : pad = 0
  · subst hz
    rfl
  · rw [drawTail, if_neg hz, drawNoise, if_neg hz]
    rfl

theorem exists_drawn_of_drawTail (h : drawTail pad e = .ok (padding, e')) :
    ∃ noise laid, Drawn pad e noise laid padding e' := by
  rw [drawTail_eq] at h
  obtain ⟨noise, e₁, hnoise, h⟩ := Draw.bind_eq_ok.1 h
  split at h
  · rename_i hpad
    obtain ⟨rfl, rfl⟩ := Prod.mk.inj (Except.ok.inj h)
    exact ⟨noise, none, .short hpad hnoise⟩
  · rename_i hpad
    have hpad := Nat.not_le.1 hpad
    obtain ⟨choice, e₂, hchoice, h⟩ := Draw.bind_eq_ok.1 h
    obtain ⟨decoy, hdecoy, hget⟩ := exists_decoy hchoice
    rw [hget] at h
    split at h
    · rename_i hlong
      obtain ⟨rfl, rfl⟩ := Prod.mk.inj (Except.ok.inj h)
      exact ⟨noise, none, .crowded hpad hnoise hchoice hdecoy hlong⟩
    · rename_i hshort
      obtain ⟨offset, e₃, hoffset, h⟩ := Draw.bind_eq_ok.1 h
      obtain ⟨rfl, rfl⟩ := Prod.mk.inj (Except.ok.inj h)
      exact ⟨noise, _, .covered hpad hnoise hchoice hdecoy (Nat.not_le.1 hshort) hoffset⟩

theorem Drawn.drawTail (h : Drawn pad e noise laid padding e') :
    drawTail pad e = .ok (padding, e') := by
  rw [drawTail_eq]
  cases h with
  | short hpad hnoise =>
    rw [Draw.bind_of_ok hnoise, if_pos hpad]
    rfl
  | crowded hpad hnoise hchoice hdecoy hlong =>
    obtain ⟨decoy', hdecoy', hget⟩ := exists_decoy hchoice
    obtain rfl := Option.some.inj (hdecoy.symm.trans hdecoy')
    rw [Draw.bind_of_ok hnoise, if_neg (Nat.not_le.2 hpad), Draw.bind_of_ok hchoice, hget,
      if_pos hlong]
    rfl
  | covered hpad hnoise hchoice hdecoy hshort hoffset =>
    obtain ⟨decoy', hdecoy', hget⟩ := exists_decoy hchoice
    obtain rfl := Option.some.inj (hdecoy.symm.trans hdecoy')
    rw [Draw.bind_of_ok hnoise, if_neg (Nat.not_le.2 hpad), Draw.bind_of_ok hchoice, hget,
      if_neg (Nat.not_le.2 hshort), Draw.bind_of_ok hoffset]
    rfl

/-- **Padding is drawn in these ways**, and in no other; behind it nothing more is drawn for a
text. -/
theorem layout_drawTail_eq_ok_iff {data padded : Bytes} :
    (do return layout data (← drawTail pad)) e = .ok (padded, e') ↔
      ∃ noise laid padding, Drawn pad e noise laid padding e' ∧ padded = layout data padding := by
  rw [Draw.bind_eq_ok]
  constructor
  · rintro ⟨padding, e₁, htail, h⟩
    obtain ⟨rfl, rfl⟩ := Prod.mk.inj (Except.ok.inj h)
    obtain ⟨noise, laid, hdrawn⟩ := exists_drawn_of_drawTail htail
    exact ⟨noise, laid, padding, hdrawn, rfl⟩
  · rintro ⟨noise, laid, padding, hdrawn, rfl⟩
    exact ⟨padding, e', hdrawn.drawTail, rfl⟩

/-! ## What occurs -/

theorem exists_word {n : Nat} (h : n < 2 ^ 64) : ∃ w : UInt64, w.toNat = n :=
  ⟨UInt64.ofNat n, UInt64.toNat_ofNat_of_lt' h⟩

/-- A supply that begins with the noise, and goes on with the numbers of a decoy and of a place,
lays that decoy over that noise at that place. -/
theorem exists_drawn (hpad : decoyThreshold < pad.toNat) (hnoise : noise.length = pad.toNat)
    (h : Fits pad.toNat decoy offset) :
    ∃ e e', Drawn pad e noise (some (decoy, offset)) (noise.overwrite offset decoy) e' := by
  obtain ⟨i, hdecoy⟩ := List.mem_iff_getElem?.1 h.mem
  obtain ⟨hi, -⟩ := List.getElem?_eq_some_iff.1 hdecoy
  have hplaces := toNat_places h.mem h.shorter
  have hshort := h.shorter
  have hinside := h.inside
  have hpadLt := pad.toNat_lt
  have hdecoys : decoys.length = 8 := rfl
  have hone : (1 : UInt64).toNat = 1 := rfl
  obtain ⟨choice, rfl⟩ := exists_word (n := i) (by omega)
  obtain ⟨place, rfl⟩ := exists_word (n := offset) (by omega)
  obtain ⟨e, hholds⟩ : ∃ e : Entropy, e.Holds (noise ++
      (Bytes.littleEndian 8 choice.toNat ++ (Bytes.littleEndian 8 place.toNat ++ []))) :=
    ⟨_, Entropy.holds_ofBytes _⟩
  obtain ⟨e₁, htake, hholds⟩ := hholds.take
  obtain ⟨e₂, hword, hholds⟩ := hholds.word
  obtain ⟨e₃, hword', -⟩ := hholds.word
  have hne : pad ≠ 0 := by
    rintro rfl
    exact absurd hpad (by decide)
  have hbytes : drawNoise pad e = .ok (noise, e₁) := by
    rw [drawNoise, if_neg hne, ← hnoise]
    exact Draw.ofTake_eq_ok.2 htake
  have hchoice : Draw.below decoys.length.toUInt64 e₁ = .ok (choice, e₂) :=
    Draw.ofTake_eq_ok.2 (Entropy.below_of_word (by decide) (UInt64.lt_iff_toNat_lt.2 hi) hword)
  have hplace : Draw.below (pad.toNat - decoy.length + 1).toUInt64 e₂ = .ok (place, e₃) := by
    refine Draw.ofTake_eq_ok.2 (Entropy.below_of_word ?_ ?_ hword')
    · rw [UInt64.lt_iff_toNat_lt, hplaces, hone]
      omega
    · rw [UInt64.lt_iff_toNat_lt, hplaces]
      omega
  exact ⟨e, e₃, .covered hpad hbytes hchoice hdecoy hshort hplace⟩

/-- **All decoys that are shorter than long padding occur, at all their places**, and no others. -/
theorem exists_drawn_iff (hnoise : noise.length = pad.toNat) :
    (∃ e e', Drawn pad e noise (some (decoy, offset)) (noise.overwrite offset decoy) e') ↔
      decoyThreshold < pad.toNat ∧ Fits pad.toNat decoy offset := by
  constructor
  · rintro ⟨e, e', h⟩
    refine ⟨?_, h.fits⟩
    cases h
    assumption
  · rintro ⟨hpad, h⟩
    exact exists_drawn hpad hnoise h

/-! ## Padded texts -/

/-- A text that is written into a buffer of the right length. -/
theorem fill_eq_ok_iff {data out padded : Bytes}
    (hout : out.length = headerLength + data.length + pad.toNat) :
    fill data pad.toNat out e = .ok (padded, e') ↔
      ∃ noise laid padding, Drawn pad e noise laid padding e' ∧ padded = layout data padding := by
  rw [fill_eq data pad hout]
  exact layout_drawTail_eq_ok_iff

/-- A text that is padded, in a scratch buffer or apart from it. -/
theorem encodeInto_eq_ok_iff {data padded : Bytes} (hd : data.length ≤ maxPayload) {o : Obfuscation}
    (scratch : Bytes) {e₁ : Entropy} (hpad : drawLength o e = .ok (pad, e₁)) :
    (Placed.bytes <$> encodeInto data o scratch) e = .ok (padded, e') ↔
      ∃ noise laid padding, Drawn pad e₁ noise laid padding e' ∧ padded = layout data padding := by
  rw [encodeInto_eq hd, Draw.forTunnel_eq_ok, draw, Draw.bind_of_ok hpad]
  exact layout_drawTail_eq_ok_iff

/-- **Decoys stay inside the padding.** Whatever is drawn, a padded text is its length, the text and
as many bytes of padding as it was to have: noise, over which a decoy may lie that is shorter than
the padding and ends with it or before. Up to twelve bytes of padding are noise; in longer padding
every decoy that is shorter occurs at every place where it fits, over any noise. Drawing fails with
nothing but an empty supply. -/
theorem decoys_stay_inside (pad : UInt64) :
    (∀ (data out padded : Bytes) (e e' : Entropy),
      out.length = headerLength + data.length + pad.toNat →
      (fill data pad.toNat out e = .ok (padded, e') ↔
        ∃ noise laid padding, Drawn pad e noise laid padding e' ∧ padded = layout data padding)) ∧
    (∀ (data padded scratch : Bytes) (o : Obfuscation) (e e₁ e' : Entropy), data.length ≤ 65535 →
      drawLength o e = .ok (pad, e₁) →
      ((Placed.bytes <$> encodeInto data o scratch) e = .ok (padded, e') ↔
        ∃ noise laid padding, Drawn pad e₁ noise laid padding e' ∧
          padded = layout data padding)) ∧
    (∀ e noise laid padding e', Drawn pad e noise laid padding e' →
      noise.length = pad.toNat ∧ padding.length = pad.toNat ∧
      (pad.toNat ≤ 12 → laid = none) ∧ (laid = none → padding = noise) ∧
      ∀ decoy offset, laid = some (decoy, offset) → offset ≤ pad.toNat - decoy.length ∧
        padding = noise.take offset ++ decoy ++ noise.drop (offset + decoy.length)) ∧
    (∀ noise decoy offset, noise.length = pad.toNat →
      ((∃ e e', Drawn pad e noise (some (decoy, offset)) (noise.overwrite offset decoy) e') ↔
        12 < pad.toNat ∧ decoy ∈ decoys ∧ decoy.length < pad.toNat ∧
          offset ≤ pad.toNat - decoy.length)) ∧
    ∀ data out e err, fill data pad.toNat out e = .error err → err = .noEntropy := by
  refine ⟨?_, ?_, ?_, ?_, ?_⟩
  · intro data out padded e e' hout
    exact fill_eq_ok_iff hout
  · intro data padded scratch o e e₁ e' hd hpad
    exact encodeInto_eq_ok_iff hd scratch hpad
  · intro e noise laid padding e' h
    refine ⟨h.length_noise, h.length_padding, ?_, ?_, ?_⟩
    · intro hpad
      cases h with
      | short | crowded => rfl
      | covered hlong => exact absurd hpad (Nat.not_le.2 hlong)
    · rintro rfl
      exact h.padding_eq
    · rintro decoy offset rfl
      have hinside := h.fits.inside
      exact ⟨by omega, h.padding_eq⟩
  · intro noise decoy offset hnoise
    rw [exists_drawn_iff hnoise]
    constructor
    · rintro ⟨hlong, hmem, hshort, hinside⟩
      exact ⟨hlong, hmem, hshort, by omega⟩
    · rintro ⟨hlong, hmem, hshort, hinside⟩
      exact ⟨hlong, hmem, hshort, by omega⟩
  · intro data out e err h
    exact (plain_fill data pad.toNat out).onlyDry e err h

/-- A decoy that ends with the padding, behind fourteen bytes of noise. -/
theorem decoys_stay_inside_host :
    let noise : Bytes := List.replicate 20 7
    let host := Bytes.ofString "Host: "
    let o : Obfuscation := ⟨true, 20, 20, 0, 0⟩
    host ∈ decoys ∧ ∃ e e',
      fill [1, 2, 3] 20 (Bytes.zeros 25) e = .ok ([0, 3, 1, 2, 3] ++ noise.take 14 ++ host, e') ∧
      (Placed.bytes <$> encodeInto [1, 2, 3] o []) e =
        .ok ([0, 3, 1, 2, 3] ++ noise.take 14 ++ host, e') := by
  intro noise host o
  have hmem : host ∈ decoys := List.mem_map_of_mem (by decide)
  obtain ⟨hfill, hencode, hdrawn, hoccurs, -⟩ := decoys_stay_inside 20
  have hlength : host.length = 6 := Bytes.length_ofString _
  obtain ⟨e, e', h⟩ := (hoccurs noise host 14 rfl).2
    ⟨by decide, hmem, by rw [hlength]; decide, by rw [hlength]; decide⟩
  obtain ⟨-, -, -, -, hplace⟩ := hdrawn _ _ _ _ _ h
  have hpadding := (hplace host 14 rfl).2
  rw [hlength, List.drop_of_length_le (Nat.le_refl 20), List.append_nil] at hpadding
  rw [hpadding] at h
  refine ⟨hmem, e, e', (hfill _ _ _ _ _ rfl).2 ⟨_, _, _, h, ?_⟩,
    (hencode _ _ _ o _ e _ (by decide) rfl).2 ⟨_, _, _, h, ?_⟩⟩
  · rfl
  · rfl

end SealedTunnel.Padding
