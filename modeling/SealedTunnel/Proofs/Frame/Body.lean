import SealedTunnel.Frame.Compression
import SealedTunnel.Frame.Header
import SealedTunnel.Proofs.Bytes
import SealedTunnel.Proofs.Snappy.RoundTrip
import SealedTunnel.Proofs.Snappy.Size

/-!
# Headers and bodies are read back

The body of a chunk is a function of the chunk: which buffer it was built in does not show. It is at
most one byte longer than the chunk, which decoding gives back. A header holds exactly the lengths
that a frame may have.

## Main definitions

* `BlockCoder.Lawful`: what is relied on of a coder of blocks
* `Body.choose`, `Body.ofChunk`: the body of a chunk, without a buffer

## Main results

* `Snappy.lawful_coder`: the coder in use keeps its word
* `Body.encodeWith_eq`, `Body.encodeInto_eq`: the buffer does not matter
* `Body.decodeWith_eq_ok`: which bodies decode to a chunk
* `Body.decode_ofChunk`: decoding gives the chunk back
* `Body.decodeVia_of_lt`, `Body.length_le_of_decode`: no chunk is longer than a frame carries
* `Header.decode_bigEndian`: a header declares the length it was made for
-/

namespace SealedTunnel

/-- What is relied on of a coder: every text that is not too long has a block, which is written at
the start of any buffer that is as long as it may become, and expands to the text; and what a block
expands to has the length that it declares. -/
structure BlockCoder.Lawful (k : BlockCoder) : Prop where
  encodes : ∀ data : Bytes, data.length < 2 ^ 32 → ∃ block : Bytes,
    block.length ≤ k.maxLength data.length ∧ k.decompress? block = some data ∧
      ∀ out : Bytes, k.maxLength data.length ≤ out.length →
        ∃ rest, k.compressOver data out = .ok (block ++ rest, block.length) ∧
          (block ++ rest).length = out.length
  declares : ∀ block data, k.decompress? block = some data →
    k.declaredLength? block = some data.length

namespace Snappy

theorem compressOver_coder {data out : Bytes} (h : Block.maxLength data.length ≤ out.length) :
    coder.compressOver data out =
      .ok (Block.compress data ++ out.drop (Block.compress data).length,
        (Block.compress data).length) := by
  unfold coder
  dsimp only
  rw [if_neg (Nat.not_lt.2 h), Bytes.overwrite_zero]

/-- **The coder of Snappy blocks is one.** -/
theorem lawful_coder : coder.Lawful where
  encodes := by
    intro data hd
    refine ⟨Block.compress data, Block.length_compress_le data, Block.decompress?_compress hd, ?_⟩
    intro out hout
    refine ⟨_, compressOver_coder hout, ?_⟩
    have hfits := Nat.le_trans (Block.length_compress_le data) hout
    rw [List.length_append, List.length_drop]
    omega
  declares := fun _ _ => Block.declaredLength?_of_decompress?

end Snappy

namespace Body

/-! ## By any coder -/

/-- The body of a chunk with the given block. -/
def choose (block data : Bytes) : Bytes :=
  if block.length < data.length then snappyMarker :: block else storedMarker :: data

theorem length_choose_le (block data : Bytes) : (choose block data).length ≤ data.length + 1 := by
  unfold choose
  split
  · rw [List.length_cons]
    omega
  · exact Nat.le_refl _

variable {k : BlockCoder} {block data : Bytes}

/-- Whatever the coder leaves behind its block, nothing of it is in the body. -/
theorem fill_eq {out rest : Bytes} (hout : 0 < out.length)
    (h : k.compressOver data (out.drop markerLength) = .ok (block ++ rest, block.length)) :
    fill k data out = .ok (choose block data) := by
  have hfirst : (out.take markerLength).length = 1 := by
    rw [List.length_take, markerLength]
    omega
  have hmarked (marker : UInt8) :
      (Bytes.overwrite (out.take markerLength ++ (block ++ rest)) 0 [marker]) =
        marker :: (block ++ rest) := by
    rw [Bytes.overwrite_zero, List.length_singleton, List.drop_left' hfirst]
    rfl
  unfold fill choose
  rw [h]
  simp only [hmarked]
  split
  · rw [markerLength, Nat.add_comm, List.take_succ_cons, List.take_left]
  · rw [Bytes.overwrite, markerLength, List.take_succ_cons, List.take_zero, List.append_assoc,
      List.singleton_append, Nat.add_comm 1, List.take_succ_cons, List.take_left]

/-- **The scratch buffer of a body does not matter**, but for where the body is. -/
theorem encodeWith_eq (h : data.length ≤ maxChunk)
    (hover : ∀ out : Bytes, k.maxLength data.length ≤ out.length →
      ∃ rest, k.compressOver data out = .ok (block ++ rest, block.length)) (scratch : Bytes) :
    encodeWith k data scratch = .ok ⟨choose block data,
      decide (markerLength + max (k.maxLength data.length) data.length ≤ scratch.length)⟩ := by
  have hroom := Placed.length_room scratch
    (markerLength + max (k.maxLength data.length) data.length)
  have hlong : k.maxLength data.length ≤ ((Placed.room scratch
      (markerLength + max (k.maxLength data.length) data.length)).bytes.drop
        markerLength).length := by
    rw [List.length_drop, hroom]
    omega
  obtain ⟨rest, hrest⟩ := hover _ hlong
  have hpos : 0 < (Placed.room scratch
      (markerLength + max (k.maxLength data.length) data.length)).bytes.length := by
    rw [hroom, markerLength]
    omega
  rw [encodeWith, if_neg (Nat.not_lt.2 h)]
  simp only [fill_eq hpos hrest, Except.map, Placed.inScratch_room]

/-- Every chunk that may be compressed has a body, whatever the scratch buffer. -/
theorem exists_body (hk : k.Lawful) (h : data.length ≤ maxChunk) :
    ∃ block, k.decompress? block = some data ∧ ∀ scratch, encodeWith k data scratch =
      .ok ⟨choose block data,
        decide (markerLength + max (k.maxLength data.length) data.length ≤ scratch.length)⟩ := by
  have hmax : maxChunk = 65534 := rfl
  obtain ⟨block, -, hblock, hover⟩ := hk.encodes data (by omega)
  refine ⟨block, hblock, encodeWith_eq h fun out hout => ?_⟩
  obtain ⟨rest, hrest, -⟩ := hover out hout
  exact ⟨rest, hrest⟩

/-- **What decodes to a chunk**: the chunk behind the one marker, or a block of it behind the other
if a frame carries so much. -/
theorem decodeWith_eq_ok (hk : k.Lawful) {body : Bytes} :
    decodeWith k body = .ok data ↔
      body = storedMarker :: data ∨ ∃ block, body = snappyMarker :: block ∧
        k.decompress? block = some data ∧ data.length ≤ maxFramePayload := by
  have hne : snappyMarker ≠ storedMarker := by decide
  constructor
  · intro h
    unfold decodeWith at h
    split at h
    · cases h
    · rename_i marker rest
      split at h
      · rename_i hmarker
        obtain rfl := Except.ok.inj h
        exact .inl (hmarker ▸ rfl)
      · split at h
        · rename_i hmarker
          split at h
          · cases h
          · rename_i n hn
            split at h
            · cases h
            · rename_i hsmall
              split at h
              · cases h
              · rename_i contents hcontents
                obtain rfl := Except.ok.inj h
                obtain rfl := Option.some.inj (hn.symm.trans (hk.declares _ _ hcontents))
                exact .inr ⟨rest, hmarker ▸ rfl, hcontents, Nat.not_lt.1 hsmall⟩
        · cases h
  · rintro (rfl | ⟨block, rfl, hblock, hlen⟩)
    · rw [decodeWith, if_pos rfl]
    · rw [decodeWith, if_neg hne, if_pos rfl, hk.declares _ _ hblock]
      simp only [if_neg (Nat.not_lt.2 hlen), hblock]

/-- Decoding gives the chunk back. -/
theorem decodeWith_choose (hk : k.Lawful) (hblock : k.decompress? block = some data)
    (h : data.length ≤ maxFramePayload) : decodeWith k (choose block data) = .ok data := by
  unfold choose
  split
  · exact (decodeWith_eq_ok hk).2 (.inr ⟨block, rfl, hblock, h⟩)
  · exact (decodeWith_eq_ok hk).2 (.inl rfl)

/-- **A block that declares more than a frame carries is refused.** -/
theorem decodeWith_of_lt {n : Nat} (hn : k.declaredLength? block = some n)
    (hlarge : maxFramePayload < n) :
    decodeWith k (snappyMarker :: block) = .error (.expandsTooFar n maxFramePayload) := by
  have hne : snappyMarker ≠ storedMarker := by decide
  rw [decodeWith, if_neg hne, if_pos rfl, hn]
  exact if_pos hlarge

/-! ## By the coder in use -/

/-- The body of a chunk: the block behind its marker where that is shorter, else the chunk. -/
def ofChunk (data : Bytes) : Bytes :=
  if (Snappy.Block.compress data).length < data.length then
    snappyMarker :: Snappy.Block.compress data
  else storedMarker :: data

theorem ofChunk_ne_nil (data : Bytes) : ofChunk data ≠ [] := by
  unfold ofChunk
  split <;> exact List.cons_ne_nil _ _

theorem length_ofChunk_le (data : Bytes) : (ofChunk data).length ≤ data.length + 1 :=
  length_choose_le _ data

/-- **The scratch buffer of a body does not matter.** -/
theorem encodeInto_eq {data : Bytes} (h : data.length ≤ maxChunk) (scratch : Bytes) :
    ∃ inScratch, encodeInto data scratch = .ok ⟨ofChunk data, inScratch⟩ :=
  ⟨_, encodeWith_eq h (fun _ hout => ⟨_, Snappy.compressOver_coder hout⟩) scratch⟩

/-- **Decoding gives the chunk back.** -/
theorem decode_ofChunk {data : Bytes} (h : data.length ≤ maxFramePayload) :
    decode (ofChunk data) = .ok data := by
  have hd : data.length < 2 ^ 32 := by
    rw [maxFramePayload] at h
    omega
  exact decodeWith_choose Snappy.lawful_coder (Snappy.Block.decompress?_compress hd) h

/-- A block that declares more than a frame carries is refused however blocks are expanded: its
contents are never asked for. -/
theorem decodeVia_of_lt (expand? : Bytes → Option Bytes) {block : Bytes} {n : Nat}
    (hn : Snappy.Block.declaredLength? block = some n) (hlarge : maxFramePayload < n) :
    decodeVia expand? (snappyMarker :: block) = .error (.expandsTooFar n maxFramePayload) :=
  decodeWith_of_lt hn hlarge

/-- What a body of a frame holds is not longer than a frame carries. -/
theorem length_le_of_decode {body data : Bytes} (hl : body.length ≤ maxFramePayload)
    (h : decode body = .ok data) : data.length ≤ maxFramePayload := by
  rcases (decodeWith_eq_ok Snappy.lawful_coder).1 h with rfl | ⟨block, -, -, hlen⟩
  · exact Nat.le_trans (Nat.le_succ _) hl
  · exact hlen

end Body

namespace Header

/-- Whether a payload of this length can stand in a frame. -/
def Fits (length : Nat) : Prop :=
  0 < length ∧ length ≤ maxLength

theorem check_of_fits {length : Nat} (h : Fits length) : check length = .ok () := by
  rw [check, if_neg (Nat.ne_of_gt h.1), if_neg (Nat.not_lt.2 h.2)]

theorem encode_eq {length : Nat} (h : Fits length) :
    encode length = .ok (Bytes.bigEndian size length) := by
  rw [encode, check_of_fits h]
  rfl

/-- **A header declares the length it was made for.** -/
theorem decode_bigEndian {length : Nat} (h : Fits length) :
    decode (Bytes.bigEndian size length) = .ok length := by
  have hl : length < 256 ^ size := by
    have := h.2
    rw [maxLength] at this
    rw [size]
    omega
  rw [decode]
  simp only [Bytes.ofBigEndian_bigEndian size length hl, check_of_fits h]
  rfl

end Header

end SealedTunnel
