import SealedTunnel.Proofs.Frame.Body

/-!
# Compression loses nothing and never expands too far

With any coder that keeps its word, every chunk up to the limit has a body of at most one byte more,
the same over every scratch buffer, from which it is found again. And whatever body comes in, what
it decodes to is what stands behind the one marker, or what a block behind the other declares, which
is never more than a frame carries.

## Main results

* `Body.decodeWith_cases`: what any body whatsoever decodes to
* `Body.compresses_and_expands`: both directions, and their limits
-/

namespace SealedTunnel.Body

variable {k : BlockCoder} {data : Bytes}

theorem encodeWith_of_long (k : BlockCoder) (h : maxChunk < data.length) (scratch : Bytes) :
    encodeWith k data scratch = .error (.chunkTooLong data.length maxChunk) := by
  rw [encodeWith, if_pos h]

theorem decodeWith_of_unknown (k : BlockCoder) {marker : UInt8} (hstored : marker ≠ storedMarker)
    (hsnappy : marker ≠ snappyMarker) (rest : Bytes) :
    decodeWith k (marker :: rest) = .error (.unknownMarker marker) := by
  rw [decodeWith, if_neg hstored, if_neg hsnappy]

/-- **Whatever body comes in**, it is refused, or it decodes to what stands behind the one marker or
to what the block behind the other declares. -/
theorem decodeWith_cases (hk : k.Lawful) (body : Bytes) :
    (∃ fault, decodeWith k body = .error fault) ∨
    (∃ rest, body = storedMarker :: rest ∧ decodeWith k body = .ok rest) ∨
    ∃ block data, body = snappyMarker :: block ∧ decodeWith k body = .ok data ∧
      k.declaredLength? block = some data.length ∧ data.length ≤ maxFramePayload := by
  cases h : decodeWith k body with
  | error fault => exact .inl ⟨fault, rfl⟩
  | ok data =>
    rcases (decodeWith_eq_ok hk).1 h with rfl | ⟨block, rfl, hblock, hlen⟩
    · exact .inr (.inl ⟨data, rfl, rfl⟩)
    · exact .inr (.inr ⟨block, data, rfl, rfl, hk.declares _ _ hblock, hlen⟩)

/-- The body of a chunk has the one form or the other. -/
theorem choose_cases (block data : Bytes) :
    (choose block data = snappyMarker :: block ∧ block.length < data.length) ∨
      choose block data = storedMarker :: data := by
  unfold choose
  split
  · rename_i hshort
    exact .inl ⟨rfl, hshort⟩
  · exact .inr rfl

/-- **The compression codec**, with any coder that keeps its word: a chunk that is not too long has
one body, not much longer than itself and the same over every scratch buffer, and is found again in
it; a body that comes from anywhere is refused or gives what it holds, in the limits of a frame. -/
theorem compresses_and_expands (k : BlockCoder) (hk : k.Lawful) :
    (∀ data : Bytes, data.length ≤ 65534 → ∃ body,
      body.length ≤ data.length + 1 ∧ body.length ≤ 65535 ∧
      ((∃ block, body = snappyMarker :: block ∧ block.length < data.length ∧
          k.decompress? block = some data) ∨ body = storedMarker :: data) ∧
      decodeWith k body = .ok data ∧
      ∀ scratch, encodeWith k data scratch = .ok ⟨body,
        decide (1 + max (k.maxLength data.length) data.length ≤ scratch.length)⟩) ∧
    (∀ data scratch : Bytes, 65534 < data.length →
      encodeWith k data scratch = .error (.chunkTooLong data.length 65534)) ∧
    (∀ body : Bytes,
      (∃ fault, decodeWith k body = .error fault) ∨
      (∃ rest, body = storedMarker :: rest ∧ decodeWith k body = .ok rest) ∨
      ∃ block data, body = snappyMarker :: block ∧ decodeWith k body = .ok data ∧
        k.declaredLength? block = some data.length ∧ data.length ≤ 65535) ∧
    decodeWith k [] = .error .emptyBody ∧
    (∀ rest, decodeWith k (storedMarker :: rest) = .ok rest) ∧
    (∀ marker rest, marker ≠ storedMarker → marker ≠ snappyMarker →
      decodeWith k (marker :: rest) = .error (.unknownMarker marker)) ∧
    (∀ block n, k.declaredLength? block = some n → 65535 < n →
      decodeWith k (snappyMarker :: block) = .error (.expandsTooFar n 65535)) := by
  refine ⟨?_, fun data scratch h => encodeWith_of_long k h scratch, decodeWith_cases hk, rfl, ?_,
    fun marker rest h h' => decodeWith_of_unknown k h h' rest, fun block n => decodeWith_of_lt⟩
  · intro data h
    obtain ⟨block, hblock, hbody⟩ := exists_body hk h
    have hlen := length_choose_le block data
    refine ⟨choose block data, hlen, by omega, ?_, decodeWith_choose hk hblock ?_, hbody⟩
    · rcases choose_cases block data with ⟨hform, hshort⟩ | hform
      · exact .inl ⟨block, hform, hshort, hblock⟩
      · exact .inr hform
    · exact Nat.le_succ_of_le h
  · intro rest
    exact (decodeWith_eq_ok hk).2 (.inl rfl)

/-- With Snappy blocks, a chunk of three bytes is stored over any scratch buffer, and a body that
promises a mebibyte is refused. -/
theorem compresses_and_expands_snappy :
    Snappy.coder.Lawful ∧
      (∀ scratch, ∃ inScratch, encodeInto [5, 6, 7] scratch = .ok ⟨[0, 5, 6, 7], inScratch⟩) ∧
      decode [0, 5, 6, 7] = .ok [5, 6, 7] ∧
      decode [1, 128, 128, 64] = .error (.expandsTooFar 1048576 65535) := by
  have hlaw := Snappy.lawful_coder
  obtain ⟨hencode, -, -, -, -, -, hbomb⟩ := compresses_and_expands Snappy.coder hlaw
  obtain ⟨body, -, -, -, hdecode, hbody⟩ := hencode [5, 6, 7] (by decide)
  have hstored : encodeWith Snappy.coder [5, 6, 7] [] = .ok ⟨[0, 5, 6, 7], false⟩ := rfl
  obtain ⟨rfl, -⟩ := Placed.mk.inj (Except.ok.inj ((hbody []).symm.trans hstored))
  refine ⟨hlaw, fun scratch => ⟨_, hbody scratch⟩, hdecode, ?_⟩
  exact hbomb [128, 128, 64] 1048576 (by decide) (by decide)

end SealedTunnel.Body
