import SealedTunnel.Proofs.Bytes
import SealedTunnel.Proofs.Snappy.Expansion

/-!
# Blocks are read back

The written form of every element that fits is read back, whatever follows it, and so is the length
in front. With the expansion of the elements this makes decompression undo compression.

## Main results

* `Element.readTagged?_bytes`: one element
* `Length.read?_bytes`: the length in front
* `Block.decompress?_compress`: a whole block
-/

namespace SealedTunnel.Snappy

/-! ## The length in front -/

/-- A number that fits in `width` groups is read back, whatever follows it. -/
theorem Length.read?_bytes (width n : Nat) (rest : Bytes) (h : n < 128 ^ width) (hw : 0 < width) :
    Length.read? width (Length.bytes width n ++ rest) = some (n, rest) := by
  induction width generalizing n with
  | zero => contradiction
  | succ width ih =>
    rw [Length.bytes]
    split
    · rename_i hn
      have hb : n.toUInt8.toNat = n := by
        rw [Nat.toUInt8_eq, UInt8.toNat_ofNat']
        omega
      have hlt : n.toUInt8 < 128 := by
        rw [UInt8.lt_iff_toNat_lt, hb]
        exact hn
      rw [List.singleton_append, Length.read?, if_pos hlt, hb]
    · rename_i hn
      have hb : (n % 128 + 128).toUInt8.toNat = n % 128 + 128 := by
        rw [Nat.toUInt8_eq, UInt8.toNat_ofNat']
        omega
      have hge : ¬ (n % 128 + 128).toUInt8 < 128 := by
        rw [UInt8.lt_iff_toNat_lt, hb]
        exact Nat.not_lt.2 (Nat.le_add_left ..)
      have hdiv : n / 128 < 128 ^ width := by
        rw [Nat.pow_succ] at h
        exact Nat.div_lt_of_lt_mul (by omega)
      have hpos : 0 < width := by
        rcases Nat.eq_zero_or_pos width with rfl | hp
        · simp only [Nat.zero_add, Nat.pow_one] at h
          omega
        · exact hp
      rw [List.cons_append, Length.read?, if_neg hge, ih _ hdiv hpos, hb]
      simp only [Option.map_some, Nat.add_mod_right, Nat.mod_mod]
      rw [Nat.mod_add_div]

namespace Element

/-! ## One element -/

theorem readLiteral?_append (data rest : Bytes) :
    readLiteral? data.length (data ++ rest) = some (.literal data, rest) := by
  simp only [readLiteral?, List.take_left, List.drop_left, ↓reduceIte]

theorem readCopy?_append (width base length offset : Nat) (rest : Bytes)
    (h : offset < 256 ^ width) :
    readCopy? width base length (Bytes.littleEndian width offset ++ rest) =
      some (.copy (base + offset) length, rest) := by
  have hl := Bytes.length_littleEndian width offset
  simp only [readCopy?, List.take_left' hl, List.drop_left' hl, hl, ↓reduceIte,
    Bytes.ofLittleEndian_littleEndian width offset h]

/-- A long literal: its length less one stands in `width` bytes after the tag. -/
theorem readTagged?_long {tag : UInt8} {width : Nat} (htag : tag.toNat = (59 + width) * 4)
    (hw : 0 < width) (data rest : Bytes) (hpos : 0 < data.length)
    (hd : data.length - 1 < 256 ^ width) :
    readTagged? tag (Bytes.littleEndian width (data.length - 1) ++ (data ++ rest)) =
      some (.literal data, rest) := by
  have hl := Bytes.length_littleEndian width (data.length - 1)
  have hmod : tag.toNat % 4 = 0 := by omega
  have hhigh : ¬ tag.toNat / 4 < 60 := by omega
  have hwidth : tag.toNat / 4 - 59 = width := by omega
  have hlen : data.length - 1 + 1 = data.length := by omega
  simp only [readTagged?, hmod, hhigh, hwidth, ↓reduceIte, List.take_left' hl, List.drop_left' hl,
    hl, Bytes.ofLittleEndian_littleEndian _ _ hd, hlen, readLiteral?_append]

/-- Such a literal at the end of a text needs no bytes but its own. -/
example : readTagged? 0xf0 [0x00, 0x61] = some (.literal [0x61], []) := by decide

/-- A short literal: its length less one stands in the tag. -/
theorem readTagged?_short {data : Bytes} (hpos : 0 < data.length) (hn : data.length - 1 < 60)
    (rest : Bytes) :
    readTagged? ((data.length - 1) * 4).toUInt8 (data ++ rest) = some (.literal data, rest) := by
  have htag : ((data.length - 1) * 4).toUInt8.toNat = (data.length - 1) * 4 := by
    rw [Nat.toUInt8_eq, UInt8.toNat_ofNat']
    omega
  have hmod : (data.length - 1) * 4 % 4 = 0 := by omega
  have hdiv : (data.length - 1) * 4 / 4 = data.length - 1 := by omega
  have hlen : data.length - 1 + 1 = data.length := by omega
  simp only [readTagged?, htag, hmod, hdiv, hn, ↓reduceIte, hlen]
  exact readLiteral?_append data rest

/-- A near and short copy: the tag holds the length and the high bits of the offset. -/
theorem readTagged?_near {offset length : Nat} (h4 : 4 ≤ length) (h11 : length ≤ 11)
    (hoff : offset < 2048) (rest : Bytes) :
    readTagged? (offset / 256 * 32 + (length - 4) * 4 + 1).toUInt8 (offset.toUInt8 :: rest) =
      some (.copy offset length, rest) := by
  have htag : (offset / 256 * 32 + (length - 4) * 4 + 1).toUInt8.toNat =
      offset / 256 * 32 + (length - 4) * 4 + 1 := by
    rw [Nat.toUInt8_eq, UInt8.toNat_ofNat']
    omega
  have hmod : (offset / 256 * 32 + (length - 4) * 4 + 1) % 4 = 1 := by omega
  have hbase : (offset / 256 * 32 + (length - 4) * 4 + 1) / 32 * 256 = offset / 256 * 256 := by
    omega
  have hlen : (offset / 256 * 32 + (length - 4) * 4 + 1) / 4 % 8 + 4 = length := by omega
  have hlow : offset.toUInt8 :: rest = Bytes.littleEndian 1 (offset % 256) ++ rest := by
    show _ = [(offset % 256).toUInt8] ++ rest
    rw [List.singleton_append]
    congr 1
    apply UInt8.toNat_inj.1
    rw [Nat.toUInt8_eq, Nat.toUInt8_eq, UInt8.toNat_ofNat', UInt8.toNat_ofNat']
    omega
  simp only [readTagged?, htag, hmod, hbase, hlen]
  rw [hlow, readCopy?_append _ _ _ _ _ (by omega), Nat.div_add_mod']

/-- Every other copy: the tag holds the length, and the offset stands in two bytes after it. -/
theorem readTagged?_far {offset length : Nat} (hoff : offset < 2 ^ 16) (hpos : 0 < length)
    (hmax : length ≤ 64) (rest : Bytes) :
    readTagged? ((length - 1) * 4 + 2).toUInt8 (Bytes.littleEndian 2 offset ++ rest) =
      some (.copy offset length, rest) := by
  have htag : ((length - 1) * 4 + 2).toUInt8.toNat = (length - 1) * 4 + 2 := by
    rw [Nat.toUInt8_eq, UInt8.toNat_ofNat']
    omega
  have hmod : ((length - 1) * 4 + 2) % 4 = 2 := by omega
  have hlen : ((length - 1) * 4 + 2) / 4 + 1 = length := by omega
  have hcopy := readCopy?_append 2 0 length offset rest (by omega)
  rw [Nat.zero_add] at hcopy
  simp only [readTagged?, htag, hmod, hlen]
  exact hcopy

/-- **The written form of an element that fits is read back**, whatever follows it. -/
theorem readTagged?_bytes {e : Element} (h : e.Fits) :
    ∃ tag text, e.bytes = tag :: text ∧
      ∀ rest, readTagged? tag (text ++ rest) = some (e, rest) := by
  cases e with
  | literal data =>
    obtain ⟨hpos, hmax⟩ := h
    have long (tag : UInt8) (width : Nat) (htag : tag.toNat = (59 + width) * 4) (hw : 0 < width)
        (hn : data.length - 1 < 256 ^ width) (rest : Bytes) :
        readTagged? tag (Bytes.littleEndian width (data.length - 1) ++ data ++ rest) =
          some (.literal data, rest) := by
      rw [List.append_assoc]
      exact readTagged?_long htag hw data rest hpos hn
    simp only [bytes, literalTag]
    by_cases hshort : data.length - 1 < 60
    · rw [if_pos hshort]
      exact ⟨_, data, rfl, readTagged?_short hpos hshort⟩
    rw [if_neg hshort]
    by_cases hone : data.length - 1 < 256
    · rw [if_pos hone]
      exact ⟨_, Bytes.littleEndian 1 (data.length - 1) ++ data, rfl,
        long _ 1 (by decide) (by decide) hone⟩
    rw [if_neg hone]
    by_cases htwo : data.length - 1 < 65536
    · rw [if_pos htwo]
      exact ⟨_, Bytes.littleEndian 2 (data.length - 1) ++ data, rfl,
        long _ 2 (by decide) (by decide) htwo⟩
    · rw [if_neg htwo]
      exact ⟨_, Bytes.littleEndian 4 (data.length - 1) ++ data, rfl,
        long _ 4 (by decide) (by decide) (by omega)⟩
  | copy offset length =>
    obtain ⟨ho, hpos, hmax⟩ := h
    rw [bytes]
    by_cases hnear : 4 ≤ length ∧ length ≤ 11 ∧ offset < 2048
    · rw [if_pos hnear]
      exact ⟨_, [offset.toUInt8], rfl, readTagged?_near hnear.1 hnear.2.1 hnear.2.2⟩
    · rw [if_neg hnear]
      exact ⟨_, Bytes.littleEndian 2 offset, rfl, readTagged?_far ho hpos hmax⟩

/-! ## A sequence of elements -/

theorem readAll?_bytes {es : List Element} (h : ∀ e ∈ es, e.Fits) :
    ∀ {fuel : Nat}, (es.flatMap bytes).length ≤ fuel →
      readAll? fuel (es.flatMap bytes) = some es := by
  induction es with
  | nil =>
    intro fuel _
    rw [List.flatMap_nil, readAll?]
  | cons e es ih =>
    intro fuel hf
    -- Every element has a tag, so there are no more elements than bytes.
    obtain ⟨tag, text, heq, hread⟩ := readTagged?_bytes (h e List.mem_cons_self)
    rw [List.flatMap_cons, heq, List.cons_append] at hf ⊢
    rw [List.length_cons, List.length_append] at hf
    cases fuel with
    | zero => omega
    | succ fuel =>
      rw [readAll?, hread]
      simp only
      rw [ih (fun e he => h e (List.mem_cons_of_mem _ he)) (by omega)]
      rfl

end Element

namespace Block

/-! ## A block -/

theorem header?_compress {data : Bytes} (hd : data.length < 2 ^ 32) :
    header? (compress data) = some (data.length, (elements data).flatMap Element.bytes) := by
  rw [header?, compress, Length.read?_bytes _ _ _ (by rw [lengthWidth]; omega) (by decide)]
  have hmax : maxDeclared = 4294967295 := rfl
  exact if_neg (by omega)

/-- What a block is decompressed to has the length that the block declares. -/
theorem declaredLength?_of_decompress? {block data : Bytes} (h : decompress? block = some data) :
    declaredLength? block = some data.length := by
  obtain ⟨⟨n, text⟩, hheader, h⟩ := Option.bind_eq_some_iff.1 h
  obtain ⟨elements, -, h⟩ := Option.bind_eq_some_iff.1 h
  obtain ⟨out, -, h⟩ := Option.bind_eq_some_iff.1 h
  have hne : ¬block.isEmpty = true := by
    intro hempty
    obtain rfl := List.isEmpty_iff.1 hempty
    cases hheader
  rw [declaredLength?, if_neg hne, hheader]
  split at h
  · rename_i hsize
    obtain rfl := Option.some.inj h
    rw [Array.length_toList, hsize]
    rfl
  · cases h

/-- **Decompression undoes compression.** -/
theorem decompress?_compress {data : Bytes} (hd : data.length < 2 ^ 32) :
    decompress? (compress data) = some data := by
  rw [decompress?, header?_compress hd]
  simp only [Option.bind_eq_bind, Option.bind_some]
  rw [Element.readAll?_bytes (fits_of_mem_elements hd) (Nat.le_refl _), Option.bind_some,
    expandAll?_elements hd, Option.bind_some, List.size_toArray, if_pos rfl]

end Block

end SealedTunnel.Snappy
