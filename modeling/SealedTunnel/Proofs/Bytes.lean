import Mathlib.Algebra.Group.Nat.Defs
import Mathlib.Data.List.Induction
import SealedTunnel.Bytes

/-!
# Writing over a buffer, combining bit by bit, numbers and texts

A buffer that is written over from end to end holds what was written and nothing of what it held
before. Every fact about reused buffers rests on the laws of this module.

## Main results

* `Bytes.overwrite_all`, `Bytes.overwrite_two`: a buffer filled by one write, and by two in a row
* `Bytes.xor_xor`: a keystream taken away again
* `Bytes.ofBigEndian_bigEndian`, `Bytes.ofLittleEndian_littleEndian`: a number that fits is read
  back
* `Bytes.bigEndian_ofBigEndian`: the bytes that were read are written back
* `Bytes.toString?_ofString`, `Bytes.ofString_of_toString?`: a text is read back
-/

namespace SealedTunnel.Bytes

/-! ## Overwriting -/

/-- A write that covers the whole buffer leaves nothing of it. -/
theorem overwrite_all {buf data : Bytes} (h : buf.length = data.length) :
    buf.overwrite 0 data = data := by
  rw [overwrite, List.take_zero, List.nil_append, Nat.zero_add,
    List.drop_of_length_le (Nat.le_of_eq h), List.append_nil]

/-- A write behind a part of known length leaves that part. -/
theorem overwrite_append {front back data : Bytes} {start : Nat} (hs : front.length = start)
    (h : back.length = data.length) : (front ++ back).overwrite start data = front ++ data := by
  subst hs
  have hd : (front ++ back).drop (front.length + data.length) = [] := by
    rw [← h, ← List.length_append, List.drop_length]
  rw [overwrite, List.take_left, hd, List.append_nil]

/-- A write at the start leaves what is behind it. -/
theorem overwrite_zero (buf data : Bytes) :
    buf.overwrite 0 data = data ++ buf.drop data.length := by
  rw [overwrite, List.take_zero, List.nil_append, Nat.zero_add]

/-- A buffer filled by two writes in a row holds the two. -/
theorem overwrite_two {buf first second : Bytes} {start : Nat} (hs : first.length = start)
    (h : buf.length = first.length + second.length) :
    (buf.overwrite 0 first).overwrite start second = first ++ second := by
  rw [overwrite_zero]
  refine overwrite_append hs ?_
  rw [List.length_drop, h, Nat.add_sub_cancel_left]

/-! ## Keystreams -/

@[simp] theorem length_xor (a b : Bytes) : (xor a b).length = min a.length b.length :=
  List.length_zipWith

/-- A keystream that is long enough is taken away again by the same operation. -/
theorem xor_xor {a k : Bytes} (h : a.length ≤ k.length) : xor (xor a k) k = a := by
  induction a generalizing k with
  | nil => simp [xor]
  | cons x a ih =>
    cases k with
    | nil => simp at h
    | cons y k =>
      have ih := ih (k := k) (by simpa using h)
      simp only [xor, List.zipWith_cons_cons] at ih ⊢
      rw [ih, UInt8.xor_assoc, UInt8.xor_self, UInt8.xor_zero]

/-! ## Numbers -/

/-- The last digits of a number are read back. -/
theorem ofBigEndian_bigEndian_mod (width n : Nat) :
    ofBigEndian (bigEndian width n) = n % 256 ^ width := by
  induction width generalizing n with
  | zero => rw [Nat.pow_zero, Nat.mod_one, bigEndian, ofBigEndian, List.foldl_nil]
  | succ w ih =>
    have hlast : n.toUInt8.toNat = n % 256 := by simp
    rw [bigEndian, ofBigEndian_append_singleton, ih (n / 256), hlast, Nat.pow_succ',
      Nat.mod_mul, Nat.mul_comm, Nat.add_comm]

/-- A number that fits is read back. -/
theorem ofBigEndian_bigEndian (width n : Nat) (h : n < 256 ^ width) :
    ofBigEndian (bigEndian width n) = n := by
  rw [ofBigEndian_bigEndian_mod, Nat.mod_eq_of_lt h]

/-- So many bytes hold no larger number. -/
theorem ofBigEndian_lt (bs : Bytes) : ofBigEndian bs < 256 ^ bs.length := by
  induction bs using List.reverseRecOn with
  | nil => decide
  | append_singleton bs b ih =>
    have hb := b.toNat_lt
    rw [ofBigEndian_append_singleton, List.length_append, List.length_singleton, Nat.pow_succ]
    omega

/-- A number says with which bytes it is written. -/
theorem bigEndian_ofBigEndian (bs : Bytes) : bigEndian bs.length (ofBigEndian bs) = bs := by
  induction bs using List.reverseRecOn with
  | nil => rfl
  | append_singleton bs b ih =>
    have hb := b.toNat_lt
    have hdiv : (ofBigEndian bs * 256 + b.toNat) / 256 = ofBigEndian bs := by omega
    have hmod : (ofBigEndian bs * 256 + b.toNat).toUInt8 = b := by
      rw [← UInt8.toNat_inj]
      show (ofBigEndian bs * 256 + b.toNat) % 256 = b.toNat
      omega
    rw [ofBigEndian_append_singleton, List.length_append, List.length_singleton, bigEndian, hdiv,
      hmod, ih]

theorem ofLittleEndian_cons (b : UInt8) (bs : Bytes) :
    ofLittleEndian (b :: bs) = ofLittleEndian bs * 256 + b.toNat := rfl

/-- A number that fits is read back. -/
theorem ofLittleEndian_littleEndian (width n : Nat) (h : n < 256 ^ width) :
    ofLittleEndian (littleEndian width n) = n := by
  induction width generalizing n with
  | zero => simp_all [littleEndian, ofLittleEndian]
  | succ w ih =>
    rw [littleEndian, ofLittleEndian_cons, ih (n / 256)]
    · have : n.toUInt8.toNat = n % 256 := by simp
      omega
    · rw [Nat.pow_succ] at h
      exact Nat.div_lt_of_lt_mul (by omega)

/-! ## Texts -/

theorem toList_loop (b : ByteArray) (i : Nat) (r : Bytes) :
    ByteArray.toList.loop b i r = r.reverse ++ b.data.toList.drop i := by
  fun_induction ByteArray.toList.loop b i r with
  | case1 i r h ih =>
    have hi : i < b.data.toList.length := h
    have hget : b.get! i = b.data.toList[i] := getElem!_pos b.data i hi
    rw [ih, List.drop_eq_getElem_cons hi, List.reverse_cons, List.append_assoc, hget]
    rfl
  | case2 i r h => rw [List.drop_of_length_le (Nat.not_lt.1 h), List.append_nil]

theorem ofString_eq (s : String) : ofString s = s.toByteArray.data.toList :=
  toList_loop s.toByteArray 0 []

theorem length_ofString (s : String) : (ofString s).length = s.utf8ByteSize := by
  rw [ofString_eq]
  rfl

theorem toByteArray_ofString (s : String) : (ofString s).toByteArray = s.toByteArray := by
  refine ByteArray.ext ?_
  rw [List.data_toByteArray, ofString_eq]

/-- A text is read back. -/
theorem toString?_ofString (s : String) : toString? (ofString s) = some s := by
  unfold toString? String.fromUTF8?
  simp only [toByteArray_ofString]
  exact dif_pos s.isValidUTF8

/-- Bytes that spell a text are its bytes. -/
theorem ofString_of_toString? {bs : Bytes} {s : String} (h : toString? bs = some s) :
    ofString s = bs := by
  unfold toString? String.fromUTF8? at h
  split at h
  · obtain rfl := Option.some.inj h
    rw [ofString_eq]
    show bs.toByteArray.data.toList = bs
    rw [List.data_toByteArray]
  · cases h

end SealedTunnel.Bytes

namespace SealedTunnel.Placed

/-- Room is made in the scratch buffer just if it is long enough. -/
theorem inScratch_room (scratch : Bytes) (length : Nat) :
    (room scratch length).inScratch = decide (length ≤ scratch.length) := by
  unfold room
  dsimp only
  rw [List.length_take]
  by_cases h : length ≤ scratch.length
  · rw [if_pos (Nat.min_eq_left h), decide_eq_true h]
  · rw [if_neg (by omega), decide_eq_false h]

end SealedTunnel.Placed
