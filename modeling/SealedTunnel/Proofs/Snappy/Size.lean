import SealedTunnel.Proofs.Snappy.Expansion

/-!
# How long a block may become

A reference takes less room than what it stands for, by at least one byte, which pays for the tag of
the literal before it as long as that is short. A longer literal has a longer tag, but is so long
itself that a sixth of the contents pays for all of them. What is left is the length in front and
the tag of the last literal.

## Main definitions

* `Block.written`: the room that elements take

## Main results

* `Block.written_scan_le`: what a scan has found takes no more room than the bytes it covers, and a
  sixth
* `Block.length_compress_le`: the block of a byte string
-/

namespace SealedTunnel.Snappy

namespace Element

theorem length_literalTag_le (length : Nat) : (literalTag length).length ≤ 1 + length / 61 := by
  unfold literalTag
  dsimp only
  split
  · rw [List.length_singleton]
    omega
  · split
    · rw [List.length_cons, Bytes.length_littleEndian]
      omega
    · split
      · rw [List.length_cons, Bytes.length_littleEndian]
        omega
      · rw [List.length_cons, Bytes.length_littleEndian]
        omega

theorem length_bytes_copy_le (offset length : Nat) : (bytes (.copy offset length)).length ≤ 3 := by
  rw [bytes]
  split
  · simp
  · exact Nat.succ_le_succ (Nat.le_of_eq (Bytes.length_littleEndian 2 offset))

end Element

theorem Length.length_bytes_le (width n : Nat) : (Length.bytes width n).length ≤ width := by
  induction width generalizing n with
  | zero => exact Nat.le_refl 0
  | succ width ih =>
    rw [Length.bytes]
    split
    · rw [List.length_singleton]
      omega
    · rw [List.length_cons]
      exact Nat.succ_le_succ (ih _)

namespace Block

/-- The room that elements take. -/
def written (es : List Element) : Nat := (es.flatMap Element.bytes).length

@[simp] theorem written_nil : written [] = 0 := rfl

@[simp] theorem written_cons (e : Element) (es : List Element) :
    written (e :: es) = e.bytes.length + written es := by
  rw [written, List.flatMap_cons, List.length_append]
  rfl

@[simp] theorem written_append (es fs : List Element) :
    written (es ++ fs) = written es + written fs := by
  rw [written, List.flatMap_append, List.length_append]
  rfl

@[simp] theorem written_reverse (es : List Element) : written es.reverse = written es := by
  induction es with
  | nil => rfl
  | cons e es ih =>
    rw [List.reverse_cons, written_append, ih, written_cons, written_cons, written_nil]
    omega

/-- A reference is shorter than what it stands for. -/
theorem written_copies_lt (offset fuel : Nat) {length : Nat} (h : 4 ≤ length) :
    written (copies offset fuel length) < length := by
  induction fuel generalizing length with
  | zero =>
    rw [copies, written_nil]
    omega
  | succ fuel ih =>
    have hcopy (n : Nat) := Element.length_bytes_copy_le offset n
    rw [copies]
    split
    · have := hcopy length
      simp only [written_cons, written_nil]
      omega
    · split
      · have := hcopy 60
        have := hcopy (length - 60)
        simp only [written_cons, written_nil]
        omega
      · have := hcopy 64
        have hmore : 4 ≤ length - 64 := by omega
        have := ih hmore
        rw [written_cons]
        omega

theorem written_literals_le {data : Array UInt8} (start : Nat) {stop : Nat} (h : stop ≤ data.size) :
    written (literals data start stop) ≤ (stop - start) + (stop - start) / 61 + 1 := by
  unfold literals
  split
  · have hlen : (data.extract start stop).toList.length = stop - start := by
      rw [Array.length_toList, Array.size_extract]
      omega
    have htag := Element.length_literalTag_le (stop - start)
    rw [written_cons, written_nil, Element.bytes, List.length_append, hlen]
    omega
  · exact Nat.zero_le _

/-- No literal, no tag. -/
theorem literals_self (data : Array UInt8) (i : Nat) : literals data i i = [] :=
  if_neg (Nat.lt_irrefl i)

/-- What follows the last reference stands as it is, behind one more tag. -/
theorem written_finish_le {data : Array UInt8} {start : Nat} {found : List Element}
    (h : written found ≤ start + start / 6) (hs : start ≤ data.size) :
    written (found.reverse ++ literals data start data.size) ≤ data.size + data.size / 6 + 1 := by
  have hlast := written_literals_le start (Nat.le_refl data.size)
  rw [written_append, written_reverse]
  omega

/-- **What a scan has found** takes no more room than the bytes it covers, and a sixth. -/
theorem written_scan_le {data : Array UInt8} (fuel : Nat) (seen : Std.HashMap UInt32 Nat)
    (start i : Nat) (found : List Element) (h : written found ≤ start + start / 6) (hs : start ≤ i)
    (hi : i ≤ data.size) :
    written (scan data fuel seen start i found) ≤ data.size + data.size / 6 + 1 := by
  induction fuel generalizing seen start i found with
  | zero => exact written_finish_le h (Nat.le_trans hs hi)
  | succ fuel ih =>
    rw [scan]
    split
    · exact written_finish_le h (Nat.le_trans hs hi)
    · dsimp only
      split
      · exact ih _ _ _ _ h (by omega) (by omega)
      · rename_i j _
        obtain ⟨n, hn, hcommon, -⟩ := commonLength_spec data (data.size - i) j i 0
        rw [Nat.zero_add] at hcommon
        rw [hcommon]
        split
        · rename_i hcopy
          have hshort := written_copies_lt (i - j) n hcopy.2.1
          have hpair : written ((copies (i - j) n n).reverse ++
              ((literals data start i).reverse ++ found)) ≤ i + n + (i + n) / 6 := by
            rw [written_append, written_append, written_reverse, written_reverse]
            rcases Nat.eq_or_lt_of_le hs with rfl | hlt
            · rw [literals_self, written_nil]
              omega
            · have hbefore := written_literals_le start hi
              omega
          exact ih _ _ _ _ hpair (Nat.le_refl _) (by omega)
        · exact ih _ _ _ _ h (by omega) (by omega)

/-- **The block of a byte string** is no longer than it may become. -/
theorem length_compress_le (data : Bytes) : (compress data).length ≤ maxLength data.length := by
  have hfront := Length.length_bytes_le lengthWidth data.length
  have helements : written (elements data) ≤ data.length + data.length / 6 + 1 := by
    have hsize : data.toArray.size = data.length := List.size_toArray ..
    rw [← hsize]
    unfold elements
    dsimp only
    split
    · have hall := written_literals_le 0 (Nat.le_refl data.toArray.size)
      omega
    · exact written_scan_le _ _ 0 0 [] (Nat.zero_le _) (Nat.le_refl 0) (Nat.zero_le _)
  rw [written] at helements
  have hwidth : lengthWidth = 5 := rfl
  rw [compress, List.length_append, maxLength]
  omega

end Block

end SealedTunnel.Snappy
