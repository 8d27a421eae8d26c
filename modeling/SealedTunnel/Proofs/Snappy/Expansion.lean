import Mathlib.Algebra.Group.Nat.Defs
import SealedTunnel.Snappy.Block

/-!
# The elements of a byte string expand to it

However the encoder finds its references, it checks each one byte by byte before it uses it. So at
every point of the scan the elements found so far expand to the bytes before that point, and at its
end to the whole byte string.

## Main definitions

* `Element.Fits`: the element has a written form that is read back

## Main results

* `Element.copyBack_extract`: a checked reference extends a prefix of the contents
* `Block.expandAll?_elements`: the elements of a byte string expand to it
* `Block.fits_of_mem_elements`: each of them fits
-/

namespace SealedTunnel.Snappy

namespace Element

/-- Whether an element has a written form: a literal of at least one byte, or a copy of at most 64
bytes from less than 2^16 bytes back. -/
def Fits : Element → Prop
  | .literal data => 0 < data.length ∧ data.length < 2 ^ 32
  | .copy offset length => offset < 2 ^ 16 ∧ 0 < length ∧ length ≤ 64

/-! ## Copies -/

theorem copyBack_add (offset m n : Nat) (out : Array UInt8) :
    copyBack offset (m + n) out = copyBack offset n (copyBack offset m out) := by
  induction m generalizing out with
  | zero => rw [Nat.zero_add, copyBack]
  | succ m ih => rw [Nat.succ_add, copyBack, ih, copyBack]

@[simp] theorem size_copyBack (offset n : Nat) (out : Array UInt8) :
    (copyBack offset n out).size = out.size + n := by
  induction n generalizing out with
  | zero => rfl
  | succ n ih =>
    rw [copyBack, ih, Array.size_push]
    omega

/-- **A reference whose bytes were compared extends a prefix of the contents.** -/
theorem copyBack_extract {data : Array UInt8} {i j n : Nat} (hj : j < i) (hn : i + n ≤ data.size)
    (hm : ∀ k < n, data.getD (j + k) 0 = data.getD (i + k) 0) :
    copyBack (i - j) n (data.extract 0 i) = data.extract 0 (i + n) := by
  induction n generalizing i j with
  | zero => rfl
  | succ n ih =>
    have hi : i < data.size := by omega
    have hsize : (data.extract 0 i).size = i := by
      rw [Array.size_extract]
      omega
    have hback : (data.extract 0 i).getD ((data.extract 0 i).size - (i - j)) 0 = data[i] := by
      have hjd : data.getD j 0 = data.getD i 0 := hm 0 (Nat.succ_pos n)
      have hjs : j < (data.extract 0 i).size := by omega
      rw [hsize, show i - (i - j) = j by omega, Array.getD_eq_getD_getElem?,
        Array.getElem?_eq_getElem hjs, Option.getD_some, Array.getElem_extract]
      simpa [Array.getD_eq_getD_getElem?, hi, show j < data.size by omega] using hjd
    rw [copyBack, hback, Array.push_extract_getElem hi, Nat.min_eq_left (Nat.zero_le i),
      show i - j = i + 1 - (j + 1) by omega, ih (by omega) (by omega),
      show i + 1 + n = i + (n + 1) by omega]
    intro k hk
    have := hm (k + 1) (by omega)
    rwa [show j + (k + 1) = j + 1 + k by omega, show i + (k + 1) = i + 1 + k by omega] at this

/-! ## Expansion -/

theorem expandAll?_append (limit : Nat) (out : Array UInt8) (es fs : List Element) :
    expandAll? limit out (es ++ fs) = (expandAll? limit out es).bind (expandAll? limit · fs) := by
  induction es generalizing out with
  | nil => rfl
  | cons e es ih =>
    rw [List.cons_append, expandAll?, expandAll?]
    cases e.expand? out with
    | none => rfl
    | some out =>
      show (if out.size > limit then none else expandAll? limit out (es ++ fs)) =
        (if out.size > limit then none else expandAll? limit out es).bind _
      split
      · rfl
      · exact ih out

theorem expandAll?_copy {limit offset length : Nat} {out : Array UInt8} (ho : 0 < offset)
    (hs : offset ≤ out.size) (hl : out.size + length ≤ limit) :
    expandAll? limit out [.copy offset length] = some (copyBack offset length out) := by
  have he : (copy offset length).expand? out = some (copyBack offset length out) := by
    rw [expand?, if_neg (by omega)]
  simp only [expandAll?, he, size_copyBack]
  rw [if_neg (by omega)]

end Element

namespace Block

open Element

theorem fits_of_mem_copies {offset : Nat} (ho : offset < 2 ^ 16) :
    ∀ {fuel length : Nat}, 0 < length → ∀ e ∈ copies offset fuel length, e.Fits := by
  intro fuel
  induction fuel with
  | zero => intro length _ e he; simp [copies] at he
  | succ fuel ih =>
    intro length hl e he
    rw [copies] at he
    split at he
    · rw [List.mem_singleton.1 he]
      exact ⟨ho, hl, ‹_›⟩
    · split at he
      · rcases List.mem_cons.1 he with rfl | he
        · exact ⟨ho, by omega, by omega⟩
        · rw [List.mem_singleton.1 he]
          exact ⟨ho, by omega, by omega⟩
      · rcases List.mem_cons.1 he with rfl | he
        · exact ⟨ho, by omega, by omega⟩
        · exact ih (by omega) e he

/-- A reference cut into pieces is the same reference. -/
theorem expandAll?_copies {limit offset : Nat} (ho : 0 < offset) :
    ∀ {fuel length : Nat} {out : Array UInt8}, length ≤ fuel → 0 < length → offset ≤ out.size →
      out.size + length ≤ limit →
      expandAll? limit out (copies offset fuel length) = some (copyBack offset length out) := by
  intro fuel
  induction fuel with
  | zero => intro length out hf hl; omega
  | succ fuel ih =>
    intro length out hf hl hs hb
    rw [copies]
    split
    · exact expandAll?_copy ho hs hb
    · have cut : ∀ m n, m + n = length → ∀ es,
          (∀ mid : Array UInt8, mid = copyBack offset m out →
            expandAll? limit mid es = some (copyBack offset n mid)) →
          expandAll? limit out (.copy offset m :: es) = some (copyBack offset length out) := by
        intro m n hmn es hes
        rw [← List.singleton_append, expandAll?_append, expandAll?_copy ho hs (by omega),
          Option.bind_some, hes _ rfl, ← copyBack_add, hmn]
      split
      · refine cut 60 (length - 60) (by omega) _ ?_
        rintro mid rfl
        exact expandAll?_copy ho (by rw [size_copyBack]; omega) (by rw [size_copyBack]; omega)
      · refine cut 64 (length - 64) (by omega) _ ?_
        rintro mid rfl
        exact ih (by omega) (by omega) (by rw [size_copyBack]; omega) (by rw [size_copyBack]; omega)

/-! ## The scan -/

/-- What is counted as common was compared. -/
theorem commonLength_spec (data : Array UInt8) (n i j seen : Nat) :
    ∃ k ≤ n, commonLength data n i j seen = seen + k ∧
      ∀ m < k, data.getD (i + m) 0 = data.getD (j + m) 0 := by
  induction n generalizing i j seen with
  | zero => exact ⟨0, Nat.le_refl 0, rfl, fun m hm => absurd hm (Nat.not_lt_zero m)⟩
  | succ n ih =>
    rw [commonLength]
    split
    · rename_i heq
      obtain ⟨k, hk, hc, hm⟩ := ih (i + 1) (j + 1) (seen + 1)
      refine ⟨k + 1, Nat.succ_le_succ hk, by omega, ?_⟩
      intro m hlt
      cases m with
      | zero => exact heq
      | succ m =>
        have := hm m (by omega)
        rwa [Nat.succ_add, Nat.succ_add] at this
    · exact ⟨0, Nat.zero_le _, rfl, fun m hm => absurd hm (Nat.not_lt_zero m)⟩

theorem expandAll?_literals {data : Array UInt8} {start stop : Nat} (h : start ≤ stop)
    (hs : stop ≤ data.size) :
    expandAll? data.size (data.extract 0 start) (literals data start stop) =
      some (data.extract 0 stop) := by
  unfold literals
  split
  · have hout : data.extract 0 start ++ (data.extract start stop).toList =
        data.extract 0 stop := by
      apply Array.ext'
      rw [Array.toList_appendList, ← Array.toList_append, Array.extract_append_extract,
        Nat.min_eq_left (Nat.zero_le start), Nat.max_eq_right h]
    have hsize : (data.extract 0 stop).size ≤ data.size := by
      rw [Array.size_extract]
      omega
    simp only [expandAll?, expand?, hout]
    rw [if_neg (Nat.not_lt.2 hsize)]
  · obtain rfl : start = stop := by omega
    rfl

theorem fits_of_mem_literals {data : Array UInt8} {start stop : Nat} (hd : data.size < 2 ^ 32)
    (hs : stop ≤ data.size) : ∀ e ∈ literals data start stop, e.Fits := by
  intro e he
  unfold literals at he
  split at he
  · rw [List.mem_singleton.1 he]
    show 0 < (data.extract start stop).toList.length ∧ _
    rw [Array.length_toList, Array.size_extract]
    omega
  · cases he

/-- The invariant of the scan: the elements found, the latest first, expand to the bytes before
`start`, and each has a written form. -/
structure Covers (data : Array UInt8) (start : Nat) (found : List Element) : Prop where
  expands : expandAll? data.size #[] found.reverse = some (data.extract 0 start)
  fits : ∀ e ∈ found, e.Fits

theorem Covers.nil (data : Array UInt8) : Covers data 0 [] :=
  ⟨by rw [Array.extract_zero]; rfl, fun _ h => absurd h List.not_mem_nil⟩

/-- More elements that carry on from where those before end. -/
theorem Covers.append {data : Array UInt8} {start stop : Nat} {found es : List Element}
    (h : Covers data start found)
    (he : expandAll? data.size (data.extract 0 start) es = some (data.extract 0 stop))
    (hf : ∀ e ∈ es, e.Fits) : Covers data stop (es.reverse ++ found) := by
  refine ⟨?_, ?_⟩
  · rw [List.reverse_append, List.reverse_reverse, expandAll?_append, h.expands, Option.bind_some,
      he]
  · intro e hmem
    rcases List.mem_append.1 hmem with hmem | hmem
    · exact hf e (List.mem_reverse.1 hmem)
    · exact h.fits e hmem

/-- What the scan leaves at its end covers the whole byte string. -/
theorem Covers.finish {data : Array UInt8} {start : Nat} {found : List Element}
    (h : Covers data start found) (hd : data.size < 2 ^ 32) (hs : start ≤ data.size) :
    Covers data data.size (found.reverse ++ literals data start data.size).reverse := by
  rw [List.reverse_append, List.reverse_reverse]
  exact h.append (expandAll?_literals hs (Nat.le_refl _)) (fits_of_mem_literals hd (Nat.le_refl _))

/-- A reference that was checked, with the literal before it, carries the cover on. -/
theorem Covers.copy {data : Array UInt8} {start i j length : Nat} {found : List Element}
    (h : Covers data start found) (hd : data.size < 2 ^ 32) (hs : start ≤ i)
    (hi : i + length ≤ data.size) (hj : j < i) (hl : 0 < length) (hnear : i - j < 2 ^ 16)
    (hm : ∀ m < length, data.getD (j + m) 0 = data.getD (i + m) 0) :
    Covers data (i + length)
      ((copies (i - j) length length).reverse ++ ((literals data start i).reverse ++ found)) := by
  have hlit := h.append (expandAll?_literals hs (by omega)) (fits_of_mem_literals hd (by omega))
  refine hlit.append ?_ (fits_of_mem_copies hnear hl)
  have hsize : (data.extract 0 i).size = i := by
    rw [Array.size_extract]
    omega
  rw [expandAll?_copies (by omega) (Nat.le_refl _) hl (by omega) (by omega),
    copyBack_extract hj hi hm]

/-- Whatever places the scan remembers, what it finds covers the byte string. -/
theorem covers_scan {data : Array UInt8} (hd : data.size < 2 ^ 32) (fuel : Nat)
    (seen : Std.HashMap UInt32 Nat) (start i : Nat) (found : List Element)
    (h : Covers data start found) (hs : start ≤ i) (hi : i ≤ data.size) :
    Covers data data.size (scan data fuel seen start i found).reverse := by
  induction fuel generalizing seen start i found with
  | zero => exact h.finish hd (Nat.le_trans hs hi)
  | succ fuel ih =>
    rw [scan]
    split
    · exact h.finish hd (Nat.le_trans hs hi)
    · dsimp only
      split
      · exact ih _ _ _ _ h (by omega) (by omega)
      · -- A place is remembered, which may be wrong: only what was compared counts.
        rename_i j _
        obtain ⟨k, hk, hc, hm⟩ := commonLength_spec data (data.size - i) j i 0
        rw [Nat.zero_add] at hc
        rw [hc]
        split
        · rename_i hcopy
          exact ih _ _ _ _
            (h.copy hd hs (by omega) hcopy.1 (by omega) hcopy.2.2 hm) (Nat.le_refl _) (by omega)
        · exact ih _ _ _ _ h (by omega) (by omega)

theorem covers_elements {data : Bytes} (hd : data.length < 2 ^ 32) :
    Covers data.toArray data.length (elements data).reverse := by
  have hsize : data.toArray.size = data.length := List.size_toArray ..
  rw [← hsize] at hd ⊢
  unfold elements
  dsimp only
  split
  · exact (Covers.nil _).finish hd (Nat.zero_le _)
  · exact covers_scan hd _ _ 0 0 [] (.nil _) (Nat.le_refl 0) (Nat.zero_le _)

/-- **The elements of a byte string expand to it.** -/
theorem expandAll?_elements {data : Bytes} (hd : data.length < 2 ^ 32) :
    expandAll? data.length #[] (elements data) = some data.toArray := by
  have h := (covers_elements hd).expands
  rw [List.reverse_reverse, List.size_toArray] at h
  rw [h]
  exact congrArg some Array.extract_size

theorem fits_of_mem_elements {data : Bytes} (hd : data.length < 2 ^ 32) :
    ∀ e ∈ elements data, e.Fits := fun e he =>
  (covers_elements hd).fits e (List.mem_reverse.2 he)

end Block

end SealedTunnel.Snappy
