import Mathlib.Data.List.GetD
import SealedTunnel.Proofs.Obfuscation.Padding
import SealedTunnel.Proofs.Random.Rejection

/-!
# The padding of a text, for every range and every outcome of the draws

Any text that two bytes can measure is padded, by a length in the range of the settings, and is
found again; a range that is turned round is that of its lower bound alone. No length of the range
is left out: the supplies that draw it are written down. What decodes is what padding can give, and
everything else is refused.

## Main definitions

* `Entropy.Quiet`: a supply of zeros
* `Entropy.naming`: a supply that begins with a given number

## Main results

* `Padding.exists_draw`: every length of the range is drawn
* `Padding.encodeInto_apply`: the scratch buffer only says where the padded text is
* `Padding.decode_eq_ok`: what decodes
* `Padding.pads_and_unpads`: both directions together
-/

namespace SealedTunnel

namespace Entropy

variable {e : Entropy} {n : Nat}

/-! ## Supplies that are known -/

/-- At least so many bytes are left, and all that are left are zero. -/
structure Quiet (n : Nat) (e : Entropy) : Prop where
  enough : e.next + n ≤ e.supply
  zero : ∀ i, e.next ≤ i → e.byteAt i = 0

theorem Quiet.mono {k : Nat} (h : e.Quiet n) (hk : k ≤ n) : e.Quiet k :=
  ⟨Nat.le_trans (Nat.add_le_add_left hk _) h.enough, h.zero⟩

theorem Quiet.take {k : Nat} (h : e.Quiet (k + n)) :
    ∃ e', e.take k = some (Bytes.zeros k, e') ∧ e'.Quiet n := by
  have henough := h.enough
  refine ⟨{ e with next := e.next + k }, ?_, ⟨?_, ?_⟩⟩
  · have hzeros : (List.range k).map (fun i => e.byteAt (e.next + i)) = Bytes.zeros k := by
      apply List.eq_replicate_iff.2
      constructor
      · rw [List.length_map, List.length_range]
      · intro b hb
        obtain ⟨i, -, rfl⟩ := List.mem_map.1 hb
        exact h.zero _ (Nat.le_add_right ..)
    rw [Entropy.take, if_pos (by omega), hzeros]
  · dsimp only
    omega
  · intro i hi
    exact h.zero i (Nat.le_trans (Nat.le_add_right ..) hi)

theorem Quiet.below {bound : UInt64} (h : e.Quiet (8 + n)) :
    ∃ e', e.below bound = some (0, e') ∧ e'.Quiet n := by
  by_cases hb : bound ≤ 1
  · exact ⟨e, by rw [Entropy.below, if_pos hb], h.mono (Nat.le_add_left ..)⟩
  · have hb := UInt64.not_le.1 hb
    obtain ⟨e', htake, hquiet⟩ := h.take
    have hword : e.word = some (0, e') := by
      rw [word, htake]
      rfl
    exact ⟨e', below_of_word hb (UInt64.lt_trans (by decide) hb) hword, hquiet⟩

/-- The supply that begins with a number in eight bytes, and goes on with `n` zeros. -/
def naming (k n : Nat) : Entropy :=
  ⟨fun i => (Bytes.littleEndian 8 k).getD i 0, 0, 8 + n⟩

theorem word_naming {k : Nat} (hk : k < 2 ^ 64) :
    ∃ e', (naming k n).word = some (UInt64.ofNat k, e') ∧ e'.Quiet n := by
  let rest : Entropy := ⟨(naming k n).byteAt, 8, 8 + n⟩
  have htake : (naming k n).take 8 = some (Bytes.littleEndian 8 k, rest) :=
    if_pos (Nat.add_le_add_left (Nat.zero_le n) 8)
  refine ⟨rest, ?_, ⟨Nat.le_refl _, ?_⟩⟩
  · rw [word, htake, Option.map_some]
    dsimp only
    rw [Bytes.ofLittleEndian_littleEndian 8 k hk]
  · intro i hi
    exact List.getD_eq_default _ _ (Nat.le_trans (Nat.le_of_eq (Bytes.length_littleEndian 8 k)) hi)

theorem quiet_naming_zero : (naming 0 n).Quiet n := by
  refine ⟨?_, ?_⟩
  · show 0 + n ≤ 8 + n
    omega
  · intro i _
    have hzeros : Bytes.littleEndian 8 0 = Bytes.zeros 8 := rfl
    show (Bytes.littleEndian 8 0).getD i 0 = 0
    rw [hzeros, Bytes.zeros, List.getD_eq_getElem?_getD, List.getElem?_replicate]
    split <;> rfl

end Entropy

namespace Draw

variable {α : Type} {f : Bytes → Draw CryptoError α} {g : UInt64 → Draw CryptoError α}
  {e e' : Entropy}

theorem bind_bytes {n : Nat} {bs : Bytes} (h : e.take n = some (bs, e')) :
    (bytes n >>= f) e = f bs e' :=
  bind_of_ok (ofTake_eq_ok.2 h)

theorem bind_below {bound w : UInt64} (h : e.below bound = some (w, e')) :
    (below bound >>= g) e = g w e' :=
  bind_of_ok (ofTake_eq_ok.2 h)

end Draw

namespace Padding

variable {o : Obfuscation} {data : Bytes}

/-! ## Every length is drawn -/

theorem exists_drawPadding (length : Nat) {e : Entropy} (h : e.Quiet (length + 16)) :
    ∃ padding e', drawPadding length e = .ok (padding, e') := by
  obtain ⟨e₁, hnoise, h₁⟩ := h.take
  obtain ⟨e₂, hchoice, h₂⟩ := Entropy.Quiet.below (n := 8) h₁
  unfold drawPadding
  rw [Draw.bind_bytes hnoise]
  split
  · exact ⟨_, _, rfl⟩
  · rw [Draw.bind_below hchoice]
    split
    · exact ⟨_, _, rfl⟩
    · obtain ⟨e₃, hoffset, -⟩ := Entropy.Quiet.below (n := 0) h₂
      rw [Draw.bind_below hoffset]
      exact ⟨_, _, rfl⟩

theorem exists_drawTail (pad : UInt64) {e : Entropy} (h : e.Quiet (pad.toNat + 16)) :
    ∃ padding e', drawTail pad e = .ok (padding, e') := by
  unfold drawTail
  split
  · exact ⟨_, _, rfl⟩
  · exact exists_drawPadding _ h

/-- A supply that begins with how far a length lies above the lower bound draws that length. -/
theorem exists_drawLength (ho : Modest o) {n : Nat} (hmin : o.minPadding.toNat ≤ n)
    (hmax : n ≤ max o.minPadding.toNat o.maxPadding.toNat) (room : Nat) :
    ∃ e e', drawLength o e = .ok (UInt64.ofNat n, e') ∧ e'.Quiet room := by
  have hlimit := ho.max_le
  have hlimit' := ho.min_le
  have hsize : UInt64.size = 18446744073709551616 := rfl
  have hlow : UInt64.ofNat o.minPadding.toNat = o.minPadding := UInt64.ofNat_toNat
  rw [drawLength_eq]
  split
  · rename_i hlt
    have hlt := UInt64.lt_iff_toNat_lt.1 hlt
    obtain ⟨e', hword, hquiet⟩ := Entropy.word_naming (k := n - o.minPadding.toNat) (n := room)
      (by omega)
    refine ⟨Entropy.naming (n - o.minPadding.toNat) room, e', ?_, hquiet⟩
    have hbound : (o.maxPadding - o.minPadding + 1).toNat =
        o.maxPadding.toNat - o.minPadding.toNat + 1 := by
      have hle := UInt64.le_iff_toNat_le.2 (Nat.le_of_lt hlt)
      rw [UInt64.toNat_add, UInt64.toNat_sub_of_le _ _ hle, UInt64.toNat_one]
      omega
    have hfirst : (UInt64.ofNat (n - o.minPadding.toNat)).toNat = n - o.minPadding.toNat :=
      UInt64.toNat_ofNat_of_lt' (by omega)
    have hchoice : 1 < o.maxPadding - o.minPadding + 1 := by
      rw [UInt64.lt_iff_toNat_lt, hbound, UInt64.toNat_one]
      omega
    have hin : UInt64.ofNat (n - o.minPadding.toNat) < o.maxPadding - o.minPadding + 1 := by
      rw [UInt64.lt_iff_toNat_lt, hbound, hfirst]
      omega
    have hbelow := Entropy.below_of_word hchoice hin hword
    rw [Draw.bind_below hbelow]
    have hsum : o.minPadding + UInt64.ofNat (n - o.minPadding.toNat) = UInt64.ofNat n := by
      rw [← UInt64.toNat_inj, UInt64.toNat_add, hfirst, UInt64.toNat_ofNat']
      omega
    rw [hsum]
    rfl
  · rename_i hge
    have hge := UInt64.le_iff_toNat_le.1 (UInt64.not_lt.1 hge)
    obtain rfl : n = o.minPadding.toNat := by omega
    rw [hlow]
    exact ⟨_, _, rfl, Entropy.quiet_naming_zero⟩

/-- **Every length of the range is drawn.** -/
theorem exists_draw (ho : Modest o) (data : Bytes) {n : Nat} (hmin : o.minPadding.toNat ≤ n)
    (hmax : n ≤ max o.minPadding.toNat o.maxPadding.toNat) :
    ∃ e padding e', draw data o e = .ok (layout data padding, e') ∧ padding.length = n := by
  have hlimit := ho.max_le
  have hlimit' := ho.min_le
  have hsize : UInt64.size = 18446744073709551616 := rfl
  have hn : (UInt64.ofNat n).toNat = n := UInt64.toNat_ofNat_of_lt' (by omega)
  obtain ⟨e, e₁, hlength, hquiet⟩ := exists_drawLength ho hmin hmax (n + 16)
  obtain ⟨padding, e₂, htail⟩ := exists_drawTail (UInt64.ofNat n) (hn.symm ▸ hquiet)
  refine ⟨e, padding, e₂, ?_, ?_⟩
  · rw [draw, Draw.bind_of_ok hlength, Draw.bind_of_ok htail]
    rfl
  · rw [length_drawTail htail, hn]

/-! ## What decodes -/

/-- **What decodes to a text** is that text behind its length, with anything behind it. -/
theorem decode_eq_ok {buf : Bytes} :
    decode buf = .ok data ↔ data.length ≤ maxPayload ∧ ∃ tail, buf = layout data tail := by
  constructor
  · intro h
    refine ⟨length_le_of_decode h, ?_⟩
    unfold decode at h
    split at h
    · cases h
    · rename_i hlong
      dsimp only at h
      split at h
      · cases h
      · rename_i hfits
        obtain rfl := Except.ok.inj h
        have hhead : (buf.take headerLength).length = headerLength := by
          rw [List.length_take]
          omega
        have hdata : ((buf.drop headerLength).take
            (Bytes.ofBigEndian (buf.take headerLength))).length =
              Bytes.ofBigEndian (buf.take headerLength) := by
          rw [List.length_take, List.length_drop]
          omega
        refine ⟨(buf.drop headerLength).drop (Bytes.ofBigEndian (buf.take headerLength)), ?_⟩
        have hback := Bytes.bigEndian_ofBigEndian (buf.take headerLength)
        rw [hhead] at hback
        rw [layout, hdata, hback, List.append_assoc, List.take_append_drop, List.take_append_drop]
  · rintro ⟨hlen, tail, rfl⟩
    exact decode_layout hlen tail

/-- Whatever does not decode is a fault of the framing. -/
theorem decode_eq_error {buf : Bytes} {err : TunnelError} (h : decode buf = .error err) :
    ∃ fault, err = .framing fault := by
  unfold decode at h
  dsimp only at h
  split at h
  · exact ⟨_, (Except.error.inj h).symm⟩
  · split at h
    · exact ⟨_, (Except.error.inj h).symm⟩
    · cases h

/-! ## Both directions -/

/-- **A text padded over a scratch buffer** is what is drawn for the text, and it is in the buffer
just if it fits there. -/
theorem encodeInto_apply (hd : data.length ≤ maxPayload) (o : Obfuscation) (scratch : Bytes)
    (e : Entropy) :
    encodeInto data o scratch e = ((draw data o).forTunnel e).map fun r =>
      (⟨r.1, decide (r.1.length ≤ scratch.length)⟩, r.2) := by
  unfold encodeInto draw
  rw [if_neg (Nat.not_lt.2 hd), Draw.forTunnel_bind]
  show ((drawLength o).forTunnel >>= fun pad => _) e = _
  rw [Draw.bind_apply, Draw.bind_apply]
  cases (drawLength o).forTunnel e with
  | error err => rfl
  | ok r =>
    obtain ⟨pad, e₁⟩ := r
    simp only [Except.bind, Placed.inScratch_room]
    rw [fill_eq data pad (Placed.length_room ..), Draw.bind_apply, Draw.forTunnel_apply,
      Draw.bind_apply]
    cases htail : drawTail pad e₁ with
    | error err => rfl
    | ok r =>
      have hlen : headerLength + data.length + pad.toNat = (layout data r.1).length := by
        rw [length_layout, length_drawTail htail]
      rw [hlen]
      rfl

/-- A text that is padded is found again, behind a padding of a length in the range. -/
theorem encodeInto_mem (ho : Modest o) (hd : data.length ≤ maxPayload) {scratch : Bytes}
    {e e' : Entropy} {placed : Placed} (h : encodeInto data o scratch e = .ok (placed, e')) :
    ∃ padding, placed.bytes = layout data padding ∧ o.minPadding.toNat ≤ padding.length ∧
      padding.length ≤ max o.minPadding.toNat o.maxPadding.toNat ∧
      decode placed.bytes = .ok data ∧
      (placed.inScratch = true ↔ placed.bytes.length ≤ scratch.length) := by
  rw [encodeInto_apply hd] at h
  cases hdraw : (draw data o).forTunnel e with
  | error err =>
    rw [hdraw] at h
    cases h
  | ok r =>
    rw [hdraw] at h
    obtain ⟨rfl, rfl⟩ := Prod.mk.inj (Except.ok.inj h)
    obtain ⟨padding, htext, hrange⟩ := draw_mem (Draw.forTunnel_eq_ok.1 hdraw)
    obtain ⟨hmin, hmax⟩ := hrange ho
    refine ⟨padding, htext, hmin, hmax, ?_, decide_eq_true_iff⟩
    dsimp only
    rw [htext]
    exact decode_layout hd padding

theorem encodeInto_eq_error (hd : data.length ≤ maxPayload) {scratch : Bytes} {e : Entropy}
    {err : TunnelError} (h : encodeInto data o scratch e = .error err) :
    err = .crypto .noEntropy := by
  rw [encodeInto_apply hd] at h
  cases hdraw : (draw data o).forTunnel e with
  | error err' =>
    rw [hdraw] at h
    rw [← Except.error.inj h]
    exact (plain_draw data o).onlyDry.forTunnel hdraw
  | ok r =>
    rw [hdraw] at h
    cases h

theorem encodeInto_of_long (hd : maxPayload < data.length) (o : Obfuscation) (scratch : Bytes)
    (e : Entropy) :
    encodeInto data o scratch e = .error (.framing (.tooLongToPad data.length maxPayload)) := by
  unfold encodeInto
  rw [if_pos hd]
  rfl

/-- **The padding codec**: whatever the range, the buffer and the outcome of the draws, a text is
padded by a length of the range and found again; all lengths of the range occur, what decodes is
what padding can give, and everything else is a fault of the framing. -/
theorem pads_and_unpads (o : Obfuscation) (ho : Modest o) :
    (∀ data scratch e, data.length ≤ maxPayload →
      (∀ placed e', encodeInto data o scratch e = .ok (placed, e') →
        ∃ padding, placed.bytes = layout data padding ∧
          o.minPadding.toNat ≤ padding.length ∧
          padding.length ≤ max o.minPadding.toNat o.maxPadding.toNat ∧
          decode placed.bytes = .ok data ∧
          (placed.inScratch = true ↔ placed.bytes.length ≤ scratch.length)) ∧
      (∀ err, encodeInto data o scratch e = .error err → err = .crypto .noEntropy) ∧
      (encodeInto data o scratch e).map (fun r => (r.1.bytes, r.2)) = encode data o e) ∧
    (∀ data scratch n, data.length ≤ maxPayload → o.minPadding.toNat ≤ n →
      n ≤ max o.minPadding.toNat o.maxPadding.toNat →
      ∃ e placed e' padding, encodeInto data o scratch e = .ok (placed, e') ∧
        placed.bytes = layout data padding ∧ padding.length = n) ∧
    (∀ data scratch e, maxPayload < data.length →
      encodeInto data o scratch e =
        .error (.framing (.tooLongToPad data.length maxPayload)) ∧
      encode data o e = .error (.framing (.tooLongToPad data.length maxPayload))) ∧
    (∀ buf data, decode buf = .ok data ↔
      data.length ≤ maxPayload ∧ ∃ tail, buf = layout data tail) ∧
    (∀ buf err, decode buf = .error err → ∃ fault, err = .framing fault) := by
  refine ⟨?_, ?_, ?_, fun buf data => decode_eq_ok, fun buf err => decode_eq_error⟩
  · intro data scratch e hd
    refine ⟨fun placed e' => encodeInto_mem ho hd, fun err => encodeInto_eq_error hd, ?_⟩
    rw [encode, Draw.map_apply, encodeInto_apply hd, encodeInto_apply hd]
    cases (draw data o).forTunnel e <;> rfl
  · intro data scratch n hd hmin hmax
    obtain ⟨e, padding, e', hdraw, hlen⟩ := exists_draw ho data hmin hmax
    refine ⟨e, ⟨layout data padding, decide ((layout data padding).length ≤ scratch.length)⟩, e',
      padding, ?_, rfl, hlen⟩
    rw [encodeInto_apply hd, Draw.forTunnel_eq_ok.2 hdraw]
    rfl
  · intro data scratch e hd
    refine ⟨encodeInto_of_long hd o scratch e, ?_⟩
    rw [encode, Draw.map_apply, encodeInto_of_long hd]
    rfl

/-- Twenty bytes of padding, drawn from a range of four to 32. -/
theorem pads_and_unpads_twenty :
    Modest ⟨false, 4, 32, 0, 0⟩ ∧
      ∃ e placed e' padding, encodeInto [1, 2, 3] ⟨false, 4, 32, 0, 0⟩ [] e = .ok (placed, e') ∧
        placed.bytes = 0 :: 3 :: 1 :: 2 :: 3 :: padding ∧ padding.length = 20 ∧
          decode placed.bytes = .ok [1, 2, 3] := by
  have hmodest : Modest ⟨false, 4, 32, 0, 0⟩ := ⟨by decide, by decide⟩
  obtain ⟨houtcome, hevery, -⟩ := pads_and_unpads ⟨false, 4, 32, 0, 0⟩ hmodest
  obtain ⟨e, placed, e', padding, h, hbytes, hlen⟩ :=
    hevery [1, 2, 3] [] 20 (by decide) (by decide) (by decide)
  obtain ⟨-, -, -, -, hdecode, -⟩ := (houtcome [1, 2, 3] [] e (by decide)).1 placed e' h
  exact ⟨hmodest, e, placed, e', padding, h, hbytes, hlen, hdecode⟩

end Padding

end SealedTunnel
