import Mathlib.Data.List.GetD
import SealedTunnel.Proofs.Random.Rejection

/-!
# What a draw uses of its supply

A supply holds some bytes, and whoever draws from it takes the first of them. What is drawn depends
on the bytes that are used for it, and not on those behind them: so draws that were seen apart can
be made one after the other.

## Main definitions

* `Entropy.Holds`: the bytes that are left in a supply
* `Draw.Frugal`: whatever is drawn comes from some bytes, whatever is behind them

## Main results

* `Entropy.Holds.take`, `Entropy.Holds.word`: the next bytes, and the next word
* `Draw.Frugal.bind`: one draw after the other
* `Draw.Plain.frugal`: plain draws and what is made of them
* `Draw.exists_below_iff`: every number below a bound can be drawn
-/

namespace SealedTunnel

namespace Entropy

variable {e : Entropy} {bs more : Bytes}

/-- The supply holds these bytes and no more. -/
structure Holds (e : Entropy) (bs : Bytes) : Prop where
  length : e.next + bs.length = e.supply
  byteAt : ∀ (i : Nat) (h : i < bs.length), e.byteAt (e.next + i) = bs[i]

theorem holds_ofBytes (bs : Bytes) : (ofBytes bs).Holds bs where
  length := Nat.zero_add _
  byteAt i h := by
    show bs.getD (0 + i) 0 = bs[i]
    rw [Nat.zero_add, List.getD_eq_getElem _ _ h]

/-- The first of the bytes are taken, and the others are left. -/
theorem Holds.take (h : e.Holds (bs ++ more)) :
    ∃ e', e.take bs.length = some (bs, e') ∧ e'.Holds more := by
  have hlength := h.length
  rw [List.length_append] at hlength
  have hbytes : (List.range bs.length).map (fun i => e.byteAt (e.next + i)) = bs := by
    apply List.ext_getElem
    · rw [List.length_map, List.length_range]
    · intro i _ hi
      have hbyte := h.byteAt i (by rw [List.length_append]; omega)
      rw [List.getElem_map, List.getElem_range, hbyte, List.getElem_append_left hi]
  refine ⟨{ e with next := e.next + bs.length }, ?_, ?_, ?_⟩
  · rw [Entropy.take, if_pos (by omega), hbytes]
  · dsimp only
    omega
  · intro i hi
    have hbyte := h.byteAt (bs.length + i) (by rw [List.length_append]; omega)
    rw [← Nat.add_assoc] at hbyte
    rw [hbyte, List.getElem_append_right (Nat.le_add_right ..)]
    simp only [Nat.add_sub_cancel_left]

/-- A word that is written in the next eight bytes. -/
theorem Holds.word {w : UInt64} (h : e.Holds (Bytes.littleEndian 8 w.toNat ++ more)) :
    ∃ e', e.word = some (w, e') ∧ e'.Holds more := by
  obtain ⟨e', htake, hmore⟩ := h.take
  rw [Bytes.length_littleEndian] at htake
  refine ⟨e', ?_, hmore⟩
  rw [Entropy.word, htake, Option.map_some]
  dsimp only
  rw [Bytes.ofLittleEndian_littleEndian 8 _ w.toNat_lt, UInt64.ofNat_toNat]

theorem Holds.left (h : e.Holds bs) : e.left = bs.length := by
  have := h.length
  rw [Entropy.left]
  omega

/-- Words that are written one after the other. -/
theorem Holds.draws {ws : List UInt64}
    (h : e.Holds (ws.flatMap (fun w => Bytes.littleEndian 8 w.toNat) ++ more)) :
    ∃ e', e.Draws ws e' ∧ e'.Holds more := by
  induction ws generalizing e with
  | nil => exact ⟨e, .nil e, h⟩
  | cons w ws ih =>
    rw [List.flatMap_cons, List.append_assoc] at h
    obtain ⟨e₁, hw, h₁⟩ := h.word
    obtain ⟨e', hws, hmore⟩ := ih h₁
    exact ⟨e', .cons hw hws, hmore⟩

end Entropy

namespace Draw

variable {ε α β : Type}

/-- Whatever is drawn comes from some bytes, whatever is behind them. -/
def Frugal (m : Draw ε α) : Prop :=
  ∀ e a e', m e = .ok (a, e') → ∃ used, ∀ (f : Entropy) (more : Bytes),
    f.Holds (used ++ more) → ∃ f', m f = .ok (a, f') ∧ f'.Holds more

theorem Frugal.pure (a : α) : Frugal (pure a : Draw ε α) := by
  intro e b e' h
  obtain ⟨rfl, -⟩ := Prod.mk.inj (Except.ok.inj h)
  exact ⟨[], fun f more hf => ⟨f, rfl, hf⟩⟩

theorem Frugal.throw (err : ε) : Frugal (throw err : Draw ε α) := by
  intro e a e' h
  cases h

theorem Frugal.bind {m : Draw ε α} {g : α → Draw ε β} (hm : Frugal m) (hg : ∀ a, Frugal (g a)) :
    Frugal (m >>= g) := by
  intro e b e'' h
  obtain ⟨a, e', hfirst, hsecond⟩ := bind_eq_ok.1 h
  obtain ⟨used, hused⟩ := hm e a e' hfirst
  obtain ⟨used', hused'⟩ := hg a e' b e'' hsecond
  refine ⟨used ++ used', fun f more hf => ?_⟩
  rw [List.append_assoc] at hf
  obtain ⟨f', hf', hholds⟩ := hused f _ hf
  obtain ⟨f'', hf'', hholds⟩ := hused' f' more hholds
  exact ⟨f'', bind_eq_ok.2 ⟨a, f', hf', hf''⟩, hholds⟩

theorem Frugal.bytes (n : Nat) : Frugal (bytes n) := by
  intro e bs e' h
  have hlength := length_bytes h
  refine ⟨bs, fun f more hf => ?_⟩
  obtain ⟨f', htake, hmore⟩ := hf.take
  rw [hlength] at htake
  exact ⟨f', ofTake_eq_ok.2 htake, hmore⟩

theorem Frugal.below (bound : UInt64) : Frugal (below bound) := by
  intro e r e' h
  have h := ofTake_eq_ok.1 h
  by_cases hb : bound ≤ 1
  · rw [Entropy.below_of_le_one hb] at h
    obtain ⟨rfl, -⟩ := Prod.mk.inj (Option.some.inj h)
    exact ⟨[], fun f more hf => ⟨f, ofTake_eq_ok.2 (Entropy.below_of_le_one hb f), hf⟩⟩
  · have hb := UInt64.not_le.1 hb
    rw [Entropy.below_eq_accepted hb] at h
    obtain ⟨ws, w, -, hrejected, hlt, hr⟩ := Entropy.accepted_eq_some_iff.1 h
    refine ⟨(ws ++ [w]).flatMap fun w => Bytes.littleEndian 8 w.toNat, fun f more hf => ?_⟩
    obtain ⟨f', hdraws, hmore⟩ := hf.draws
    refine ⟨f', ofTake_eq_ok.2 ?_, hmore⟩
    rw [Entropy.below_eq_accepted hb]
    exact Entropy.accepted_eq_some_iff.2 ⟨ws, w, hdraws, hrejected, hlt, hr⟩

theorem Plain.frugal {m : Draw CryptoError α} (h : Plain m) : m.Frugal := by
  induction h with
  | pure a => exact .pure a
  | bytes n => exact .bytes n
  | number bound => exact .below bound
  | bind _ _ ihm ihf => exact .bind ihm ihf

theorem Frugal.forTunnel {m : Draw CryptoError α} (hm : Frugal m) : Frugal m.forTunnel := by
  intro e a e' h
  obtain ⟨used, hused⟩ := hm e a e' (forTunnel_eq_ok.1 h)
  refine ⟨used, fun f more hf => ?_⟩
  obtain ⟨f', hf', hmore⟩ := hused f more hf
  exact ⟨f', forTunnel_eq_ok.2 hf', hmore⟩

/-- A result that nothing is drawn for. -/
theorem Frugal.lift (r : Except ε α) : Frugal (liftM r : Draw ε α) := by
  cases r with
  | error err => exact .throw err
  | ok a => exact .pure a

/-- **Every number below a bound can be drawn**, and no other; zero where nothing is below it. -/
theorem exists_below_iff {bound w : UInt64} :
    (∃ e e', Draw.below bound e = .ok (w, e')) ↔ w.toNat < max 1 bound.toNat := by
  constructor
  · rintro ⟨e, e', h⟩
    exact below_lt h
  · intro h
    by_cases hb : bound ≤ 1
    · have hsmall := UInt64.le_iff_toNat_le.1 hb
      have hone : (1 : UInt64).toNat = 1 := rfl
      obtain rfl : w = 0 := UInt64.toNat_inj.1 (by rw [UInt64.toNat_zero]; omega)
      exact ⟨.ofBytes [], .ofBytes [], ofTake_eq_ok.2 (Entropy.below_of_le_one hb _)⟩
    · have hb := UInt64.not_le.1 hb
      have hlarge := UInt64.lt_iff_toNat_lt.1 hb
      have hone : (1 : UInt64).toNat = 1 := rfl
      have hw : w < bound := UInt64.lt_iff_toNat_lt.2 (by omega)
      obtain ⟨e', hword, -⟩ := (Entropy.holds_ofBytes (Bytes.littleEndian 8 w.toNat ++ [])).word
      exact ⟨_, e', ofTake_eq_ok.2 (Entropy.below_of_word hb hw hword)⟩

end Draw

end SealedTunnel
