import Mathlib.Algebra.CharP.Two
import Mathlib.Algebra.Field.ZMod
import Mathlib.Algebra.Polynomial.Div
import Mathlib.Algebra.Polynomial.Degree.Lemmas
import Mathlib.Algebra.Polynomial.Monic
import Mathlib.RingTheory.AdjoinRoot
import Mathlib.Tactic.ComputeDegree
import Mathlib.Tactic.LinearCombination
import SealedTunnel.Crypto.ChaChaPoly
import SealedTunnel.Crypto.Gcm

/-!
# The hash of Galois/counter mode is a polynomial

An element of the field is a polynomial over the field of two elements, of degree less than 128, the
most significant bit first. The sum of two elements is that of the polynomials, and the bit-by-bit
product is their product modulo `X^128 + X^7 + X^2 + X + 1`. So the hash of a ciphertext is the
polynomial whose coefficients are its blocks and the block of its length, taken at the key.

## Main definitions

* `Gcm.modulus`, `Gcm.Element.poly`: the field polynomial, and an element as a polynomial

## Main results

* `Gcm.Element.poly_mul`: the product of two elements
* `Gcm.poly_hash`: the hash of a ciphertext
-/

namespace SealedTunnel

open Polynomial

/-- Terms that are added one by one, with a product by `r` after each, are the coefficients of a
polynomial at `r`; the last one is that of the first power. -/
theorem map_foldl_horner {α β R : Type} [CommRing R] {step : α → β → α} {value : α → R}
    {coeff : β → R} {r : R} (hstep : ∀ a b, value (step a b) = (value a + coeff b) * r)
    (l : List β) (a : α) :
    value (l.foldl step a) =
      value a * r ^ l.length + ∑ i : Fin l.length, coeff l[i] * r ^ (l.length - i) := by
  induction l generalizing a with
  | nil => simp
  | cons b l ih =>
    rw [List.foldl_cons, ih, hstep]
    simp only [List.length_cons, Fin.sum_univ_succ, Fin.getElem_fin, Fin.val_zero, Fin.val_succ,
      List.getElem_cons_zero, List.getElem_cons_succ, Nat.sub_zero, Nat.add_sub_add_right]
    ring

namespace Gcm

/-- The field polynomial without its first term. -/
noncomputable def reduction : (ZMod 2)[X] := X ^ 7 + X ^ 2 + X + 1

/-- The field polynomial. -/
noncomputable def modulus : (ZMod 2)[X] := X ^ 128 + reduction

theorem monic_modulus : modulus.Monic := by
  unfold modulus reduction
  apply monic_X_pow_add
  compute_degree!

theorem degree_modulus : modulus.degree = 128 := by
  unfold modulus reduction
  compute_degree!

/-- The first term of the field polynomial is as good as the others. -/
theorem pow_eq : X ^ 128 = reduction + modulus := by
  have htwo : reduction + reduction = 0 := CharTwo.add_self_eq_zero reduction
  unfold modulus
  linear_combination -htwo

/-! ## Words of bits as polynomials -/

section Bits

variable {n : Nat}

/-- The polynomial whose coefficients are the bits of a word, the most significant one first. -/
noncomputable def polyOf (v : BitVec n) : (ZMod 2)[X] :=
  ∑ i ∈ Finset.range n, if v.getMsbD i then X ^ i else 0

theorem coeff_polyOf (v : BitVec n) (d : Nat) :
    (polyOf v).coeff d = if v.getMsbD d then 1 else 0 := by
  have hterm (i : Nat) : (if v.getMsbD i then (X : (ZMod 2)[X]) ^ i else 0).coeff d =
      if i = d then (if v.getMsbD d then 1 else 0) else 0 := by
    rcases eq_or_ne i d with rfl | hne
    · cases v.getMsbD i <;> simp
    · cases v.getMsbD i <;> simp [coeff_X_pow, hne, hne.symm]
  rw [polyOf, finsetSum_coeff, Finset.sum_congr rfl fun i _ => hterm i, Finset.sum_ite_eq']
  split
  · rfl
  · rename_i hd
    simp [BitVec.getMsbD_of_ge _ _ (Nat.not_lt.1 (mt Finset.mem_range.2 hd))]

theorem degree_polyOf_lt (v : BitVec n) : (polyOf v).degree < n := by
  rw [degree_lt_iff_coeff_zero]
  intro d hd
  rw [coeff_polyOf, BitVec.getMsbD_of_ge _ _ hd]
  rfl

theorem polyOf_xor (v w : BitVec n) : polyOf (v ^^^ w) = polyOf v + polyOf w := by
  ext d
  rw [coeff_add, coeff_polyOf, coeff_polyOf, coeff_polyOf, BitVec.getMsbD_xor]
  cases v.getMsbD d <;> cases w.getMsbD d <;> decide

/-- A shift to the right is a product with the variable, but for the bit that falls out. -/
theorem polyOf_shift (hn : 0 < n) (v : BitVec n) :
    X * polyOf v = polyOf (v >>> 1) + if v.getLsbD 0 then X ^ n else 0 := by
  ext d
  cases d with
  | zero =>
    have hout : (if v.getLsbD 0 then (X : (ZMod 2)[X]) ^ n else 0).coeff 0 = 0 := by
      cases v.getLsbD 0 <;> simp [hn.ne]
    rw [coeff_X_mul_zero, coeff_add, coeff_polyOf, hout, BitVec.getMsbD_ushiftRight]
    simp
  | succ d =>
    rw [coeff_X_mul, coeff_add, coeff_polyOf, coeff_polyOf, BitVec.getMsbD_ushiftRight]
    rcases Nat.lt_trichotomy (d + 1) n with hd | rfl | hd
    · cases v.getLsbD 0 <;> simp [coeff_X_pow, hd, hd.ne]
    · have hlast : v.getMsbD d = v.getLsbD 0 := by
        rw [BitVec.getMsbD_eq_getLsbD]
        simp
      rw [hlast]
      cases v.getLsbD 0 <;> simp
    · rw [BitVec.getMsbD_of_ge _ _ (Nat.le_of_lt_succ hd)]
      cases v.getLsbD 0 <;> simp [coeff_X_pow, hd.not_gt, hd.ne']

/-- The polynomial of two words in a row. -/
theorem polyOf_append {m : Nat} (v : BitVec m) (w : BitVec n) :
    polyOf (v ++ w) = polyOf v + X ^ m * polyOf w := by
  ext d
  rw [coeff_add, coeff_X_pow_mul', coeff_polyOf, coeff_polyOf, coeff_polyOf, BitVec.getMsbD_append]
  by_cases hd : m ≤ d
  · simp [hd]
  · simp [hd]

end Bits

/-! ## Elements -/

/-- The bits of what a bit that falls out is reduced to. -/
def reducer : BitVec 128 := 0xe1#128 <<< 120

theorem polyOf_reducer : polyOf reducer = reduction := by
  ext d
  have hbit : reducer.getMsbD d = (0xe1#128).getMsbD (d + 120) := by
    rw [reducer, BitVec.getMsbD_shiftLeft]
  rw [coeff_polyOf, hbit, reduction]
  by_cases hd : d < 8
  · interval_cases d <;> simp [coeff_X, coeff_one]
  · have hge : 128 ≤ d + 120 := by omega
    rw [BitVec.getMsbD_of_ge _ _ hge]
    simp [coeff_X_pow, coeff_X, coeff_one, show d ≠ 7 by omega, show d ≠ 2 by omega,
      show 1 ≠ d by omega, show d ≠ 0 by omega]

namespace Element

/-- The bits of an element. -/
def bits (x : Element) : BitVec 128 := x.high.toBitVec ++ x.low.toBitVec

/-- An element as a polynomial. -/
noncomputable def poly (x : Element) : (ZMod 2)[X] := polyOf x.bits

theorem degree_poly_lt (x : Element) : x.poly.degree < modulus.degree := by
  rw [degree_modulus]
  exact degree_polyOf_lt _

theorem poly_add (x y : Element) : (x.add y).poly = x.poly + y.poly := by
  rw [poly, poly, poly, ← polyOf_xor, bits, bits, bits, BitVec.xor_append]
  rfl

theorem poly_zero : poly ⟨0, 0⟩ = 0 := by
  ext d
  have hbits : bits ⟨0, 0⟩ = 0#128 := by decide
  rw [poly, hbits, coeff_polyOf]
  simp

/-- The bits of an element that is shifted: the last one falls out, and is reduced. -/
theorem bits_shift (v : Element) :
    v.shift.bits = if v.bits.getLsbD 0 then (v.bits >>> 1) ^^^ reducer else v.bits >>> 1 := by
  have hlow : v.bits.getLsbD 0 = v.low.toBitVec.getLsbD 0 := by
    rw [bits, BitVec.getLsbD_append]
    rfl
  have hand : (v.low &&& 1 = 1) = (v.low.toBitVec.getLsbD 0 = true) := by
    rw [← UInt64.toNat_inj, UInt64.toNat_and, UInt64.toNat_one, Nat.and_one_is_mod]
    simp [BitVec.getLsbD, Nat.testBit_zero]
  have hplain : ((v.high >>> 1).toBitVec ++ ((v.low >>> 1) ||| (v.high <<< 63)).toBitVec) =
      v.bits >>> 1 := by
    apply BitVec.eq_of_getLsbD_eq
    intro i hi
    have hone : (1 : UInt64).toBitVec % 64 = 1#64 := by decide
    have hwide : (63 : UInt64).toBitVec % 64 = 63#64 := by decide
    simp only [bits, BitVec.getLsbD_append, BitVec.getLsbD_ushiftRight, UInt64.toBitVec_or,
      UInt64.toBitVec_shiftRight, UInt64.toBitVec_shiftLeft, hone, hwide, BitVec.getLsbD_or,
      BitVec.ushiftRight_eq', BitVec.shiftLeft_eq', BitVec.getLsbD_ushiftRight,
      BitVec.getLsbD_shiftLeft]
    rcases Nat.lt_trichotomy i 63 with h | rfl | h
    · have hin : 1 + i < 64 := by omega
      simp [hin, show i < 64 by omega, h]
    · simp
    · have hout : ¬ 1 + i < 64 := by omega
      simp [hout, show ¬ i < 64 by omega]
      congr 1
      omega
  have hreduced : ((v.high >>> 1 ^^^ 0xe100000000000000).toBitVec ++
      ((v.low >>> 1) ||| (v.high <<< 63)).toBitVec) = (v.bits >>> 1) ^^^ reducer := by
    have hparts : reducer = (0xe100000000000000 : UInt64).toBitVec ++ 0#64 := by decide
    rw [← hplain, hparts, BitVec.xor_append, BitVec.xor_zero]
    rfl
  rw [hlow, shift]
  simp only [hand]
  cases v.low.toBitVec.getLsbD 0 with
  | true => exact hreduced
  | false => exact hplain

/-- **A shift is a product with the variable**, but for a multiple of the field polynomial. -/
theorem poly_shift (v : Element) :
    X * v.poly = v.shift.poly + if v.bits.getLsbD 0 then modulus else 0 := by
  unfold poly
  rw [polyOf_shift (by decide) v.bits, bits_shift]
  cases v.bits.getLsbD 0 with
  | false => simp
  | true =>
    simp only [↓reduceIte, polyOf_xor, polyOf_reducer]
    rw [pow_eq, add_assoc]

/-! ## Products -/

/-- An element modulo the field polynomial. -/
noncomputable def residue (x : Element) : AdjoinRoot modulus := AdjoinRoot.mk modulus x.poly

theorem residue_add (x y : Element) : (x.add y).residue = x.residue + y.residue := by
  rw [residue, poly_add, map_add]
  rfl

theorem residue_zero : residue ⟨0, 0⟩ = 0 := by
  rw [residue, poly_zero, map_zero]

theorem residue_shift (v : Element) : v.shift.residue = AdjoinRoot.root modulus * v.residue := by
  have h := congrArg (AdjoinRoot.mk modulus) (poly_shift v)
  rw [map_mul, map_add, AdjoinRoot.mk_X] at h
  have hzero : AdjoinRoot.mk modulus (if v.bits.getLsbD 0 then modulus else 0) = 0 := by
    cases v.bits.getLsbD 0 <;> simp
  rw [hzero, add_zero] at h
  exact h.symm

/-- The next bit of a word comes first in the word that is shifted. -/
theorem getMsbD_shiftLeft_one (x : UInt64) (i : Nat) :
    (x <<< 1).toBitVec.getMsbD i = x.toBitVec.getMsbD (i + 1) := by
  have hone : (1 : UInt64).toBitVec % 64 = 1#64 := by decide
  rw [UInt64.toBitVec_shiftLeft, hone, BitVec.shiftLeft_eq', BitVec.getMsbD_shiftLeft]
  rfl

theorem shiftRight_eq_one (x : UInt64) : (x >>> 63 = 1) = (x.toBitVec.getMsbD 0 = true) := by
  have hlt : x.toNat < 2 ^ 64 := x.toNat_lt
  rw [← UInt64.toNat_inj, UInt64.toNat_shiftRight, UInt64.toNat_one, BitVec.getMsbD_eq_getLsbD,
    BitVec.getLsbD, Nat.testBit, Nat.shiftRight_eq_div_pow, Nat.shiftRight_eq_div_pow]
  simp only [UInt64.toNat_toBitVec]
  simp
  omega

/-- The sum of the multiples that the leading bits of a word select. -/
theorem residue_accumulate (n : Nat) (x : UInt64) (v sum : Element) :
    (accumulate n x v sum).1.residue = AdjoinRoot.root modulus ^ n * v.residue ∧
      (accumulate n x v sum).2.residue = sum.residue +
        (∑ i ∈ Finset.range n, if x.toBitVec.getMsbD i then AdjoinRoot.root modulus ^ i else 0) *
          v.residue := by
  induction n generalizing x v sum with
  | zero => simp [accumulate]
  | succ n ih =>
    obtain ⟨hv, hsum⟩ := ih (x <<< 1) v.shift (if x >>> 63 = 1 then sum.add v else sum)
    rw [accumulate]
    constructor
    · rw [hv, residue_shift]
      ring
    · have hfirst : (if x >>> 63 = 1 then sum.add v else sum).residue =
          sum.residue + (if x.toBitVec.getMsbD 0 then 1 else 0) * v.residue := by
        simp only [shiftRight_eq_one]
        cases x.toBitVec.getMsbD 0 with
        | true => simp [residue_add]
        | false => simp
      have hrest (i : Nat) : (if (x <<< 1).toBitVec.getMsbD i then AdjoinRoot.root modulus ^ i
          else 0) * AdjoinRoot.root modulus =
            if x.toBitVec.getMsbD (i + 1) then AdjoinRoot.root modulus ^ (i + 1) else 0 := by
        rw [getMsbD_shiftLeft_one]
        cases x.toBitVec.getMsbD (i + 1) with
        | true => simp [pow_succ]
        | false => simp
      rw [hsum, hfirst, residue_shift, ← mul_assoc, Finset.sum_mul,
        Finset.sum_congr rfl fun i _ => hrest i, Finset.sum_range_succ', pow_zero]
      ring

theorem residue_eq (x : Element) :
    x.residue =
      (∑ i ∈ Finset.range 64,
          if x.high.toBitVec.getMsbD i then AdjoinRoot.root modulus ^ i else 0) +
        (∑ i ∈ Finset.range 64,
          if x.low.toBitVec.getMsbD i then AdjoinRoot.root modulus ^ i else 0) *
        AdjoinRoot.root modulus ^ 64 := by
  have hword (w : BitVec 64) : AdjoinRoot.mk modulus (polyOf w) =
      ∑ i ∈ Finset.range 64, if w.getMsbD i then AdjoinRoot.root modulus ^ i else 0 := by
    rw [polyOf, map_sum]
    apply Finset.sum_congr rfl
    intro i _
    cases w.getMsbD i with
    | true => simp only [↓reduceIte, map_pow, AdjoinRoot.mk_X]
    | false => simp
  rw [residue, poly, bits, polyOf_append, map_add, map_mul, map_pow, AdjoinRoot.mk_X, hword, hword,
    mul_comm (_ ^ 64)]

/-- **The bit-by-bit product is that of the residues.** -/
theorem residue_mul (x y : Element) : (x.mul y).residue = x.residue * y.residue := by
  obtain ⟨hv, hsum⟩ := residue_accumulate 64 x.high y ⟨0, 0⟩
  rw [mul]
  generalize accumulate 64 x.high y ⟨0, 0⟩ = reached at hv hsum ⊢
  obtain ⟨v, sum⟩ := reached
  obtain ⟨-, hprod⟩ := residue_accumulate 64 x.low v sum
  dsimp only at hv hsum ⊢
  rw [hprod, hsum, hv, residue_zero, residue_eq x]
  ring

/-- A polynomial of small degree is the remainder of every polynomial that has its residue. -/
theorem eq_modByMonic_of_mk {R : Type} [CommRing R] {m p q : R[X]} (hm : m.Monic)
    (hq : q.degree < m.degree) (h : AdjoinRoot.mk m q = AdjoinRoot.mk m p) : q = p %ₘ m := by
  nontriviality R
  have hdvd : m ∣ q - p := AdjoinRoot.mk_eq_mk.1 h
  rw [← modByMonic_eq_of_dvd_sub hm hdvd]
  exact ((modByMonic_eq_self_iff hm).2 hq).symm

/-- An element is the remainder of every polynomial that has its residue. -/
theorem poly_eq_mod {x : Element} {p : (ZMod 2)[X]} (h : x.residue = AdjoinRoot.mk modulus p) :
    x.poly = p %ₘ modulus :=
  eq_modByMonic_of_mk monic_modulus x.degree_poly_lt h

/-- **The product of two elements** is that of their polynomials, modulo the field polynomial. -/
theorem poly_mul (x y : Element) : (x.mul y).poly = (x.poly * y.poly) %ₘ modulus := by
  apply poly_eq_mod
  rw [residue_mul, map_mul]
  rfl

end Element

/-! ## The hash -/

/-- What is hashed of a ciphertext: its blocks, and the block of its length in bits. -/
def terms (text : Bytes) : List Element :=
  (Bytes.blocks 16 text).map .ofBytes ++ [⟨0, UInt64.ofNat (text.length * 8)⟩]

theorem hash_eq (h : Element) (text : Bytes) :
    hash h text = (terms text).foldl (fun y term => (y.add term).mul h) ⟨0, 0⟩ := by
  rw [terms, List.foldl_append, List.foldl_map]
  rfl

/-- **The hash of a ciphertext** is the polynomial whose coefficients are the terms, the last one
that of the first power, taken at the key and reduced modulo the field polynomial. -/
theorem poly_hash (h : Element) (text : Bytes) :
    (hash h text).poly =
      (∑ i : Fin (terms text).length, (terms text)[i].poly * h.poly ^ ((terms text).length - i)) %ₘ
        modulus := by
  apply Element.poly_eq_mod
  have hstep (y term : Element) :
      ((y.add term).mul h).residue = (y.residue + term.residue) * h.residue := by
    rw [Element.residue_mul, Element.residue_add]
  rw [hash_eq, map_foldl_horner hstep, Element.residue_zero, zero_mul, zero_add, map_sum]
  apply Finset.sum_congr rfl
  intro i _
  rw [map_mul, map_pow]
  rfl

end Gcm

/-! ## The code -/

namespace ChaChaPoly

/-- The blocks of a message as numbers, each with a one behind its last byte. -/
def numbers (message : Bytes) : List Nat :=
  (Bytes.blocks 16 message).map fun block => Bytes.ofLittleEndian (block ++ [1])

theorem foldl_lt_prime (r : Nat) (l : List Nat) {acc : Nat} (h : acc < prime) :
    l.foldl (fun acc n => (acc + n) * r % prime) acc < prime := by
  induction l generalizing acc with
  | nil => exact h
  | cons n l ih => exact ih (Nat.mod_lt _ (Nat.zero_lt_of_lt h))

/-- **The code of a message** is the polynomial whose coefficients are the numbers of its blocks,
the last one that of the first power, taken at the first half of the key and reduced modulo the
prime, plus the second half of the key. -/
theorem poly1305_eq (key message : Bytes) :
    poly1305 key message =
      let r := Bytes.ofLittleEndian (key.take 16) &&& clampMask
      Bytes.littleEndian 16
        ((∑ i : Fin (numbers message).length,
          (numbers message)[i] * r ^ ((numbers message).length - i)) % prime +
            Bytes.ofLittleEndian (key.drop 16)) := by
  dsimp only
  unfold poly1305
  generalize Bytes.ofLittleEndian (key.take 16) &&& clampMask = r
  have hcode : (Bytes.blocks 16 message).foldl
      (fun acc b => (acc + Bytes.ofLittleEndian (b ++ [1])) * r % prime) 0 =
        (numbers message).foldl (fun acc n => (acc + n) * r % prime) 0 := by
    rw [numbers, List.foldl_map]
  have hstep (acc n : Nat) :
      (((acc + n) * r % prime : Nat) : ZMod prime) =
        ((acc : ZMod prime) + (n : ZMod prime)) * r := by
    rw [ZMod.natCast_mod, Nat.cast_mul, Nat.cast_add]
  have hcast := map_foldl_horner hstep (numbers message) 0
  rw [Nat.cast_zero, zero_mul, zero_add] at hcast
  -- The code is below the prime, so its residue says which number it is.
  have hmod : (numbers message).foldl (fun acc n => (acc + n) * r % prime) 0 =
      (∑ i : Fin (numbers message).length,
        (numbers message)[i] * r ^ ((numbers message).length - i)) % prime := by
    rw [← Nat.mod_eq_of_lt (foldl_lt_prime r (numbers message) (by decide)),
      ← ZMod.natCast_eq_natCast_iff', hcast, Nat.cast_sum]
    apply Finset.sum_congr rfl
    intro i _
    rw [Nat.cast_mul, Nat.cast_pow]
  dsimp only
  rw [hcode, hmod]

end ChaChaPoly

end SealedTunnel
