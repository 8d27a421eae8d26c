import Mathlib.Algebra.Order.Field.Rat
import Mathlib.Data.Int.CardIntervalMod
import Mathlib.Data.Set.Card
import Mathlib.Tactic.Linarith
import Mathlib.Tactic.NormNum
import SealedTunnel.Proofs.Random.Supply

/-!
# Numbers below a bound are uniform

Of all words of 64 bits, those below the zone of a bound are accepted, and the zone is a multiple of
the bound. So every number below the bound comes from equally many words, and a word that is drawn
uniformly is accepted in at least one case out of two.

## Main definitions

* `Entropy.once?`: what is drawn when there is one word and no more
* `Entropy.chance`: the part of all words of which something holds

## Main results

* `Entropy.once?_eq`: which words are accepted, and what they give
* `Entropy.ncard_residue`: every number comes from equally many words
* `Entropy.uniform_by_rejection`: what this says of the draws, and of the words that they use
-/

namespace SealedTunnel.Entropy

variable {bound r w : UInt64} {e e' : Entropy}

theorem pos_of_one_lt (hb : 1 < bound) : 0 < bound :=
  UInt64.lt_trans (by decide) hb

/-! ## One word -/

/-- The number that is drawn when these eight bytes are all that there is; none if the word is
rejected. -/
def once? (bound w : UInt64) : Option UInt64 :=
  ((ofBytes (Bytes.littleEndian 8 w.toNat)).below bound).map Prod.fst

/-- **The words below the zone are accepted**, and give their residues. -/
theorem once?_eq (hb : 1 < bound) (w : UInt64) :
    once? bound w = if w < zone bound then some (w % bound) else none := by
  have hholds := holds_ofBytes (Bytes.littleEndian 8 w.toNat)
  rw [← List.append_nil (Bytes.littleEndian 8 w.toNat)] at hholds
  obtain ⟨e', hword, hnone⟩ := hholds.word
  rw [List.append_nil] at hword
  have hleft : e'.left < 8 := by
    rw [hnone.left]
    decide
  rw [once?, below_eq_accepted hb, accepted_of_word hword,
    accepted_of_none (word_eq_none_iff.2 hleft)]
  split <;> rfl

theorem isSome_once? (hb : 1 < bound) (w : UInt64) :
    (once? bound w).isSome ↔ w < zone bound := by
  rw [once?_eq hb]
  split <;> simp [*]

theorem once?_eq_some (hb : 1 < bound) :
    once? bound w = some r ↔ w < zone bound ∧ w % bound = r := by
  rw [once?_eq hb]
  split <;> simp [*]

theorem once?_eq_none (hb : 1 < bound) : once? bound w = none ↔ zone bound ≤ w := by
  rw [once?_eq hb]
  split
  · exact iff_of_false nofun (UInt64.not_le.2 ‹_›)
  · exact iff_of_true rfl (UInt64.not_lt.1 ‹_›)

/-- What is drawn is below the bound. -/
theorem lt_of_once? (hb : 1 < bound) (h : once? bound w = some r) : r < bound := by
  obtain ⟨-, rfl⟩ := (once?_eq_some hb).1 h
  exact UInt64.mod_lt _ (pos_of_one_lt hb)

/-! ## Counting words -/

/-- Words are counted by their numbers. -/
theorem ncard_words (p : Nat → Prop) [DecidablePred p] {n : Nat} (hn : n ≤ 2 ^ 64) :
    {w : UInt64 | w.toNat < n ∧ p w.toNat}.ncard = n.count p := by
  have hinjective : Function.Injective UInt64.toNat := fun _ _ => UInt64.toNat_inj.1
  have himage : UInt64.toNat '' {w | w.toNat < n ∧ p w.toNat} =
      ((Finset.range n).filter p : Finset Nat) := by
    ext k
    rw [Finset.mem_coe, Finset.mem_filter, Finset.mem_range]
    constructor
    · rintro ⟨w, hw, rfl⟩
      exact hw
    · rintro ⟨hk, hp⟩
      have hword : (UInt64.ofNat k).toNat = k :=
        UInt64.toNat_ofNat_of_lt' (Nat.lt_of_lt_of_le hk hn)
      refine ⟨UInt64.ofNat k, ?_, hword⟩
      rw [Set.mem_ofPred_eq, hword]
      exact ⟨hk, hp⟩
  rw [← Set.ncard_image_of_injective _ hinjective, himage, Set.ncard_coe_finset,
    Nat.count_eq_card_filter_range]

/-- There are as many accepted words as the zone says. -/
theorem ncard_accepted (hb : 1 < bound) :
    {w | (once? bound w).isSome}.ncard = (zone bound).toNat := by
  have hset : {w | (once? bound w).isSome} =
      {w | w.toNat < (zone bound).toNat ∧ (fun _ => True) w.toNat} := by
    ext w
    rw [Set.mem_ofPred_eq, Set.mem_ofPred_eq, isSome_once? hb, UInt64.lt_iff_toNat_lt, and_true]
  rw [hset, ncard_words (fun _ => True) (Nat.le_of_lt (zone bound).toNat_lt), Nat.count_true]

/-- **Every number below the bound comes from equally many words.** -/
theorem ncard_residue (hb : 1 < bound) (hr : r < bound) :
    {w | once? bound w = some r}.ncard = (zone bound).toNat / bound.toNat := by
  have hr := UInt64.lt_iff_toNat_lt.1 hr
  have hpos : 0 < bound.toNat := Nat.zero_lt_of_lt hr
  have hset : {w | once? bound w = some r} =
      {w | w.toNat < (zone bound).toNat ∧ w.toNat ≡ r.toNat [MOD bound.toNat]} := by
    ext w
    rw [Set.mem_ofPred_eq, Set.mem_ofPred_eq, once?_eq_some hb, UInt64.lt_iff_toNat_lt,
      ← UInt64.toNat_inj, UInt64.toNat_mod, Nat.ModEq, Nat.mod_eq_of_lt hr]
  -- The zone is a multiple of the bound, so no residue comes once more than the others.
  have hwhole : (zone bound).toNat % bound.toNat = 0 := by
    rw [toNat_zone]
    exact Nat.mul_mod_right ..
  rw [hset, ncard_words (· ≡ r.toNat [MOD bound.toNat]) (Nat.le_of_lt (zone bound).toNat_lt),
    Nat.count_modEq_card _ hpos, hwhole, if_neg (Nat.not_lt_zero _), Nat.add_zero]

/-- A number comes from one word at least. -/
theorem one_le_ncard_residue (hb : 0 < bound) : 1 ≤ (zone bound).toNat / bound.toNat := by
  have hpos : 0 < bound.toNat := UInt64.lt_iff_toNat_lt.1 hb
  rw [toNat_zone, Nat.mul_div_cancel_left _ hpos]
  exact Nat.div_pos (Nat.le_of_lt_succ bound.toNat_lt) hpos

/-! ## Chances -/

/-- The part of all words of which something holds. -/
noncomputable def chance (p : UInt64 → Prop) : ℚ :=
  {w | p w}.ncard / 2 ^ 64

/-- **A word is accepted in at least one case out of two.** -/
theorem half_le_chance (hb : 1 < bound) : 1 / 2 ≤ chance fun w => (once? bound w).isSome := by
  have hhalf : ((2 ^ 63 : Nat) : ℚ) ≤ (zone bound).toNat :=
    Nat.cast_le.2 (half_le_zone (pos_of_one_lt hb))
  rw [chance, ncard_accepted hb, le_div_iff₀ (by norm_num)]
  push_cast at hhalf
  linarith

/-- **Of the words that are accepted, every number has the same part.** -/
theorem chance_residue (hb : 1 < bound) (hr : r < bound) :
    chance (once? bound · = some r) / chance (fun w => (once? bound w).isSome) =
      1 / bound.toNat := by
  have hpos : 0 < bound.toNat := UInt64.lt_iff_toNat_lt.1 (pos_of_one_lt hb)
  have hpart := one_le_ncard_residue (pos_of_one_lt hb)
  have hzone : (zone bound).toNat = bound.toNat * ((zone bound).toNat / bound.toNat) := by
    rw [toNat_zone, Nat.mul_div_cancel_left _ hpos]
  rw [chance, chance, ncard_accepted hb, ncard_residue hb hr,
    div_div_div_cancel_right₀ (by norm_num)]
  generalize (zone bound).toNat / bound.toNat = part at hpart hzone
  have hpart : (part : ℚ) ≠ 0 := Nat.cast_ne_zero.2 (by omega)
  rw [hzone, Nat.cast_mul, div_mul_cancel_right₀ hpart, one_div]

/-! ## All draws -/

/-- The first word that gives a number on its own gives the number that is drawn. -/
theorem below_eq_ok_iff (hb : 1 < bound) :
    Draw.below bound e = .ok (r, e') ↔
      ∃ ws w, e.Draws (ws ++ [w]) e' ∧ (∀ v ∈ ws, once? bound v = none) ∧
        once? bound w = some r := by
  rw [Draw.below, Draw.ofTake_eq_ok, below_eq_accepted hb, accepted_eq_some_iff]
  simp only [once?_eq_none hb, once?_eq_some hb]
  constructor
  · rintro ⟨ws, w, hdraws, hrejected, hlt, rfl⟩
    exact ⟨ws, w, hdraws, hrejected, hlt, rfl⟩
  · rintro ⟨ws, w, hdraws, hrejected, hlt, rfl⟩
    exact ⟨ws, w, hdraws, hrejected, hlt, rfl⟩

/-- Drawing fails only where the supply ends behind words that give nothing. -/
theorem below_eq_error_iff (hb : 1 < bound) {err : CryptoError} :
    Draw.below bound e = .error err ↔
      err = .noEntropy ∧
        ∃ ws e', e.Draws ws e' ∧ (∀ v ∈ ws, once? bound v = none) ∧ e'.left < 8 := by
  have hdry : e.below bound = none ↔
      ∃ ws e', e.Draws ws e' ∧ (∀ v ∈ ws, once? bound v = none) ∧ e'.left < 8 := by
    simp only [below_eq_accepted hb, accepted_eq_none_iff, once?_eq_none hb]
  rw [← hdry]
  constructor
  · intro h
    obtain rfl := Draw.OnlyDry.below bound e err h
    refine ⟨rfl, ?_⟩
    cases hnone : e.below bound with
    | none => rfl
    | some r =>
      rw [Draw.below, Draw.ofTake, hnone] at h
      cases h
  · rintro ⟨rfl, hnone⟩
    rw [Draw.below, Draw.ofTake, hnone]
    rfl

/-- **Numbers below a bound are uniform, by rejection.** The words that are accepted are those below
the zone, which is a multiple of the bound and at least half of all words; each number below the
bound comes from equally many of them, and from one at least. So a word is accepted in at least one
case out of two, and if it is, all numbers are equally likely. Of words in a row the first one that
is accepted decides, whatever is behind it, and drawing fails only if the supply ends before that.
For a bound of zero or one nothing is drawn. -/
theorem uniform_by_rejection (bound : UInt64) :
    (1 < bound →
      (∀ w, (once? bound w).isSome ↔ w < zone bound) ∧
      {w | (once? bound w).isSome}.ncard = (zone bound).toNat ∧
      bound.toNat ∣ (zone bound).toNat ∧ 2 ^ 63 ≤ (zone bound).toNat ∧
      1 ≤ (zone bound).toNat / bound.toNat ∧
      (∀ r < bound, {w | once? bound w = some r}.ncard = (zone bound).toNat / bound.toNat) ∧
      1 / 2 ≤ chance (fun w => (once? bound w).isSome) ∧
      (∀ r < bound, chance (once? bound · = some r) / chance (fun w => (once? bound w).isSome) =
        1 / bound.toNat) ∧
      (∀ w r, once? bound w = some r → r = w % bound ∧ r < bound) ∧
      (∀ e r e', Draw.below bound e = .ok (r, e') ↔
        ∃ ws w, e.Draws (ws ++ [w]) e' ∧ (∀ v ∈ ws, once? bound v = none) ∧
          once? bound w = some r) ∧
      (∀ e err, Draw.below bound e = .error err ↔ err = .noEntropy ∧
        ∃ ws e', e.Draws ws e' ∧ (∀ v ∈ ws, once? bound v = none) ∧ e'.left < 8)) ∧
    (bound ≤ 1 → ∀ e, Draw.below bound e = .ok (0, e)) := by
  constructor
  · intro hb
    have hpos := pos_of_one_lt hb
    have hdvd : bound.toNat ∣ (zone bound).toNat := by
      rw [toNat_zone]
      exact Nat.dvd_mul_right ..
    refine ⟨isSome_once? hb, ncard_accepted hb, hdvd, half_le_zone hpos, one_le_ncard_residue hpos,
      fun r => ncard_residue hb, half_le_chance hb, fun r => chance_residue hb, ?_,
      fun e r e' => below_eq_ok_iff hb, fun e err => below_eq_error_iff hb⟩
    intro w r h
    exact ⟨((once?_eq_some hb).1 h).2.symm, lt_of_once? hb h⟩
  · intro hb e
    exact Draw.ofTake_eq_ok.2 (below_of_le_one hb e)

/-- One more than half of all words: each number comes from one word, and the largest word is
passed over. -/
theorem uniform_by_rejection_past_half :
    let bound : UInt64 := 9223372036854775809
    let last : UInt64 := 0xFFFFFFFFFFFFFFFF
    let words := [last, 7].flatMap fun w => Bytes.littleEndian 8 w.toNat
    1 < bound ∧ {w | (once? bound w).isSome}.ncard = 9223372036854775809 ∧
      {w | once? bound w = some 7}.ncard = 1 ∧
      ∃ e', Draw.below bound (ofBytes words) = .ok (7, e') := by
  intro bound last words
  have hb : 1 < bound := by decide
  have hzone : zone bound = bound := by decide
  obtain ⟨haccepted, hcount, -, -, -, hresidue, -, -, -, hdrawn, -⟩ :=
    (uniform_by_rejection bound).1 hb
  have hpart := hresidue 7 (by decide)
  rw [hzone] at hcount hpart
  refine ⟨hb, hcount, hpart.trans (Nat.div_self (by decide)), ?_⟩
  have hwords := holds_ofBytes words
  rw [← List.append_nil words] at hwords
  obtain ⟨e', hdraws, -⟩ := hwords.draws
  rw [List.append_nil] at hdraws
  have hlast : once? bound last = none := by
    have hnot : ¬(once? bound last).isSome := by
      rw [haccepted, hzone]
      decide
    simpa using hnot
  refine ⟨e', (hdrawn _ _ _).2 ⟨[last], 7, hdraws, ?_, ?_⟩⟩
  · intro v hv
    rw [List.mem_singleton.1 hv]
    exact hlast
  · rw [once?_eq_some hb, hzone]
    decide

end SealedTunnel.Entropy
