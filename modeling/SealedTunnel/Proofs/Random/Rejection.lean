import Mathlib.Algebra.Group.Nat.Defs
import SealedTunnel.Proofs.Bytes
import SealedTunnel.Proofs.Random

/-!
# Draws by rejection

A number below a bound is drawn from words of 64 bits: words at or above the zone of the bound are
rejected, and the first one below it gives its residue. So the number is known from the words that
were drawn for it, and there is none only if the supply runs out before a word is accepted.

## Main definitions

* `Entropy.Draws`: the words that a supply gives, one after the other

## Main results

* `Entropy.toNat_zone`, `Entropy.half_le_zone`: what the zone is, and that it is large
* `Entropy.accepted_eq_some_iff`, `Entropy.accepted_eq_none_iff`: what is drawn, and when nothing is
* `Entropy.below_of_word`: a first word that is below the bound is drawn itself
-/

namespace SealedTunnel.Entropy

variable {bound limit r w : UInt64} {e e' e'' : Entropy} {ws ws' : List UInt64}

/-! ## The zone -/

/-- **The zone is a multiple of the bound**: of all that a word can be below, the largest. -/
theorem toNat_zone (bound : UInt64) :
    (zone bound).toNat = bound.toNat * ((2 ^ 64 - 1) / bound.toNat) := by
  have hmax : (0xFFFFFFFFFFFFFFFF : UInt64).toNat = 2 ^ 64 - 1 := by decide
  have hle : (0xFFFFFFFFFFFFFFFF % bound : UInt64) ≤ 0xFFFFFFFFFFFFFFFF :=
    UInt64.le_iff_toNat_le.2 (by rw [UInt64.toNat_mod]; exact Nat.mod_le ..)
  have hdiv := Nat.div_add_mod (2 ^ 64 - 1) bound.toNat
  rw [zone, UInt64.toNat_sub_of_le _ _ hle, UInt64.toNat_mod, hmax]
  omega

/-- Every number below a bound lies in its zone. -/
theorem lt_zone (hw : w < bound) : w < zone bound := by
  have hw := UInt64.lt_iff_toNat_lt.1 hw
  have hpos : 0 < (2 ^ 64 - 1) / bound.toNat :=
    Nat.div_pos (Nat.le_of_lt_succ bound.toNat_lt) (Nat.zero_lt_of_lt hw)
  rw [UInt64.lt_iff_toNat_lt, toNat_zone]
  exact Nat.lt_of_lt_of_le hw (Nat.le_mul_of_pos_right _ hpos)

/-- **At least half of all words lie in the zone.** -/
theorem half_le_zone (hb : 0 < bound) : 2 ^ 63 ≤ (zone bound).toNat := by
  have hpos := UInt64.lt_iff_toNat_lt.1 hb
  have hlt := bound.toNat_lt
  rw [toNat_zone]
  by_cases hsmall : bound.toNat ≤ 2 ^ 63
  · have hdiv := Nat.div_add_mod (2 ^ 64 - 1) bound.toNat
    have hmod := Nat.mod_lt (2 ^ 64 - 1) hpos
    omega
  · have hone : (2 ^ 64 - 1) / bound.toNat = 1 := Nat.div_eq_of_lt_le (by omega) (by omega)
    rw [hone]
    omega

/-! ## Words -/

/-- The supply gives these words, each from its next eight bytes, and then is `e'`. -/
inductive Draws : Entropy → List UInt64 → Entropy → Prop
  | nil (e : Entropy) : Draws e [] e
  | cons {w : UInt64} {ws : List UInt64} {e e' e'' : Entropy} (hw : e.word = some (w, e'))
      (hws : Draws e' ws e'') : Draws e (w :: ws) e''

/-- A supply gives no word when fewer than eight bytes are left. -/
theorem word_eq_none_iff : e.word = none ↔ e.left < 8 := by
  rw [word, Option.map_eq_none_iff, take, left]
  split
  · exact iff_of_false (Option.some_ne_none _) (by omega)
  · exact iff_of_true rfl (by omega)

theorem accepted_of_none (h : e.word = none) : accepted limit bound e = none := by
  rw [accepted]
  split
  · rfl
  · rename_i hw
    rw [h] at hw
    cases hw

theorem accepted_of_word (h : e.word = some (w, e')) :
    accepted limit bound e =
      if w < limit then some (w % bound, e') else accepted limit bound e' := by
  rw [accepted]
  split
  · rename_i hw
    rw [h] at hw
    cases hw
  · rename_i hw
    rw [h] at hw
    obtain ⟨rfl, rfl⟩ := Prod.mk.inj (Option.some.inj hw)
    rfl

/-- Rejected words are passed over. -/
theorem accepted_of_draws (h : e.Draws ws e') (hrejected : ∀ v ∈ ws, limit ≤ v) :
    accepted limit bound e = accepted limit bound e' := by
  induction h with
  | nil e => rfl
  | @cons v ws e e₁ e' hw hws ih =>
    obtain ⟨hv, hrejected⟩ := List.forall_mem_cons.1 hrejected
    rw [accepted_of_word hw, if_neg (UInt64.not_lt.2 hv), ih hrejected]

theorem Draws.concat (h : e.Draws ws e') (hw : e'.word = some (w, e'')) :
    e.Draws (ws ++ [w]) e'' := by
  induction h with
  | nil e => exact .cons hw (.nil _)
  | cons hv hws ih => exact .cons hv (ih hw)

theorem Draws.of_concat (h : e.Draws (ws ++ [w]) e'') :
    ∃ e', e.Draws ws e' ∧ e'.word = some (w, e'') := by
  induction ws generalizing e with
  | nil =>
    cases h with
    | cons hw hnil =>
      cases hnil
      exact ⟨e, .nil e, hw⟩
  | cons v ws ih =>
    cases h with
    | cons hv hws =>
      obtain ⟨e', hdraws, hw⟩ := ih hws
      exact ⟨e', .cons hv hdraws, hw⟩

/-- However a supply goes on, its words are rejected one by one until one is accepted, or until
there are no more. -/
theorem exists_draws (limit : UInt64) (e : Entropy) :
    ∃ ws e', e.Draws ws e' ∧ (∀ v ∈ ws, limit ≤ v) ∧
      (e'.word = none ∨ ∃ w e'', e'.word = some (w, e'') ∧ w < limit) := by
  -- The induction is on the bytes that are left.
  induction hleft : e.left using Nat.strongRecOn generalizing e with
  | ind n ih =>
    cases hw : e.word with
    | none => exact ⟨[], e, .nil e, nofun, .inl hw⟩
    | some r =>
      obtain ⟨w, e₁⟩ := r
      by_cases hlt : w < limit
      · exact ⟨[], e, .nil e, nofun, .inr ⟨w, e₁, hw, hlt⟩⟩
      · obtain ⟨ws, e', hdraws, hrejected, hend⟩ := ih _ (hleft ▸ left_of_word hw) e₁ rfl
        refine ⟨w :: ws, e', .cons hw hdraws, ?_, hend⟩
        exact List.forall_mem_cons.2 ⟨UInt64.not_lt.1 hlt, hrejected⟩

/-! ## What is drawn -/

/-- **The number drawn is the residue of the first word that is accepted**, and nothing behind that
word is used. -/
theorem accepted_eq_some_iff :
    accepted limit bound e = some (r, e') ↔
      ∃ ws w, e.Draws (ws ++ [w]) e' ∧ (∀ v ∈ ws, limit ≤ v) ∧ w < limit ∧ r = w % bound := by
  constructor
  · intro h
    obtain ⟨ws, e₁, hdraws, hrejected, hend⟩ := exists_draws limit e
    rw [accepted_of_draws hdraws hrejected] at h
    rcases hend with hnone | ⟨w, e₂, hw, hlt⟩
    · rw [accepted_of_none hnone] at h
      cases h
    · rw [accepted_of_word hw, if_pos hlt] at h
      obtain ⟨rfl, rfl⟩ := Prod.mk.inj (Option.some.inj h)
      exact ⟨ws, w, hdraws.concat hw, hrejected, hlt, rfl⟩
  · rintro ⟨ws, w, hdraws, hrejected, hlt, rfl⟩
    obtain ⟨e₁, hws, hw⟩ := hdraws.of_concat
    rw [accepted_of_draws hws hrejected, accepted_of_word hw, if_pos hlt]

/-- **Nothing is drawn only if the supply runs out** before a word is accepted. -/
theorem accepted_eq_none_iff :
    accepted limit bound e = none ↔
      ∃ ws e', e.Draws ws e' ∧ (∀ v ∈ ws, limit ≤ v) ∧ e'.left < 8 := by
  constructor
  · intro h
    obtain ⟨ws, e', hdraws, hrejected, hend⟩ := exists_draws limit e
    rcases hend with hnone | ⟨w, e₂, hw, hlt⟩
    · exact ⟨ws, e', hdraws, hrejected, word_eq_none_iff.1 hnone⟩
    · rw [accepted_of_draws hdraws hrejected, accepted_of_word hw, if_pos hlt] at h
      cases h
  · rintro ⟨ws, e', hdraws, hrejected, hleft⟩
    rw [accepted_of_draws hdraws hrejected, accepted_of_none (word_eq_none_iff.2 hleft)]

theorem below_of_le_one (hb : bound ≤ 1) (e : Entropy) : e.below bound = some (0, e) := by
  rw [below, if_pos hb]

theorem below_eq_accepted (hb : 1 < bound) (e : Entropy) :
    e.below bound = accepted (zone bound) bound e := by
  rw [below, if_neg (UInt64.not_le.2 hb)]

/-- A first word that is below the bound is the number that is drawn. -/
theorem below_of_word (hb : 1 < bound) (hw : w < bound) (h : e.word = some (w, e')) :
    e.below bound = some (w, e') := by
  have hmod : w % bound = w := by
    rw [← UInt64.toNat_inj, UInt64.toNat_mod]
    exact Nat.mod_eq_of_lt (UInt64.lt_iff_toNat_lt.1 hw)
  rw [below_eq_accepted hb, accepted_of_word h, if_pos (lt_zone hw), hmod]

end SealedTunnel.Entropy
