import SealedTunnel.Proofs.Config.Range
import SealedTunnel.Proofs.Random.Supply

/-!
# Which delays occur

The delay after a frame is drawn from the whole milliseconds between two bounds, the lower of which
counts for no more than the upper one. A delay of zero is none at all; so none occurs in two ways,
because nothing is drawn, or because zero is.

## Main definitions

* `Jitter.Still`: no delay is drawn
* `Jitter.Occurs`: a delay that some outcome of the random source gives

## Main results

* `Jitter.occurs_some_iff`, `Jitter.occurs_none_iff`: the delays that occur
-/

namespace SealedTunnel.Jitter

variable {o : Obfuscation} {length : Nat}

/-- No delay is drawn after a frame that carried `length` bytes. -/
def Still (o : Obfuscation) (length : Nat) : Prop :=
  o.enabled = false ∨ o.maxDelayMs = 0 ∨ length ≤ threshold

/-- Some outcome of the random source gives this delay. -/
def Occurs (o : Obfuscation) (length : Nat) (delay : Option UInt64) : Prop :=
  ∃ e e', drawDelay o length e = .ok (delay, e')

theorem drawDelay_of_still (h : Still o length) : drawDelay o length = pure none := by
  rw [drawDelay, if_pos]
  simpa [Still, or_assoc] using h

theorem drawDelay_of_not_still (h : ¬Still o length) :
    drawDelay o length = (do
      let least := min o.minDelayMs o.maxDelayMs
      let delay := least + (← Draw.below (o.maxDelayMs - least + 1))
      return if delay = 0 then none else some delay) := by
  rw [drawDelay, if_neg]
  simpa [Still, or_assoc] using h

theorem occurs_of_still (h : Still o length) {delay : Option UInt64} :
    Occurs o length delay ↔ delay = none := by
  rw [Occurs, drawDelay_of_still h]
  constructor
  · rintro ⟨e, e', heq⟩
    exact (Prod.mk.inj (Except.ok.inj heq)).1.symm
  · rintro rfl
    exact ⟨.ofBytes [], .ofBytes [], rfl⟩

/-- How many numbers there are from the lesser bound to the upper one; where they are not all words,
a word counts them. -/
theorem toNat_candidates (hrange : ¬o.WholeRange) :
    (o.maxDelayMs - min o.minDelayMs o.maxDelayMs + 1).toNat =
      o.maxDelayMs.toNat - min o.minDelayMs.toNat o.maxDelayMs.toNat + 1 := by
  have hmin := toNat_min o.minDelayMs o.maxDelayMs
  have hle : min o.minDelayMs o.maxDelayMs ≤ o.maxDelayMs :=
    UInt64.le_iff_toNat_le.2 (by omega)
  have hmax := o.maxDelayMs.toNat_lt_size
  have hsize := Ranged.span_of_not_wholeRange hrange
  rw [Ranged.toNat_span hle (by omega), hmin, Nat.toUInt64_eq, UInt64.toNat_ofNat_of_lt']
  omega

/-- **What occurs comes from a number between the bounds**, each of which is drawn; zero is no
delay. -/
theorem occurs_iff (h : ¬Still o length) (hrange : ¬o.WholeRange) {delay : Option UInt64} :
    Occurs o length delay ↔ ∃ x : UInt64,
      min o.minDelayMs.toNat o.maxDelayMs.toNat ≤ x.toNat ∧ x.toNat ≤ o.maxDelayMs.toNat ∧
        delay = if x = 0 then none else some x := by
  have hcandidates := toNat_candidates hrange
  have hmin := toNat_min o.minDelayMs o.maxDelayMs
  have hall : UInt64.size = 18446744073709551616 := rfl
  have hmax := o.maxDelayMs.toNat_lt_size
  rw [Occurs, drawDelay_of_not_still h]
  generalize min o.minDelayMs o.maxDelayMs = least at hcandidates hmin
  constructor
  · rintro ⟨e, e', hdraw⟩
    obtain ⟨w, e₁, hbelow, hdelay⟩ := Draw.bind_eq_ok.1 hdraw
    obtain ⟨rfl, -⟩ := Prod.mk.inj (Except.ok.inj hdelay)
    have hw := Draw.below_lt hbelow
    rw [hcandidates] at hw
    have hsum : (least + w).toNat = least.toNat + w.toNat := by
      rw [UInt64.toNat_add, Nat.mod_eq_of_lt (by omega)]
    exact ⟨least + w, by omega, by omega, rfl⟩
  · rintro ⟨x, hlow, hhigh, rfl⟩
    have hdiff : (x - least).toNat = x.toNat - least.toNat :=
      UInt64.toNat_sub_of_le _ _ (UInt64.le_iff_toNat_le.2 (by omega))
    have hsum : least + (x - least) = x := by
      apply UInt64.toNat_inj.1
      rw [UInt64.toNat_add, hdiff, Nat.mod_eq_of_lt] <;> omega
    have hfits : (x - least).toNat < max 1 (o.maxDelayMs - least + 1).toNat := by omega
    obtain ⟨e, e', hbelow⟩ := Draw.exists_below_iff.2 hfits
    refine ⟨e, e', Draw.bind_eq_ok.2 ⟨x - least, e', hbelow, ?_⟩⟩
    rw [hsum]
    rfl

/-- **The delays that occur are all whole milliseconds between the bounds**, from one on. -/
theorem occurs_some_iff (h : ¬Still o length) (hrange : ¬o.WholeRange) {ms : UInt64} :
    Occurs o length (some ms) ↔
      max 1 (min o.minDelayMs.toNat o.maxDelayMs.toNat) ≤ ms.toNat ∧
        ms.toNat ≤ o.maxDelayMs.toNat := by
  rw [occurs_iff h hrange]
  constructor
  · rintro ⟨x, hlow, hhigh, hsome⟩
    split at hsome
    · cases hsome
    · rename_i hx
      obtain rfl := Option.some.inj hsome
      have hx : ms.toNat ≠ 0 := fun h => hx (UInt64.toNat_inj.1 h)
      omega
  · rintro ⟨hlow, hhigh⟩
    refine ⟨ms, by omega, hhigh, ?_⟩
    have hms : ms ≠ 0 := by
      rintro rfl
      exact absurd (Nat.le_trans (Nat.le_max_left ..) hlow) (by decide)
    rw [if_neg hms]

/-- **No delay occurs just if the range begins at zero.** -/
theorem occurs_none_iff (h : ¬Still o length) (hrange : ¬o.WholeRange) :
    Occurs o length none ↔ min o.minDelayMs.toNat o.maxDelayMs.toNat = 0 := by
  rw [occurs_iff h hrange]
  constructor
  · rintro ⟨x, hlow, -, hnone⟩
    split at hnone
    · rename_i hx
      rw [hx] at hlow
      exact Nat.le_zero.1 hlow
    · cases hnone
  · intro hmin
    exact ⟨0, Nat.le_of_eq hmin, Nat.zero_le _, rfl⟩

end SealedTunnel.Jitter
