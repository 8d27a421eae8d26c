import SealedTunnel.Random

/-!
# Draws that can only run dry

The laws by which a computation on random bytes is taken apart, and the one way in which a plain
draw fails: the supply gives out.

## Main definitions

* `Draw.Plain`: the computation is made of plain draws
* `Draw.OnlyDry`: the computation fails with nothing but an empty supply

## Main results

* `Draw.bind_eq_ok`, `Draw.bind_eq_error`: the steps of a computation that gave something, or failed
* `Draw.length_bytes`, `Draw.below_lt`: what plain draws give
* `Draw.Plain.onlyDry`: how they fail
-/

namespace SealedTunnel

namespace Entropy

theorem length_take {n : Nat} {e e' : Entropy} {bs : Bytes} (h : e.take n = some (bs, e')) :
    bs.length = n := by
  unfold take at h
  split at h
  · obtain ⟨rfl, -⟩ := Prod.mk.inj (Option.some.inj h)
    rw [List.length_map, List.length_range]
  · contradiction

theorem accepted_lt {limit bound w : UInt64} {e e' : Entropy} (hb : 0 < bound)
    (h : accepted limit bound e = some (w, e')) : w < bound := by
  fun_induction accepted limit bound e with
  | case1 => contradiction
  | case2 e w₀ e₀ _ _ _ =>
    obtain ⟨rfl, -⟩ := Prod.mk.inj (Option.some.inj h)
    exact UInt64.mod_lt _ hb
  | case3 e w₀ e₀ _ _ _ ih => exact ih h

/-- A number drawn below a bound is below it, unless there is nothing below it. -/
theorem below_lt {bound w : UInt64} {e e' : Entropy} (h : e.below bound = some (w, e')) :
    w.toNat < max 1 bound.toNat := by
  unfold below at h
  split at h
  · obtain ⟨rfl, -⟩ := Prod.mk.inj (Option.some.inj h)
    exact Nat.lt_of_lt_of_le Nat.zero_lt_one (Nat.le_max_left ..)
  · rename_i hb
    have hb : 1 < bound := UInt64.not_le.1 hb
    have : 0 < bound := UInt64.lt_trans (by decide) hb
    exact Nat.lt_of_lt_of_le (UInt64.lt_iff_toNat_lt.1 (accepted_lt this h)) (Nat.le_max_right ..)

end Entropy

namespace Draw

variable {ε α β : Type}

/-! ## Taking a computation apart -/

theorem bind_apply (m : Draw ε α) (f : α → Draw ε β) (e : Entropy) :
    (m >>= f) e = (m e).bind fun r => f r.1 r.2 := rfl

theorem bind_of_ok {m : Draw ε α} {f : α → Draw ε β} {e e' : Entropy} {a : α}
    (h : m e = .ok (a, e')) : (m >>= f) e = f a e' := by
  rw [bind_apply, h]
  rfl

theorem bind_of_error {m : Draw ε α} {f : α → Draw ε β} {e : Entropy} {err : ε}
    (h : m e = .error err) : (m >>= f) e = .error err := by
  rw [bind_apply, h]
  rfl

theorem lift_ok_bind (a : α) (f : α → Draw ε β) :
    (liftM (Except.ok a : Except ε α) : Draw ε α) >>= f = f a := rfl

theorem map_apply (f : α → β) (m : Draw ε α) (e : Entropy) :
    (f <$> m) e = (m e).map fun r => (f r.1, r.2) := by
  show (m e).bind (fun r => .ok (f r.1, r.2)) = _
  cases m e <;> rfl

/-- A computation and what is made of its result fail, or give something, together. -/
theorem cases_of_map_eq {f : α → β} {m : Draw ε α} {m' : Draw ε β} (h : f <$> m = m')
    (e : Entropy) :
    (∃ err, m e = .error err ∧ m' e = .error err) ∨
      ∃ a e', m e = .ok (a, e') ∧ m' e = .ok (f a, e') := by
  rw [← h, map_apply]
  cases hm : m e with
  | error err => exact .inl ⟨err, rfl, rfl⟩
  | ok r => exact .inr ⟨r.1, r.2, rfl, rfl⟩

theorem bind_eq_ok {m : Draw ε α} {f : α → Draw ε β} {e : Entropy} {r : β × Entropy} :
    (m >>= f) e = .ok r ↔ ∃ a e', m e = .ok (a, e') ∧ f a e' = .ok r := by
  rw [bind_apply]
  cases m e with
  | error err => simp [Except.bind]
  | ok p =>
    constructor
    · intro h
      exact ⟨p.1, p.2, rfl, h⟩
    · rintro ⟨a, e', hp, h⟩
      cases hp
      exact h

theorem bind_eq_error {m : Draw ε α} {f : α → Draw ε β} {e : Entropy} {err : ε} :
    (m >>= f) e = .error err ↔
      m e = .error err ∨ ∃ a e', m e = .ok (a, e') ∧ f a e' = .error err := by
  rw [bind_apply]
  cases m e with
  | error err' => simp [Except.bind]
  | ok p =>
    constructor
    · intro h
      exact .inr ⟨p.1, p.2, rfl, h⟩
    · rintro (h | ⟨a, e', hp, h⟩)
      · cases h
      · cases hp
        exact h

theorem forTunnel_apply (m : Draw CryptoError α) (e : Entropy) :
    m.forTunnel e = (m e).mapError .crypto := rfl

theorem forTunnel_bind (m : Draw CryptoError α) (f : α → Draw CryptoError β) :
    (m >>= f).forTunnel = m.forTunnel >>= fun a => (f a).forTunnel := by
  funext e
  rw [forTunnel_apply, bind_apply, bind_apply, forTunnel_apply]
  cases m e <;> rfl

theorem forTunnel_eq_ok {m : Draw CryptoError α} {e : Entropy} {r : α × Entropy} :
    m.forTunnel e = .ok r ↔ m e = .ok r := by
  rw [forTunnel_apply]
  cases m e with
  | error err => exact ⟨nofun, nofun⟩
  | ok r' => exact ⟨fun h => congrArg _ (Except.ok.inj h), fun h => congrArg _ (Except.ok.inj h)⟩

/-! ## What plain draws give -/

theorem ofTake_eq_ok {draw : Entropy → Option (α × Entropy)} {e : Entropy} {r : α × Entropy} :
    ofTake draw e = .ok r ↔ draw e = some r := by
  unfold ofTake
  cases draw e <;> simp [Option.elim]

theorem length_bytes {n : Nat} {e e' : Entropy} {bs : Bytes} (h : bytes n e = .ok (bs, e')) :
    bs.length = n :=
  Entropy.length_take (ofTake_eq_ok.1 h)

theorem below_lt {bound w : UInt64} {e e' : Entropy} (h : below bound e = .ok (w, e')) :
    w.toNat < max 1 bound.toNat :=
  Entropy.below_lt (ofTake_eq_ok.1 h)

/-- The computation is made of plain draws: of bytes, and of numbers below a bound. -/
inductive Plain : {α : Type} → Draw CryptoError α → Prop
  | pure {α : Type} (a : α) : Plain (pure a)
  | bytes (n : Nat) : Plain (bytes n)
  | number (bound : UInt64) : Plain (below bound)
  | bind {α β : Type} {m : Draw CryptoError α} {f : α → Draw CryptoError β} (hm : Plain m)
      (hf : ∀ a, Plain (f a)) : Plain (m >>= f)

/-! ## The one way to fail -/

/-- The computation fails with nothing but an empty supply. -/
def OnlyDry (m : Draw CryptoError α) : Prop :=
  ∀ e err, m e = .error err → err = .noEntropy

theorem OnlyDry.pure (a : α) : OnlyDry (pure a) := by
  intro e err h
  cases h

theorem OnlyDry.bind {m : Draw CryptoError α} {f : α → Draw CryptoError β} (hm : OnlyDry m)
    (hf : ∀ a, OnlyDry (f a)) : OnlyDry (m >>= f) := by
  intro e err h
  rcases bind_eq_error.1 h with h | ⟨a, e', -, h⟩
  · exact hm e err h
  · exact hf a e' err h

theorem OnlyDry.ofTake (draw : Entropy → Option (α × Entropy)) : OnlyDry (ofTake draw) := by
  intro e err h
  unfold Draw.ofTake at h
  cases hd : draw e with
  | none =>
    rw [hd] at h
    exact (Except.error.inj h).symm
  | some r =>
    rw [hd] at h
    cases h

theorem OnlyDry.bytes (n : Nat) : OnlyDry (bytes n) := .ofTake _

theorem OnlyDry.below (bound : UInt64) : OnlyDry (below bound) := .ofTake _

theorem Plain.onlyDry {m : Draw CryptoError α} (h : Plain m) : OnlyDry m := by
  induction h with
  | pure a => exact .pure a
  | bytes n => exact .bytes n
  | number bound => exact .below bound
  | bind _ _ ihm ihf => exact .bind ihm ihf

theorem OnlyDry.forTunnel {m : Draw CryptoError α} (hm : OnlyDry m) {e : Entropy}
    {err : TunnelError} (h : m.forTunnel e = .error err) : err = .crypto .noEntropy := by
  rw [forTunnel_apply] at h
  cases hr : m e with
  | error err' =>
    rw [hr] at h
    rw [← Except.error.inj h, hm e err' hr]
  | ok r =>
    rw [hr] at h
    cases h

end Draw

end SealedTunnel
