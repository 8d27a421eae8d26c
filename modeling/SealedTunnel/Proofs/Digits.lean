import SealedTunnel.Network.Ip

/-!
# Digits of numbers

The digits of a number, in a base of at most sixteen: they spell the number, the first one is no
zero unless it is the only one, and there are no other characters among them.

## Main results

* `Digits.number?_toDigits`: what the digits of a number spell
* `Digits.head_toDigits`: the first of them
-/

namespace SealedTunnel.Digits

variable {b n : Nat} {c : Char}

theorem mem_toDigits (hb : 1 < b) (h : c ∈ Nat.toDigits b n) : ∃ d < b, c = Nat.digitChar d := by
  induction n using Nat.strongRecOn with
  | ind n ih =>
    by_cases hlt : n < b
    · rw [Nat.toDigits_of_lt_base hlt, List.mem_singleton] at h
      exact ⟨n, hlt, h⟩
    · have hle : b ≤ n := Nat.not_lt.1 hlt
      rw [Nat.toDigits_of_base_le hb hle, List.mem_append, List.mem_singleton] at h
      rcases h with h | rfl
      · exact ih (n / b) (Nat.div_lt_self (by omega) hb) h
      · exact ⟨n % b, Nat.mod_lt n (by omega), rfl⟩

/-- A number other than zero starts with no zero. -/
theorem head_toDigits (hb : 1 < b) (hb' : b ≤ 16) (h : n ≠ 0) :
    ∃ c r, Nat.toDigits b n = c :: r ∧ c ≠ '0' := by
  induction n using Nat.strongRecOn with
  | ind n ih =>
    by_cases hlt : n < b
    · have hdigit : ∀ d < 16, d ≠ 0 → Nat.digitChar d ≠ '0' := by decide
      exact ⟨Nat.digitChar n, [], Nat.toDigits_of_lt_base hlt, hdigit n (by omega) h⟩
    · have hle : b ≤ n := Nat.not_lt.1 hlt
      obtain ⟨c, r, hdigits, hc⟩ := ih (n / b) (Nat.div_lt_self (by omega) hb)
        (Nat.ne_of_gt (Nat.div_pos hle (by omega)))
      refine ⟨c, r ++ [Nat.digitChar (n % b)], ?_, hc⟩
      rw [Nat.toDigits_of_base_le hb hle, hdigits, List.cons_append]

/-- Digits start with a zero only if there is nothing else. -/
theorem eq_zero_of_head (hb : 1 < b) (hb' : b ≤ 16)
    (h : (Nat.toDigits b n).head? = some '0') : n = 0 := by
  refine Decidable.byContradiction fun hn => ?_
  obtain ⟨c, r, hdigits, hc⟩ := head_toDigits hb hb' hn
  rw [hdigits] at h
  exact hc (Option.some.inj h)

theorem digit?_digitChar (hb : b ≤ 16) (hn : n < b) : Ip.digit? b (Nat.digitChar n) = some n := by
  have hall : ∀ b ≤ 16, ∀ n < b, Ip.digit? b (Nat.digitChar n) = some n := by decide
  exact hall b hb n hn

/-- **The digits of a number spell it.** -/
theorem number?_toDigits (hb : 1 < b) (hb' : b ≤ 16) (n : Nat) :
    Ip.number? b (Nat.toDigits b n) = some n := by
  rw [Ip.number?, List.isEmpty_eq_false_iff.2 Nat.toDigits_ne_nil, if_neg (by decide)]
  -- By induction on the number without its last digit, which is read last.
  induction n using Nat.strongRecOn with
  | ind n ih =>
    by_cases hlt : n < b
    · rw [Nat.toDigits_of_lt_base hlt, List.foldlM_cons, digit?_digitChar hb' hlt]
      simp
    · have hle : b ≤ n := Nat.not_lt.1 hlt
      have hdigit := digit?_digitChar hb' (Nat.mod_lt n (by omega))
      rw [Nat.toDigits_of_base_le hb hle, List.foldlM_append,
        ih (n / b) (Nat.div_lt_self (by omega) hb)]
      simp [hdigit, Nat.div_add_mod]

theorem toDigits_inj (hb : 1 < b) (hb' : b ≤ 16) {m : Nat}
    (h : Nat.toDigits b m = Nat.toDigits b n) : m = n := by
  have hm := number?_toDigits hb hb' m
  rw [h, number?_toDigits hb hb' n] at hm
  exact (Option.some.inj hm).symm

/-- A character that is no digit is not among the digits. -/
theorem notMem_toDigits (hb : 1 < b) (hc : ∀ d < b, Nat.digitChar d ≠ c) :
    c ∉ Nat.toDigits b n := by
  intro h
  obtain ⟨d, hd, rfl⟩ := mem_toDigits hb h
  exact hc d hd rfl

theorem toList_toString (n : Nat) : (toString n).toList = Nat.toDigits 10 n := by
  rw [Nat.toString_eq_ofList_toDigits, String.toList_ofList]

end SealedTunnel.Digits
