import SealedTunnel.Proofs.Digits
import SealedTunnel.Toml.Document

/-!
# Numbers are read back

The decimal digits of a number at the end of a line are read as that number: not as a date or a
time, for which a sign or a colon would have to follow, nor as a number with a fraction.

## Main results

* `Number.integer?_toDigits`: the digits of a number of 63 bits are that number
* `Document.numeric?_toDigits`: and nothing else
-/

namespace SealedTunnel.Toml

variable {c : Char} {ds more : List Char} {n : Nat}

/-! ## Digits -/

theorem isDigit_of_mem_toDigits (h : c ∈ Nat.toDigits 10 n) : c.isDigit :=
  Nat.isDigit_of_mem_toDigits (by decide) (by decide) h

theorem exists_toDigits (n : Nat) : ∃ c r, Nat.toDigits 10 n = c :: r ∧ c.isDigit := by
  obtain ⟨c, r, hdigits⟩ := List.exists_cons_of_ne_nil (Nat.toDigits_ne_nil (n := n) (b := 10))
  exact ⟨c, r, hdigits, isDigit_of_mem_toDigits (n := n) (by simp [hdigits])⟩

namespace Number

theorem valueOf_toDigits (n : Nat) : valueOf 10 (Nat.toDigits 10 n) = n := by
  have hvalue : ∀ (ds : List Char) (start : Nat), (∀ c ∈ ds, c.isDigit) →
      ds.foldl (fun n c => n * 10 + (if c.isDigit then c.toNat - '0'.toNat
        else c.toLower.toNat - 'a'.toNat + 10)) start = Nat.ofDigitChars 10 ds start := by
    intro ds
    induction ds with
    | nil => intro start _; rfl
    | cons c ds ih =>
      intro start hds
      rw [List.forall_mem_cons] at hds
      rw [List.foldl_cons, if_pos hds.1, ih _ hds.2, Nat.mul_comm]
      rfl
  rw [valueOf, hvalue _ _ fun c hc => isDigit_of_mem_toDigits hc]
  exact Nat.ofDigitChars_toDigits (by decide) (by decide)

/-- Digits end with their line. -/
theorem moreDigits_line (hds : ∀ c ∈ ds, c.isDigit) (more : List Char) :
    moreDigits Char.isDigit (ds ++ '\n' :: more) = (ds, '\n' :: more) := by
  induction ds with
  | nil => rfl
  | cons c r ih =>
    rw [List.forall_mem_cons] at hds
    rw [List.cons_append, moreDigits, if_pos hds.1, ih hds.2]
    rfl

theorem wholeDigits?_toDigits (n : Nat) (more : List Char) :
    wholeDigits? (Nat.toDigits 10 n ++ '\n' :: more) = some (Nat.toDigits 10 n, '\n' :: more) := by
  by_cases hn : n = 0
  · subst hn
    rfl
  · obtain ⟨c, r, hdigits, hc⟩ := Digits.head_toDigits (b := 10) (by decide) (by decide) hn
    have hds : ∀ d ∈ c :: r, d.isDigit := by
      intro d hd
      rw [← hdigits] at hd
      exact isDigit_of_mem_toDigits hd
    have hwhole := moreDigits_line hds more
    rw [hdigits]
    unfold wholeDigits?
    split
    · rename_i heq
      exact absurd (List.cons.inj heq).1 hc
    · rw [List.cons_append] at hwhole ⊢
      rw [digits?, if_pos (hds c List.mem_cons_self), hwhole]

theorem sign_toDigits (n : Nat) (more : List Char) :
    sign (Nat.toDigits 10 n ++ more) = (false, Nat.toDigits 10 n ++ more) := by
  obtain ⟨c, r, hdigits, hc⟩ := exists_toDigits n
  rw [hdigits]
  unfold sign
  split
  · rename_i heq
    obtain ⟨rfl, -⟩ := List.cons.inj heq
    exact absurd hc (by decide)
  · rename_i heq
    obtain ⟨rfl, -⟩ := List.cons.inj heq
    exact absurd hc (by decide)
  · rfl

/-- **The digits of a number of 63 bits are read as that number.** -/
theorem integer?_toDigits (h : n ≤ 9223372036854775807) (more : List Char) :
    integer? (Nat.toDigits 10 n ++ '\n' :: more) = some ((n : Int), '\n' :: more) := by
  have hrange : inRange n = true := by
    simp only [inRange, Bool.and_eq_true, decide_eq_true_eq]
    omega
  by_cases hn : n = 0
  · subst hn
    rfl
  · obtain ⟨c, r, hdigits, hc⟩ := Digits.head_toDigits (b := 10) (by decide) (by decide) hn
    rw [hdigits]
    unfold integer?
    split
    · rename_i heq
      exact absurd (List.cons.inj heq).1 hc
    · rename_i heq
      exact absurd (List.cons.inj heq).1 hc
    · rename_i heq
      exact absurd (List.cons.inj heq).1 hc
    · rw [← hdigits]
      simp [sign_toDigits, wholeDigits?_toDigits, valueOf_toDigits, ranged?, hrange]

/-- No point and no exponent follows. -/
theorem float?_toDigits (n : Nat) (more : List Char) :
    float? (Nat.toDigits 10 n ++ '\n' :: more) = none := by
  have hspecial : special? (Nat.toDigits 10 n ++ '\n' :: more) = none := by
    obtain ⟨c, r, hdigits, hc⟩ := exists_toDigits n
    rw [hdigits]
    unfold special?
    split
    · rename_i heq
      obtain ⟨rfl, -⟩ := List.cons.inj heq
      exact absurd hc (by decide)
    · rename_i heq
      obtain ⟨rfl, -⟩ := List.cons.inj heq
      exact absurd hc (by decide)
    · rfl
  simp [float?, sign_toDigits, hspecial, wholeDigits?_toDigits, fraction?, exponent?]

end Number

/-! ## Neither a date nor a time -/

namespace Moment

theorem expect?_digits (hds : ∀ c ∈ ds, c.isDigit) (mark : Char) (hmark : ¬mark.isDigit)
    (hline : mark ≠ '\n') (more : List Char) : expect? mark (ds ++ '\n' :: more) = none := by
  cases ds with
  | nil => exact if_neg hline.symm
  | cons c r =>
    have hc : c ≠ mark := by
      rintro rfl
      exact hmark (hds c List.mem_cons_self)
    exact if_neg hc

/-- So many characters are read as a number only if the line has as many. -/
theorem fixed?_digits (ds : List Char) (k : Nat) (more : List Char) :
    fixed? k (ds ++ '\n' :: more) = none ∨
      ∃ value, fixed? k (ds ++ '\n' :: more) = some (value, ds.drop k ++ '\n' :: more) := by
  unfold fixed?
  dsimp only
  split
  · rename_i hfixed
    by_cases hk : k ≤ ds.length
    · exact .inr ⟨_, by rw [List.drop_append_of_le_length hk]⟩
    · simp only [Bool.and_eq_true, List.all_eq_true] at hfixed
      have hmem : '\n' ∈ (ds ++ '\n' :: more).take k := by
        rw [List.take_append, List.mem_append]
        refine .inr ?_
        obtain ⟨j, hj⟩ : ∃ j, k - ds.length = j + 1 := ⟨k - ds.length - 1, by omega⟩
        rw [hj, List.take_succ_cons]
        exact List.mem_cons_self
      exact absurd (hfixed.2 _ hmem) (by decide)
  · exact .inl rfl

theorem skip?_digits (hds : ∀ c ∈ ds, c.isDigit) (more : List Char) :
    skip? (ds ++ '\n' :: more) = none := by
  have hdrop (k : Nat) : ∀ c ∈ ds.drop k, c.isDigit := fun c hc => hds c (List.mem_of_mem_drop hc)
  have hdate : date? (ds ++ '\n' :: more) = none := by
    rcases fixed?_digits ds 4 more with h | ⟨year, h⟩
    · simp [date?, h]
    · simp [date?, h, expect?_digits (hdrop 4) '-' (by decide) (by decide)]
  have htime : time? (ds ++ '\n' :: more) = none := by
    rcases fixed?_digits ds 2 more with h | ⟨hour, h⟩
    · simp [time?, h]
    · simp [time?, h, expect?_digits (hdrop 2) ':' (by decide) (by decide)]
  simp [skip?, dateTime?, hdate, htime]

end Moment

/-- **The digits of a number of 63 bits are that number**, and no date, time or fraction. -/
theorem Document.numeric?_toDigits (h : n ≤ 9223372036854775807) (more : List Char) :
    Document.numeric? (Nat.toDigits 10 n ++ '\n' :: more) = some (.integer n, '\n' :: more) := by
  have hmoment := Moment.skip?_digits (fun c hc => isDigit_of_mem_toDigits (n := n) hc) more
  rw [numeric?, hmoment, Number.float?_toDigits, Number.integer?_toDigits h]
  rfl

end SealedTunnel.Toml
