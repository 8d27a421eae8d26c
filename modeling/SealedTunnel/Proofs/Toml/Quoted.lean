import Mathlib.Data.List.TakeWhile
import SealedTunnel.Toml.Quoted

/-!
# Strings are read back

A string is written in one of six ways, and each of them is read back as the string, whatever
follows it that is no mark. In apostrophes the characters stand as they are; in quotation marks
each one is read back from its escape. Between three marks the end is found because no run of marks
inside is longer than two: those at the very end of the string run into the three that close it, and
a reader that meets so many takes the last three.

## Main definitions

* `Quoted.leading`: the length of the run of marks at the start of a text
* `Quoted.Runs`: no run of marks in a text is longer than that

## Main results

* `Quoted.closing?_inside`: where three marks close a string
* `Quoted.literal_line`, `Quoted.literal_lines`: strings in apostrophes
* `Quoted.basic_line`, `Quoted.basic_lines`: strings in quotation marks
* `Quoted.read?_write`: every string is read back
-/

namespace SealedTunnel.Toml.Quoted

variable {mark c : Char} {cs inside rest more : List Char} {multi : Bool} {best run n : Nat}

/-! ## Runs of marks -/

/-- The length of the run of marks at the start of a text. -/
def leading (mark : Char) (cs : List Char) : Nat :=
  (cs.takeWhile (· = mark)).length

@[simp] theorem leading_nil (mark : Char) : leading mark [] = 0 := rfl

@[simp] theorem leading_cons_self (mark : Char) (cs : List Char) :
    leading mark (mark :: cs) = leading mark cs + 1 := by
  simp [leading]

theorem leading_cons_of_ne (h : c ≠ mark) (cs : List Char) : leading mark (c :: cs) = 0 := by
  simp [leading, h]

/-- No run of marks in the text is longer than `n`. -/
def Runs (mark : Char) (n : Nat) : List Char → Prop
  | [] => True
  | c :: r => leading mark (c :: r) ≤ n ∧ Runs mark n r

theorem le_longestRun_go (mark : Char) (cs : List Char) (best run : Nat) :
    best ≤ longestRun.go mark best run cs := by
  induction cs generalizing best run with
  | nil => exact Nat.le_max_left ..
  | cons c r ih =>
    rw [longestRun.go]
    split
    · exact ih _ _
    · exact Nat.le_trans (Nat.le_max_left ..) (ih _ _)

theorem runs_of_go (h : longestRun.go mark best run cs ≤ n) :
    run + leading mark cs ≤ n ∧ Runs mark n cs := by
  induction cs generalizing best run with
  | nil => exact ⟨Nat.le_trans (Nat.le_max_right ..) h, trivial⟩
  | cons c r ih =>
    rw [longestRun.go] at h
    by_cases hc : c = mark
    · subst hc
      rw [if_pos rfl] at h
      obtain ⟨hrun, hruns⟩ := ih h
      refine ⟨?_, ?_, hruns⟩
      · rw [leading_cons_self]
        omega
      · rw [leading_cons_self]
        omega
    · rw [if_neg hc] at h
      have hbest := le_longestRun_go mark r (max best run) 0
      refine ⟨?_, ?_, (ih h).2⟩
      · rw [leading_cons_of_ne hc]
        omega
      · rw [leading_cons_of_ne hc]
        exact Nat.zero_le n

/-- If the longest run is not longer than `n`, none is. -/
theorem runs_of_longestRun (h : longestRun mark cs ≤ n) : Runs mark n cs :=
  (runs_of_go h).2

theorem Runs.not_mem (h : Runs mark 0 cs) : mark ∉ cs := by
  induction cs with
  | nil => simp
  | cons c r ih =>
    obtain ⟨hlead, hruns⟩ := h
    have hc : c ≠ mark := by
      rintro rfl
      rw [leading_cons_self] at hlead
      exact Nat.not_succ_le_zero _ hlead
    simp [hc.symm, ih hruns]

/-! ## Where three marks close a string -/

/-- In front of three marks at most two more are part of the string; if anything else stands
between, these are not yet the marks that close it. -/
theorem closing?_inside (inside : List Char) (hlead : leading mark inside ≤ 2)
    (hrest : rest.head? ≠ some mark) :
    closing? mark (inside ++ mark :: mark :: mark :: rest) =
      if inside.all (· = mark) then some (inside, rest) else none := by
  have hrun : (rest.takeWhile (· = mark)) = [] := by
    cases rest with
    | nil => rfl
    | cons d ds =>
      have hd : d ≠ mark := fun h => hrest (congrArg some h)
      simp [hd]
  by_cases hall : inside.all (· = mark)
  · rw [if_pos hall]
    obtain ⟨k, rfl⟩ : ∃ k, inside = List.replicate k mark :=
      ⟨inside.length, List.eq_replicate_of_mem (by simpa using hall)⟩
    have htake : (List.replicate k mark ++ mark :: mark :: mark :: rest).takeWhile (· = mark) =
        List.replicate (k + 3) mark := by
      rw [List.takeWhile_append_of_pos (by simp)]
      simp only [List.takeWhile_cons, decide_true, if_true, hrun]
      show List.replicate k mark ++ List.replicate 3 mark = _
      rw [List.replicate_append_replicate]
    have hk : k ≤ 2 := by simpa [leading] using hlead
    have hdrop : (List.replicate k mark ++ mark :: mark :: mark :: rest).drop (k + 3) = rest := by
      simp [List.drop_append]
    unfold closing?
    simp only [htake, List.length_replicate]
    rw [if_neg (by omega), show min (k + 3 - 3) 2 = k by omega, hdrop]
  · rw [if_neg hall]
    have htake : (inside ++ mark :: mark :: mark :: rest).takeWhile (· = mark) =
        inside.takeWhile (· = mark) := by
      rw [List.takeWhile_append, if_neg]
      intro hlength
      apply hall
      rw [List.all_eq_true]
      intro c hc
      rw [← (List.takeWhile_prefix _).eq_of_length hlength] at hc
      exact List.mem_takeWhile_imp (p := (· = mark)) hc
    unfold closing?
    simp only [htake]
    exact if_pos (Nat.lt_succ_of_le hlead)

@[simp] theorem front_some (c : Char) (cs rest : List Char) :
    front c (some (cs, rest)) = some (c :: cs, rest) := rfl

/-! ## Apostrophes -/

theorem ne_newline_of_isPrintable (h : isPrintable c) : c ≠ '\n' ∧ c ≠ '\r' := by
  constructor <;> rintro rfl <;> exact absurd h (by decide)

/-- A string without apostrophes and line ends stands as it is between two apostrophes. -/
theorem literal_line (hp : ∀ c ∈ cs, isPrintable c) (hq : '\'' ∉ cs) (rest : List Char) :
    literal false (cs ++ '\'' :: rest) = some (cs, rest) := by
  induction cs with
  | nil => simp [literal]
  | cons c r ih =>
    rw [List.forall_mem_cons] at hp
    rw [List.mem_cons, not_or] at hq
    obtain ⟨hn, hr⟩ := ne_newline_of_isPrintable hp.1
    rw [List.cons_append, literal, if_neg (Ne.symm hq.1), if_neg hn, if_neg hr, if_pos hp.1,
      ih hp.2 hq.2, front_some]

/-- A string whose runs of apostrophes are short stands as it is between three apostrophes. -/
theorem literal_lines (hp : ∀ c ∈ cs, isPrintable c ∨ c = '\n') (hq : Runs '\'' 2 cs)
    (hrest : rest.head? ≠ some '\'') :
    literal true (cs ++ '\'' :: '\'' :: '\'' :: rest) = some (cs, rest) := by
  induction cs with
  | nil =>
    have hclose := closing?_inside [] (Nat.zero_le 2) hrest
    rw [List.nil_append] at hclose
    rw [List.nil_append, literal, if_pos rfl, if_pos rfl, hclose]
    simp
  | cons c r ih =>
    rw [List.forall_mem_cons] at hp
    have hr := ih hp.2 hq.2
    by_cases hc : c = '\''
    · subst hc
      have hclose := closing?_inside _ hq.1 hrest
      rw [List.cons_append] at hclose
      rw [List.cons_append, literal, if_pos rfl, if_pos rfl, hclose]
      split
      · rename_i hdone
        split at hdone
        · exact hdone.symm
        · cases hdone
      · rw [hr, front_some]
    · rw [List.cons_append, literal, if_neg hc]
      by_cases hn : c = '\n'
      · rw [if_pos hn, if_pos rfl, hr, front_some]
      · have hprint := hp.1.resolve_right hn
        rw [if_neg hn, if_neg (ne_newline_of_isPrintable hprint).2, if_pos hprint, hr, front_some]

/-! ## Quotation marks -/

theorem hexValue?_digit {d : Nat} (h : d < 16) :
    Text.hexValue? (Nat.digitChar d).toUpper = some d := by
  revert d
  decide

theorem scalar?_toNat (c : Char) : Text.scalar? c.toNat = some c := by
  have hvalid : c.toNat.isValidChar := c.valid
  rw [Text.scalar?, dif_pos hvalid]
  exact congrArg some (Char.ext rfl)

theorem toNat_lt_of_isControl (h : isControl c) : c.toNat < 256 := by
  have hp : ¬isPrintable c = true := by
    simp only [isControl, Bool.and_eq_true, Bool.not_eq_true'] at h
    simp [h.1]
  by_contra hlarge
  apply hp
  have hval : 0x20 ≤ c.val ∧ c.val ≠ 0x7F := by
    rw [Char.toNat] at hlarge
    constructor
    · rw [UInt32.le_iff_toNat_le]
      exact Nat.le_trans (by decide) (Nat.not_lt.1 hlarge)
    · intro heq
      rw [heq] at hlarge
      exact hlarge (by decide)
  simp [isPrintable, hval.1, hval.2]

/-- The four digits of a control character give its number. -/
theorem basic_controlDigits (h : isControl c) (more : List Char) :
    basic multi .escape ('u' :: controlDigits c ++ more) =
      front c (basic multi (.text false) more) := by
  have hlt := toNat_lt_of_isControl h
  have hzero : Text.hexValue? '0' = some 0 := by decide
  have hhigh := hexValue?_digit (d := c.toNat / 16) (by omega)
  have hlow := hexValue?_digit (d := c.toNat % 16) (Nat.mod_lt _ (by decide))
  have hvalue : ((0 * 16 + 0) * 16 + 0) * 16 + c.toNat / 16 = c.toNat / 16 := by omega
  have hsum : c.toNat / 16 * 16 + c.toNat % 16 = c.toNat := by omega
  simp only [controlDigits, List.cons_append, List.nil_append, basic, if_true, hzero, hhigh, hlow,
    hvalue, hsum, scalar?_toNat]
  simp

/-- **A character is read back from its escape.** -/
theorem basic_escaped (hc : c ≠ '"') (more : List Char) :
    basic multi (.text false) (escaped multi c ++ more) =
      front c (basic multi (.text false) more) := by
  unfold escaped
  split
  · subst_vars
    rfl
  split
  · subst_vars
    rfl
  split
  · subst_vars
    cases multi <;> rfl
  split
  · subst_vars
    rfl
  split
  · subst_vars
    rfl
  split
  · subst_vars
    rfl
  split
  · rename_i hcontrol
    rw [← basic_controlDigits hcontrol more]
    rfl
  · rename_i hn hf hr hb hcontrol
    have hprint : isPrintable c = true := by
      simpa [isControl, hn] using hcontrol
    simp [basic, hc, hb, hn, hr, hprint]

/-- What stands for a character starts with no quotation mark, and starts with a line end only if
the character is one. -/
theorem head_escaped (multi : Bool) (hc : c ≠ '"') :
    ∃ d ds, escaped multi c = d :: ds ∧ d ≠ '"' ∧ d ≠ '\r' ∧ (d = '\n' → c = '\n') := by
  unfold escaped
  by_cases hr : c = '\r'
  · subst hr
    exact ⟨'\\', ['r'], rfl, by decide⟩
  · repeat' split
    all_goals first
      | exact ⟨'\\', _, rfl, by simp⟩
      | exact ⟨'\n', _, rfl, by simp_all⟩
      | exact ⟨c, [], rfl, hc, hr, id⟩

/-- A string is read back from its escapes between two quotation marks. -/
theorem basic_line (cs rest : List Char) (run : Nat) :
    basic false (.text false) (escapeAll false run cs ++ '"' :: rest) = some (cs, rest) := by
  induction cs generalizing run with
  | nil => rfl
  | cons c r ih =>
    by_cases hc : c = '"'
    · subst hc
      exact congrArg (front '"') (ih 0)
    · rw [escapeAll, if_neg hc, List.append_assoc, basic_escaped hc, ih, front_some]

/-- Between three quotation marks, no more than two stand side by side. -/
theorem leading_escapeAll (hrun : run ≤ 2) (cs : List Char) :
    leading '"' (escapeAll true run cs) ≤ 2 - run := by
  induction cs generalizing run with
  | nil => exact Nat.zero_le _
  | cons c r ih =>
    rw [escapeAll]
    by_cases hc : c = '"'
    · subst hc
      rw [if_pos rfl]
      by_cases hlt : run < 2
      · have hnext : run + 1 ≤ 2 := hlt
        have := ih hnext
        rw [if_pos (by simp [hlt]), leading_cons_self]
        omega
      · rw [if_neg (by simp [hlt]), leading_cons_of_ne (by decide)]
        exact Nat.zero_le _
    · rw [if_neg hc]
      obtain ⟨d, ds, hd, hne, -⟩ := head_escaped true hc
      rw [hd, List.cons_append, leading_cons_of_ne hne]
      exact Nat.zero_le _

/-- Where nothing but marks is written, they are the string itself. -/
theorem escapeAll_eq_self (cs : List Char) (run : Nat)
    (h : (escapeAll true run cs).all (· = '"')) : escapeAll true run cs = cs := by
  induction cs generalizing run with
  | nil => rfl
  | cons c r ih =>
    rw [escapeAll] at h ⊢
    by_cases hc : c = '"'
    · subst hc
      rw [if_pos rfl] at h ⊢
      split at h
      · rename_i hrun
        rw [List.all_cons, Bool.and_eq_true] at h
        rw [if_pos hrun, ih _ h.2]
      · rw [List.all_cons, Bool.and_eq_true] at h
        exact absurd h.1 (by decide)
    · rw [if_neg hc] at h
      obtain ⟨d, ds, hd, hne, -⟩ := head_escaped true hc
      rw [hd, List.cons_append, List.all_cons, Bool.and_eq_true] at h
      exact absurd (of_decide_eq_true h.1) hne

/-- A string is read back from its escapes between three quotation marks. -/
theorem basic_lines (hrun : run ≤ 2) (hrest : rest.head? ≠ some '"') :
    basic true (.text false) (escapeAll true run cs ++ '"' :: '"' :: '"' :: rest) =
      some (cs, rest) := by
  induction cs generalizing run with
  | nil =>
    have hclose := closing?_inside [] (Nat.zero_le 2) hrest
    rw [List.nil_append] at hclose
    rw [escapeAll, List.nil_append, basic, if_pos rfl, if_pos rfl, hclose]
    simp
  | cons c r ih =>
    have hclose := closing?_inside (escapeAll true run (c :: r))
      (Nat.le_trans (leading_escapeAll hrun _) (Nat.sub_le ..)) hrest
    by_cases hc : c = '"'
    · subst hc
      by_cases hlt : run < 2
      · have hmark : escapeAll true run ('"' :: r) = '"' :: escapeAll true (run + 1) r := by
          simp [escapeAll, hlt]
        have hself := escapeAll_eq_self ('"' :: r) run
        rw [hmark, List.cons_append] at hclose
        rw [hmark] at hself
        rw [hmark, List.cons_append, basic, if_pos rfl, if_pos rfl, hclose]
        by_cases hall : ('"' :: escapeAll true (run + 1) r).all (· = '"')
        · rw [if_pos hall, hself hall]
        · rw [if_neg hall, ih (Nat.succ_le_of_lt hlt), front_some]
      · have hmark : escapeAll true run ('"' :: r) = '\\' :: '"' :: escapeAll true 0 r := by
          simp [escapeAll, hlt]
        rw [hmark]
        exact congrArg (front '"') (ih (Nat.zero_le 2))
    · rw [escapeAll, if_neg hc, List.append_assoc, basic_escaped hc, ih (Nat.zero_le 2),
        front_some]

/-! ## Written strings -/

theorem skipFirstNewline_of_head (hn : cs.head? ≠ some '\n') (hr : cs.head? ≠ some '\r') :
    skipFirstNewline cs = cs := by
  cases cs with
  | nil => rfl
  | cons c r =>
    have hn' : c ≠ '\n' := fun h => hn (congrArg some h)
    have hr' : c ≠ '\r' := fun h => hr (congrArg some h)
    unfold skipFirstNewline newline?
    split
    · exact absurd (List.cons.inj ‹_›).1 hn'
    · exact absurd (List.cons.inj ‹_›).1 hr'
    · rfl

/-- The line end behind three marks is passed over, and so nothing else is. -/
theorem skipFirstNewline_tripled {newline : Bool} {text : List Char}
    (hn : newline = false → text.head? ≠ some '\n') (hr : text.head? ≠ some '\r') :
    skipFirstNewline ((if newline then ['\n'] else []) ++ text) = text := by
  cases newline with
  | true => rfl
  | false => exact skipFirstNewline_of_head (hn rfl) hr

/-- What stands between three quotation marks starts with a line end only if the string does. -/
theorem head_escapeAll (cs more : List Char) (run : Nat) :
    ∃ d ds, escapeAll true run cs ++ '"' :: more = d :: ds ∧ d ≠ '\r' ∧ (d = '\n' → '\n' ∈ cs) := by
  cases cs with
  | nil => exact ⟨'"', more, rfl, by decide, by decide⟩
  | cons c r =>
    by_cases hc : c = '"'
    · subst hc
      by_cases hlt : run < 2
      · exact ⟨'"', escapeAll true (run + 1) r ++ '"' :: more, by simp [escapeAll, hlt], by decide,
          by simp⟩
      · exact ⟨'\\', '"' :: escapeAll true 0 r ++ '"' :: more, by simp [escapeAll, hlt], by decide,
          by simp⟩
    · obtain ⟨d, ds, hd, -, hr, hn⟩ := head_escaped true hc
      refine ⟨d, ds ++ (escapeAll true 0 r ++ '"' :: more), by simp [escapeAll, hc, hd], hr, ?_⟩
      intro hline
      rw [hn hline]
      exact List.mem_cons_self

theorem read?_quotes {newline : Bool} (hn : newline = false → '\n' ∉ cs)
    (hrest : rest.head? ≠ some '"') :
    read? (tripled '"' newline (escapeAll true 0 cs) ++ rest) = some (cs, rest) := by
  obtain ⟨d, ds, hd, hr, hline⟩ := head_escapeAll cs ('"' :: '"' :: rest) 0
  have hskip : skipFirstNewline ((if newline then ['\n'] else []) ++
      (escapeAll true 0 cs ++ '"' :: '"' :: '"' :: rest)) =
      escapeAll true 0 cs ++ '"' :: '"' :: '"' :: rest := by
    apply skipFirstNewline_tripled
    · rintro hfalse hhead
      rw [hd] at hhead
      exact hn hfalse (hline (Option.some.inj hhead))
    · rintro hhead
      rw [hd] at hhead
      exact hr (Option.some.inj hhead)
  have htext : tripled '"' newline (escapeAll true 0 cs) ++ rest =
      '"' :: '"' :: '"' :: ((if newline then ['\n'] else []) ++
        (escapeAll true 0 cs ++ '"' :: '"' :: '"' :: rest)) := by
    simp [tripled, List.replicate]
  rw [htext, read?, hskip, basic_lines (Nat.zero_le 2) hrest]

theorem read?_apostrophes {newline : Bool} (hp : ∀ c ∈ cs, isPrintable c ∨ c = '\n')
    (hq : Runs '\'' 2 cs) (hn : newline = false → '\n' ∉ cs) (hrest : rest.head? ≠ some '\'') :
    read? (tripled '\'' newline cs ++ rest) = some (cs, rest) := by
  have hskip : skipFirstNewline ((if newline then ['\n'] else []) ++
      (cs ++ '\'' :: '\'' :: '\'' :: rest)) = cs ++ '\'' :: '\'' :: '\'' :: rest := by
    cases cs with
    | nil => exact skipFirstNewline_tripled (by simp) (by simp)
    | cons c r =>
      apply skipFirstNewline_tripled
      · intro hfalse hhead
        exact hn hfalse (List.mem_cons.2 (.inl (Option.some.inj hhead).symm))
      · intro hhead
        obtain rfl : c = '\r' := Option.some.inj hhead
        exact absurd (hp '\r' List.mem_cons_self) (by decide)
  have htext : tripled '\'' newline cs ++ rest =
      '\'' :: '\'' :: '\'' :: ((if newline then ['\n'] else []) ++
        (cs ++ '\'' :: '\'' :: '\'' :: rest)) := by
    simp [tripled, List.replicate]
  rw [htext, read?, hskip, literal_lines hp hq hrest]

/-- Two marks with anything else behind them are a string of their own. -/
theorem read?_quote (hrest : rest.head? ≠ some '"') :
    read? ('"' :: (escapeAll false 0 cs ++ '"' :: rest)) = some (cs, rest) := by
  rw [← basic_line cs rest 0]
  cases cs with
  | nil =>
    cases rest with
    | nil => rfl
    | cons d ds =>
      have hd : d ≠ '"' := fun h => hrest (congrArg some h)
      simp [read?, readLine?, escapeAll, hd]
  | cons c r =>
    obtain ⟨d, ds, hd, hne⟩ : ∃ d ds, escapeAll false 0 (c :: r) = d :: ds ∧ d ≠ '"' := by
      by_cases hc : c = '"'
      · subst hc
        exact ⟨'\\', _, rfl, by decide⟩
      · obtain ⟨d, ds, hd, hne, -⟩ := head_escaped false hc
        exact ⟨d, ds ++ escapeAll false 0 r, by simp [escapeAll, hc, hd], hne⟩
    simp [hd, read?, readLine?, hne]

theorem read?_apostrophe (hp : ∀ c ∈ cs, isPrintable c) (hq : '\'' ∉ cs)
    (hrest : rest.head? ≠ some '\'') : read? ('\'' :: (cs ++ '\'' :: rest)) = some (cs, rest) := by
  rw [← literal_line hp hq rest]
  cases cs with
  | nil =>
    cases rest with
    | nil => rfl
    | cons d ds =>
      have hd : d ≠ '\'' := fun h => hrest (congrArg some h)
      simp [read?, readLine?, hd]
  | cons c r =>
    have hc : c ≠ '\'' := Ne.symm (not_or.1 (mt List.mem_cons.2 hq)).1
    simp [read?, readLine?, hc]

/-- **Every string is read back**, in whatever form it is written and whatever follows it that is
no mark. -/
theorem read?_write (cs : List Char) (hq : rest.head? ≠ some '"')
    (ha : rest.head? ≠ some '\'') :
    read? (write cs ++ rest) = some (cs, rest) := by
  have hprint (hcontrol : cs.any isControl = false) : ∀ c ∈ cs, isPrintable c ∨ c = '\n' := by
    intro c hc
    have := List.any_eq_false.1 hcontrol c hc
    simp only [isControl] at this
    by_cases hn : c = '\n'
    · exact .inr hn
    · exact .inl (by simpa [hn] using this)
  have hline (hnewline : cs.contains '\n' = false) : '\n' ∉ cs := by
    simpa using hnewline
  unfold write
  dsimp only
  split
  · simpa using read?_quote hq
  split
  · rename_i hform
    simp only [Bool.and_eq_true, Bool.not_eq_true', decide_eq_true_eq] at hform
    obtain ⟨⟨hcontrol, happ⟩, hnewline⟩ := hform
    have hp : ∀ c ∈ cs, isPrintable c := by
      intro c hc
      refine (hprint hcontrol c hc).resolve_right ?_
      rintro rfl
      exact hline hnewline hc
    simpa using read?_apostrophe hp (runs_of_longestRun (Nat.le_of_eq happ)).not_mem ha
  split
  · exact read?_quotes hline hq
  split
  · rename_i hform
    simp only [Bool.and_eq_true, Bool.not_eq_true', decide_eq_true_eq] at hform
    exact read?_apostrophes (hprint hform.1) (runs_of_longestRun hform.2) hline ha
  split
  · exact read?_quotes hline hq
  · simpa using read?_quote hq

/-- What is written for a string starts with a mark. -/
theorem head_write (cs : List Char) : ∃ r, write cs = '"' :: r ∨ write cs = '\'' :: r := by
  unfold write
  dsimp only
  repeat' split
  · exact ⟨_, .inl rfl⟩
  · exact ⟨_, .inr rfl⟩
  · exact ⟨_, .inl rfl⟩
  · exact ⟨_, .inr rfl⟩
  · exact ⟨_, .inl rfl⟩
  · exact ⟨_, .inl rfl⟩

end SealedTunnel.Toml.Quoted
