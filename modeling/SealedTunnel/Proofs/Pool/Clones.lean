import SealedTunnel.Proofs.Pool.Lending

/-!
# Pools under many names

A program makes pools and clones them. A clone is one more name for the same pool, and a handle
remembers from which pool it came. In whatever order pools are made and cloned, and handles
acquired, written through and released, the books of every pool stay in order; all names of a pool
see the same; and a handle finds in its buffer what was written through it and nothing else.

## Main definitions

* `Pools`: the pools of a program, with its names for them and their handles
* `Pools.Use`, `Pools.step`, `Pools.run`: what a program does with them
* `Pools.discarded`: the buffers that a pool has given up
* `Pools.Sound`: all books are in order, and every handle is in those of its pool

## Main results

* `Pools.Sound.step`, `Pools.Sound.run`: they stay so
* `Pools.held?_step`, `Pools.held?_run`: what a handle finds in its buffer
* `Pools.lend_each_buffer_once`: what this says of every run
-/

namespace SealedTunnel

/-- The pools of a program, with what is out. -/
structure Pools where
  lendings : List Lending := []
  /-- Which pool goes by each name. -/
  names : List Nat := []
  /-- From which pool each handle came. -/
  owners : List Nat := []

namespace Pools

/-- What a program does with pools; names and handles are numbered as they come. -/
inductive Use where
  | create (bufferSize maxIdle : Nat)
  | clone (name : Nat)
  | acquire (name : Nat)
  /-- Puts bytes at the start of a buffer; whoever changes others puts those before them, too. -/
  | write (handle : Nat) (data : Bytes)
  | release (handle : Nat)
  deriving DecidableEq

/-- The size of the buffers and the limit of the pool that a use makes. -/
def Use.created : Use → Option (Nat × Nat)
  | .create bufferSize maxIdle => some (bufferSize, maxIdle)
  | .clone _ | .acquire _ | .write .. | .release _ => none

/-- What a use writes through a handle. -/
def Use.written (handle : Nat) : Use → Option Bytes
  | .write other data => if other = handle then some data else none
  | .create .. | .clone _ | .acquire _ | .release _ => none

/-- What is done to one of the pools. -/
def onPool (s : Pools) (i : Nat) (f : Lending → Lending) : Pools :=
  { s with lendings := s.lendings.modify i f }

/-- The pools after a use. Names and handles that there are not do nothing. -/
def step (s : Pools) : Use → Pools
  | .create bufferSize maxIdle =>
    { s with
      lendings := s.lendings ++ [.ofPool (.empty bufferSize maxIdle)]
      names := s.names ++ [s.lendings.length] }
  | .clone name =>
    match s.names[name]? with
    | some i => { s with names := s.names ++ [i] }
    | none => s
  | .acquire name =>
    match s.names[name]? with
    | some i => { s.onPool i (·.acquire s.owners.length) with owners := s.owners ++ [i] }
    | none => s
  | .write handle data =>
    match s.owners[handle]? with
    | some i => s.onPool i (·.write handle data)
    | none => s
  | .release handle =>
    match s.owners[handle]? with
    | some i => s.onPool i (·.release handle)
    | none => s

/-- The pools after one use and the other. -/
def run (s : Pools) (uses : List Use) : Pools :=
  uses.foldl step s

/-- The pool that goes by a name. -/
def named? (s : Pools) (name : Nat) : Option Lending :=
  s.names[name]?.bind (s.lendings[·]?)

/-- How many idle buffers are seen by a name. -/
def idle? (s : Pools) (name : Nat) : Option Nat :=
  (s.named? name).map (·.pool.idle.length)

/-- The buffer that a handle holds. -/
def held? (s : Pools) (handle : Nat) : Option Buffer :=
  s.owners[handle]?.bind fun i => s.lendings[i]?.bind (·.held? handle)

/-- The size of the buffers and the limit of each pool. -/
def sizes (s : Pools) : List (Nat × Nat) :=
  s.lendings.map fun l => (l.pool.bufferSize, l.pool.maxIdle)

/-- The buffers that one of the pools gives up in a use. -/
def discards (s : Pools) (i : Nat) : Use → List Nat
  | .release handle =>
    if s.owners[handle]? = some i then (s.lendings[i]?.map (·.discards handle)).getD [] else []
  | .create .. | .clone _ | .acquire _ | .write .. => []

/-- The buffers that one of the pools gives up in a run, the latest first. -/
def discarded (s : Pools) (i : Nat) : List Use → List Nat
  | [] => []
  | use :: uses => (s.step use).discarded i uses ++ s.discards i use

/-- All books are in order; of each pool some buffers were given up. -/
structure Sound (s : Pools) (gone : Nat → List Nat) : Prop where
  names_lt : ∀ i ∈ s.names, i < s.lendings.length
  owners_lt : ∀ i ∈ s.owners, i < s.lendings.length
  books : ∀ {i : Nat} {l : Lending}, s.lendings[i]? = some l → l.Sound (gone i)
  /-- What is out is out under handles of its pool. -/
  owned : ∀ {i : Nat} {l : Lending} {x : Nat × Buffer},
    s.lendings[i]? = some l → x ∈ l.held → s.owners[x.1]? = some i
  /-- A pool that is still to be made has given up nothing. -/
  gone_eq_nil : ∀ i, s.lendings.length ≤ i → gone i = []

variable {s : Pools} {gone : Nat → List Nat} {i j name handle : Nat} {l : Lending} {b : Buffer}
  {use : Use}

/-! ## One pool among others -/

@[simp] theorem length_lendings_onPool (s : Pools) (i : Nat) (f : Lending → Lending) :
    (s.onPool i f).lendings.length = s.lendings.length :=
  List.length_modify ..

theorem getElem?_onPool (s : Pools) (i : Nat) (f : Lending → Lending) (j : Nat) :
    (s.onPool i f).lendings[j]? = (s.lendings[j]?).map fun l => if i = j then f l else l :=
  List.getElem?_modify ..

/-- What is done to a pool keeps all books in order if it keeps those of that pool. -/
theorem Sound.onPool (h : s.Sound gone) (hi : i < s.lendings.length) {f : Lending → Lending}
    (more : Nat → List Nat)
    (hf : ∀ l, s.lendings[i]? = some l → (f l).Sound (more i ++ gone i) ∧
      ∀ x ∈ (f l).held, s.owners[x.1]? = some i)
    (hmore : ∀ j, j ≠ i → more j = []) :
    (s.onPool i f).Sound fun j => more j ++ gone j := by
  constructor
  · intro j hj
    rw [length_lendings_onPool]
    exact h.names_lt j hj
  · intro j hj
    rw [length_lendings_onPool]
    exact h.owners_lt j hj
  · intro j l hl
    rw [getElem?_onPool] at hl
    obtain ⟨before, hbefore, rfl⟩ := Option.map_eq_some_iff.1 hl
    by_cases hj : i = j
    · subst hj
      rw [if_pos rfl]
      exact (hf before hbefore).1
    · rw [if_neg hj, hmore j (Ne.symm hj)]
      exact h.books hbefore
  · intro j l x hl hx
    rw [getElem?_onPool] at hl
    obtain ⟨before, hbefore, rfl⟩ := Option.map_eq_some_iff.1 hl
    by_cases hj : i = j
    · subst hj
      rw [if_pos rfl] at hx
      exact (hf before hbefore).2 x hx
    · rw [if_neg hj] at hx
      exact h.owned hbefore hx
  · intro j hj
    rw [length_lendings_onPool] at hj
    rw [hmore j (by omega), List.nil_append, h.gone_eq_nil j hj]

/-- The number of a new handle is in no books. -/
theorem Sound.new (h : s.Sound gone) (hl : s.lendings[i]? = some l) :
    s.owners.length ∉ l.held.map Prod.fst := by
  intro hmem
  obtain ⟨x, hx, heq⟩ := List.mem_map.1 hmem
  have howner := h.owned hl hx
  rw [heq, List.getElem?_eq_none (Nat.le_refl _)] at howner
  cases howner

theorem Sound.own (h : s.Sound gone) (hi : i < s.lendings.length) :
    Sound { s with owners := s.owners ++ [i] } gone := by
  refine ⟨h.names_lt, ?_, h.books, ?_, h.gone_eq_nil⟩
  · intro j hj
    rcases List.mem_append.1 hj with hj | hj
    · exact h.owners_lt j hj
    · rw [List.mem_singleton.1 hj]
      exact hi
  · intro j l x hl hx
    have howner := h.owned hl hx
    exact (List.getElem?_append_left (List.getElem?_eq_some_iff.1 howner).1).trans howner

/-- A pool that is made has no buffers, and its number is a new one. -/
theorem Sound.create (h : s.Sound gone) (bufferSize maxIdle : Nat) :
    (s.step (.create bufferSize maxIdle)).Sound gone := by
  have hlength : (s.step (.create bufferSize maxIdle)).lendings.length = s.lendings.length + 1 :=
    List.length_append
  have hcases {i : Nat} {l : Lending}
      (hl : (s.step (.create bufferSize maxIdle)).lendings[i]? = some l) :
      s.lendings[i]? = some l ∨ i = s.lendings.length ∧
        l = .ofPool (.empty bufferSize maxIdle) := by
    replace hl : (s.lendings ++ [Lending.ofPool (.empty bufferSize maxIdle)])[i]? = some l := hl
    rw [List.getElem?_append] at hl
    split at hl
    · exact .inl hl
    · obtain ⟨hi, rfl⟩ := List.getElem?_eq_some_iff.1 hl
      rw [List.length_singleton] at hi
      exact .inr ⟨by omega, by simp⟩
  constructor
  · intro i hi
    rw [hlength]
    rcases List.mem_append.1 hi with hi | hi
    · exact Nat.lt_succ_of_lt (h.names_lt i hi)
    · rw [List.mem_singleton.1 hi]
      exact Nat.lt_succ_self _
  · intro i hi
    rw [hlength]
    exact Nat.lt_succ_of_lt (h.owners_lt i hi)
  · intro i l hl
    rcases hcases hl with hl | ⟨rfl, rfl⟩
    · exact h.books hl
    · rw [h.gone_eq_nil _ (Nat.le_refl _)]
      exact Lending.sound_empty bufferSize maxIdle
  · intro i l x hl hx
    rcases hcases hl with hl | ⟨-, rfl⟩
    · exact h.owned hl hx
    · cases hx
  · intro i hi
    rw [hlength] at hi
    exact h.gone_eq_nil i (Nat.le_of_succ_le hi)

/-- **Every use keeps all books in order.** -/
theorem Sound.step (h : s.Sound gone) (use : Use) :
    (s.step use).Sound fun i => s.discards i use ++ gone i := by
  cases use with
  | create bufferSize maxIdle => exact h.create bufferSize maxIdle
  | clone name =>
    rw [Pools.step]
    cases hname : s.names[name]? with
    | none => exact h
    | some i =>
      refine ⟨?_, h.owners_lt, h.books, h.owned, h.gone_eq_nil⟩
      intro j hj
      rcases List.mem_append.1 hj with hj | hj
      · exact h.names_lt j hj
      · rw [List.mem_singleton.1 hj]
        exact h.names_lt i (List.mem_of_getElem? hname)
  | acquire name =>
    rw [Pools.step]
    cases hname : s.names[name]? with
    | none => exact h
    | some i =>
      -- The handle is entered among the owners first: then the books of its pool may hold it.
      have hi := h.names_lt i (List.mem_of_getElem? hname)
      have howned := h.own hi
      refine howned.onPool hi (fun _ => []) ?_ fun _ _ => rfl
      intro l hl
      refine ⟨(h.books hl).acquire (h.new hl), ?_⟩
      intro x hx
      rcases List.mem_append.1 hx with hx | hx
      · exact howned.owned hl hx
      · rw [List.mem_singleton.1 hx]
        exact List.getElem?_concat_length
  | write handle data =>
    rw [Pools.step]
    cases howner : s.owners[handle]? with
    | none => exact h
    | some i =>
      have hi := h.owners_lt i (List.mem_of_getElem? howner)
      refine h.onPool hi (fun _ => []) ?_ fun _ _ => rfl
      intro l hl
      refine ⟨(h.books hl).write handle data, ?_⟩
      intro x hx
      obtain ⟨y, hy, rfl⟩ := List.mem_map.1 hx
      have hsame : (if y.1 = handle then (y.1, y.2.put data) else y).1 = y.1 := by
        split <;> rfl
      rw [hsame]
      exact h.owned hl hy
  | release handle =>
    rw [Pools.step]
    cases howner : s.owners[handle]? with
    | none =>
      have hnone : (fun i => s.discards i (.release handle) ++ gone i) = gone := by
        funext i
        rw [discards, howner, if_neg nofun, List.nil_append]
      exact hnone.symm ▸ h
    | some i =>
      have hi := h.owners_lt i (List.mem_of_getElem? howner)
      refine h.onPool hi (fun j => s.discards j (.release handle)) ?_ ?_
      · intro l hl
        have hdiscards : s.discards i (.release handle) = l.discards handle := by
          rw [discards, if_pos howner, hl]
          rfl
        refine ⟨hdiscards ▸ (h.books hl).release handle, ?_⟩
        intro x hx
        exact h.owned hl (Lending.held_release_subset hx)
      · intro j hj
        rw [discards, howner, if_neg fun heq => hj (Option.some.inj heq).symm]

theorem Sound.run (h : s.Sound gone) (uses : List Use) :
    (s.run uses).Sound fun i => s.discarded i uses ++ gone i := by
  induction uses generalizing s gone with
  | nil => exact h
  | cons use uses ih =>
    have hafter := ih (h.step use)
    simp only [← List.append_assoc] at hafter
    exact hafter

/-- A program that has made no pool yet. -/
theorem sound_start : ({} : Pools).Sound fun _ => [] :=
  ⟨nofun, nofun, nofun, nofun, fun _ _ => rfl⟩

/-! ## Sizes and names -/

theorem sizes_onPool (s : Pools) (i : Nat) {f : Lending → Lending}
    (hsize : ∀ l, (f l).pool.bufferSize = l.pool.bufferSize)
    (hidle : ∀ l, (f l).pool.maxIdle = l.pool.maxIdle) : (s.onPool i f).sizes = s.sizes := by
  apply List.ext_getElem?
  intro j
  rw [sizes, sizes, List.getElem?_map, List.getElem?_map, getElem?_onPool, Option.map_map]
  congr 1
  funext l
  show ((if i = j then f l else l).pool.bufferSize, (if i = j then f l else l).pool.maxIdle) = _
  split
  · rw [hsize, hidle]
  · rfl

theorem sizes_step (s : Pools) (use : Use) :
    (s.step use).sizes = s.sizes ++ use.created.toList := by
  cases use with
  | create bufferSize maxIdle => exact List.map_append
  | clone name =>
    rw [Pools.step, Use.created, Option.toList_none, List.append_nil]
    split <;> rfl
  | acquire name =>
    rw [Pools.step, Use.created, Option.toList_none, List.append_nil]
    split
    · rename_i i hi
      exact sizes_onPool s i (fun l => l.pool.bufferSize_acquire) fun l => l.pool.maxIdle_acquire
    · rfl
  | write handle data =>
    rw [Pools.step, Use.created, Option.toList_none, List.append_nil]
    split
    · exact sizes_onPool s _ (fun _ => rfl) fun _ => rfl
    · rfl
  | release handle =>
    rw [Pools.step, Use.created, Option.toList_none, List.append_nil]
    split
    · refine sizes_onPool s _ (fun l => ?_) fun l => ?_ <;> rw [Lending.release] <;> split
      · exact Pool.bufferSize_release ..
      · rfl
      · exact Pool.maxIdle_release ..
      · rfl
    · rfl

/-- Pools keep the sizes that they were made with. -/
theorem sizes_run (s : Pools) (uses : List Use) :
    (s.run uses).sizes = s.sizes ++ uses.filterMap Use.created := by
  induction uses generalizing s with
  | nil => exact (List.append_nil _).symm
  | cons use uses ih =>
    refine (ih (s.step use)).trans ?_
    rw [sizes_step, List.append_assoc, List.filterMap_cons]
    cases use.created <;> rfl

theorem names_step (s : Pools) (use : Use) : ∃ more, (s.step use).names = s.names ++ more := by
  cases use with
  | create bufferSize maxIdle => exact ⟨[s.lendings.length], rfl⟩
  | clone name =>
    rw [Pools.step]
    split
    · exact ⟨_, rfl⟩
    · exact ⟨[], (List.append_nil _).symm⟩
  | acquire name | write handle data | release handle =>
    rw [Pools.step]
    split <;> exact ⟨[], (List.append_nil _).symm⟩

/-- A name stays with its pool. -/
theorem names_run (hname : s.names[name]? = some i) (uses : List Use) :
    (s.run uses).names[name]? = some i := by
  induction uses generalizing s with
  | nil => exact hname
  | cons use uses ih =>
    obtain ⟨more, hmore⟩ := s.names_step use
    refine ih ?_
    rw [hmore, List.getElem?_append_left (List.getElem?_eq_some_iff.1 hname).1]
    exact hname

theorem names_clone (hname : s.names[name]? = some i) :
    (s.step (.clone name)).names = s.names ++ [i] := by
  rw [Pools.step, hname]

/-! ## How many are idle -/

theorem idle?_onPool (s : Pools) (i : Nat) (f : Lending → Lending) (name : Nat) :
    (s.onPool i f).idle? name = (s.named? name).map fun l =>
      if s.names[name]? = some i then (f l).pool.idle.length else l.pool.idle.length := by
  have hnames : (s.onPool i f).names = s.names := rfl
  rw [idle?, named?, named?, hnames]
  cases s.names[name]? with
  | none => rfl
  | some j =>
    rw [Option.bind_some, Option.bind_some, getElem?_onPool, Option.map_map]
    congr 1
    funext l
    by_cases h : i = j
    · simp [h]
    · simp [h, Ne.symm h]

/-- **Acquiring by one name takes an idle buffer from all names of that pool**, if it has one. -/
theorem idle?_acquire (s : Pools) (name other : Nat) :
    (s.step (.acquire name)).idle? other =
      if s.names[other]? = s.names[name]? then (s.idle? other).map (· - 1)
      else s.idle? other := by
  rw [Pools.step]
  cases hname : s.names[name]? with
  | none =>
    by_cases hother : s.names[other]? = none
    · rw [if_pos hother]
      show s.idle? other = _
      rw [idle?, named?, hother]
      rfl
    · rw [if_neg hother]
  | some i =>
    refine (idle?_onPool s i _ other).trans ?_
    rw [idle?]
    split
    · rw [Option.map_map]
      congr 1
      funext l
      exact l.length_idle_acquire _
    · rfl

theorem held?_eq_some_iff : s.held? handle = some b ↔
    ∃ i l, s.owners[handle]? = some i ∧ s.lendings[i]? = some l ∧ l.held? handle = some b := by
  simp only [held?, Option.bind_eq_some_iff]
  constructor
  · rintro ⟨i, hi, l, hl, hb⟩
    exact ⟨i, l, hi, hl, hb⟩
  · rintro ⟨i, l, hi, hl, hb⟩
    exact ⟨i, hi, l, hl, hb⟩

/-- **A buffer that is released comes back to all names of its pool**, if there is room for it. -/
theorem Sound.idle?_release (h : s.Sound gone) (hb : s.held? handle = some b) (name : Nat) :
    (s.step (.release handle)).idle? name =
      if s.names[name]? = s.owners[handle]? then
        (s.named? name).map fun l => min (l.pool.idle.length + 1) l.pool.maxIdle
      else s.idle? name := by
  obtain ⟨i, l, howner, hl, hb⟩ := held?_eq_some_iff.1 hb
  rw [Pools.step, howner]
  refine (idle?_onPool s i _ name).trans ?_
  split
  · rename_i hname
    rw [named?, hname, Option.bind_some, hl]
    exact congrArg some ((h.books hl).length_idle_release hb)
  · rfl

/-! ## What handles find -/

/-- **What a handle finds is changed by what is written through it**, and by nothing else that is
done before its release. -/
theorem Sound.held?_step (h : s.Sound gone) (hb : s.held? handle = some b)
    (huse : use ≠ .release handle) :
    (s.step use).held? handle = some ((use.written handle).elim b b.put) := by
  obtain ⟨i, l, howner, hl, hb⟩ := held?_eq_some_iff.1 hb
  have hpool {j : Nat} {f : Lending → Lending} {after : Buffer}
      (hother : j ≠ i → after = b) (hsame : j = i → (f l).held? handle = some after) :
      (s.onPool j f).held? handle = some after := by
    refine held?_eq_some_iff.2 ⟨i, if j = i then f l else l, howner, ?_, ?_⟩
    · rw [getElem?_onPool, hl]
      rfl
    · split
      · rename_i hj
        exact hsame hj
      · rename_i hj
        rw [hother hj, hb]
  cases use with
  | create bufferSize maxIdle =>
    refine held?_eq_some_iff.2 ⟨i, l, howner, ?_, hb⟩
    exact (List.getElem?_append_left (List.getElem?_eq_some_iff.1 hl).1).trans hl
  | clone name =>
    rw [Pools.step]
    split <;> exact held?_eq_some_iff.2 ⟨i, l, howner, hl, hb⟩
  | acquire name =>
    rw [Pools.step]
    split
    · rename_i j hj
      have hlt := (List.getElem?_eq_some_iff.1 howner).1
      have hheld := hpool (j := j) (f := (·.acquire s.owners.length)) (fun _ => rfl) fun _ => by
        rw [Lending.held?_acquire (h.new hl), if_neg (by omega), hb]
      obtain ⟨i, l, howner, hl, hb⟩ := held?_eq_some_iff.1 hheld
      refine held?_eq_some_iff.2 ⟨i, l, ?_, hl, hb⟩
      exact (List.getElem?_append_left hlt).trans howner
    · exact held?_eq_some_iff.2 ⟨i, l, howner, hl, hb⟩
  | write other data =>
    rw [Pools.step]
    cases hother : s.owners[other]? with
    | none =>
      have hne : other ≠ handle := fun heq => by
        rw [heq, howner] at hother
        cases hother
      rw [Use.written, if_neg hne]
      exact held?_eq_some_iff.2 ⟨i, l, howner, hl, hb⟩
    | some j =>
      rw [Use.written]
      by_cases heq : other = handle
      · subst heq
        obtain rfl : i = j := Option.some.inj (howner.symm.trans hother)
        rw [if_pos rfl]
        refine hpool (fun hne => absurd rfl hne) fun _ => ?_
        rw [Lending.held?_write, if_pos rfl, hb]
        rfl
      · rw [if_neg heq]
        refine hpool (fun _ => rfl) fun _ => ?_
        rw [Lending.held?_write, if_neg (Ne.symm heq), hb]
        rfl
  | release other =>
    rw [Pools.step]
    split
    · refine hpool (fun _ => rfl) fun _ => ?_
      have hne : handle ≠ other := fun heq => huse (heq ▸ rfl)
      rw [Lending.held?_release, if_neg hne, hb]
      rfl
    · exact held?_eq_some_iff.2 ⟨i, l, howner, hl, hb⟩

/-- The buffer of a handle holds what was written through it, in whatever order others acquire,
write and release. -/
theorem Sound.held?_run (h : s.Sound gone) (hb : s.held? handle = some b) {uses : List Use}
    (huses : .release handle ∉ uses) :
    (s.run uses).held? handle =
      some ((uses.filterMap (Use.written handle)).foldl Buffer.put b) := by
  induction uses generalizing s gone b with
  | nil => exact hb
  | cons use uses ih =>
    obtain ⟨huse, huses⟩ := not_or.1 (fun h => huses (List.mem_cons.2 h))
    refine (ih (h.step use) (h.held?_step hb (Ne.symm huse)) huses).trans ?_
    rw [List.filterMap_cons]
    cases use.written handle <;> rfl

/-- A buffer that goes out is the first of the idle ones or a new one, under a new handle. -/
theorem Sound.held?_acquire (h : s.Sound gone) (hname : s.named? name = some l) :
    (s.step (.acquire name)).held? s.owners.length = some l.pool.acquire.1 := by
  obtain ⟨i, hi, hl⟩ := Option.bind_eq_some_iff.1 hname
  rw [Pools.step, hi]
  refine held?_eq_some_iff.2 ⟨i, l.acquire s.owners.length, List.getElem?_concat_length, ?_, ?_⟩
  · refine (getElem?_onPool s i _ i).trans ?_
    rw [hl, Option.map_some, if_pos rfl]
  · rw [Lending.held?_acquire (h.new hl), if_pos rfl]

/-- A handle that was released holds nothing. -/
theorem held?_release (s : Pools) (handle : Nat) :
    (s.step (.release handle)).held? handle = none := by
  rw [Pools.step]
  cases howner : s.owners[handle]? with
  | none =>
    show s.owners[handle]?.bind _ = none
    rw [howner]
    rfl
  | some i =>
    show s.owners[handle]?.bind _ = none
    rw [howner, Option.bind_some, getElem?_onPool, Option.bind_map]
    cases s.lendings[i]? with
    | none => rfl
    | some l =>
      show (if i = i then _ else _ : Lending).held? handle = none
      rw [if_pos rfl, Lending.held?_release, if_pos rfl]

/-! ## Every run -/

/-- **Every buffer of a pool is lent to one handle, or idle once, or was given up**, after whatever
uses of however many pools.

A pool keeps the size and the limit that it was made with, and all its buffers have that size, those
that go out included. No more are idle than its limit; acquiring takes one from what its names see,
if there is one, and a release adds one, if there is room. A clone goes on seeing what the name sees
from which it was made, and to acquire by one is to acquire by the other. And until it is released,
a handle finds in its buffer what was there and what was written through it since. -/
theorem lend_each_buffer_once (uses : List Use) :
    let s := ({} : Pools).run uses
    s.sizes = uses.filterMap Use.created ∧
    (∀ i l, s.lendings[i]? = some l →
      (∀ x ∈ l.held, x.2.bytes.length = l.pool.bufferSize ∧ s.owners[x.1]? = some i) ∧
      (∀ b ∈ l.pool.idle, b.bytes.length = l.pool.bufferSize) ∧
      l.pool.idle.length ≤ l.pool.maxIdle ∧ (l.held.map Prod.fst).Nodup ∧
      ∀ serial < l.pool.made, l.heldSerials.count serial + l.idleSerials.count serial +
        (({} : Pools).discarded i uses).count serial = 1) ∧
    (∀ name l, s.named? name = some l →
      ∃ b, (s.step (.acquire name)).held? s.owners.length = some b ∧
        b.bytes.length = l.pool.bufferSize) ∧
    (∀ name other, (s.step (.acquire name)).idle? other =
      if s.names[other]? = s.names[name]? then (s.idle? other).map (· - 1) else s.idle? other) ∧
    (∀ handle b, s.held? handle = some b →
      (s.step (.release handle)).held? handle = none ∧
      ∀ name, (s.step (.release handle)).idle? name =
        if s.names[name]? = s.owners[handle]? then
          (s.named? name).map fun l => min (l.pool.idle.length + 1) l.pool.maxIdle
        else s.idle? name) ∧
    (∀ name i later, s.names[name]? = some i →
      let t := (s.step (.clone name)).run later
      t.idle? s.names.length = t.idle? name ∧
      t.step (.acquire s.names.length) = t.step (.acquire name)) ∧
    ∀ handle b later, s.held? handle = some b → .release handle ∉ later →
      (s.run later).held? handle =
        some ((later.filterMap (Use.written handle)).foldl Buffer.put b) := by
  intro s
  have h : s.Sound fun i => ({} : Pools).discarded i uses := by
    have h := sound_start.run uses
    simp only [List.append_nil] at h
    exact h
  refine ⟨sizes_run {} uses, ?_, ?_, s.idle?_acquire, ?_, ?_, ?_⟩
  · intro i l hl
    have hbooks := h.books hl
    refine ⟨fun x hx => ⟨?_, h.owned hl hx⟩, fun b hb => ?_, hbooks.idle_le, hbooks.handles, ?_⟩
    · rw [x.2.length_bytes, hbooks.size_held x hx]
    · rw [b.length_bytes, hbooks.size_idle b hb]
    · intro serial hserial
      rw [← List.count_append, ← List.count_append, hbooks.places.count_eq]
      rw [List.count_range, if_pos hserial]
  · intro name l hname
    obtain ⟨i, -, hl⟩ := Option.bind_eq_some_iff.1 hname
    exact ⟨_, h.held?_acquire hname, (Buffer.length_bytes _).trans (h.books hl).size_acquire⟩
  · intro handle b hb
    exact ⟨s.held?_release handle, h.idle?_release hb⟩
  · intro name i later hname t
    have hlt := (List.getElem?_eq_some_iff.1 hname).1
    have hnames := names_clone hname
    have hold : t.names[name]? = some i :=
      names_run (by rw [hnames, List.getElem?_append_left hlt, hname]) later
    have hnew : t.names[s.names.length]? = some i :=
      names_run (by rw [hnames, List.getElem?_concat_length]) later
    exact ⟨by rw [idle?, idle?, named?, named?, hnew, hold],
      by rw [Pools.step, Pools.step, hnew, hold]⟩
  · intro handle b later hb hlater
    exact h.held?_run hb hlater

/-- Of two handles of one pool one is released, and its buffer is idle under both names of the pool;
the other finds what was written through it. -/
theorem lend_each_buffer_once_two :
    let s := ({} : Pools).run [.create 4 1, .clone 0, .acquire 0, .acquire 1]
    ((s.run [.write 1 [9], .write 0 [7], .release 1]).held? 0).map Buffer.bytes =
      some [7, 0, 0, 0] ∧
    (s.step (.release 1)).idle? 0 = some 1 ∧ (s.step (.release 1)).held? 1 = none := by
  intro s
  obtain ⟨-, -, -, -, hrelease, -, hcontents⟩ :=
    lend_each_buffer_once [.create 4 1, .clone 0, .acquire 0, .acquire 1]
  obtain ⟨hnone, hidle⟩ := hrelease 1 _ rfl
  refine ⟨?_, hidle 0, hnone⟩
  rw [hcontents 0 _ [.write 1 [9], .write 0 [7], .release 1] rfl (by decide)]
  rfl

end Pools

end SealedTunnel
