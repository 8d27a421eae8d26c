import SealedTunnel.Pool

/-!
# The books of a pool

Every buffer that a pool has made is out under one handle, or idle, or was given up when it came
back and there was no room for it. Acquiring, writing and releasing keep that, and the sizes, and
the limit on what is idle; and a buffer that is out holds what its own handle wrote.

## Main definitions

* `Lending.heldSerials`, `Lending.idleSerials`: the buffers that are out, and those that are idle
* `Lending.discards`: what a release gives up
* `Lending.Sound`: the books of a pool are in order

## Main results

* `Lending.Sound.acquire`, `Lending.Sound.write`, `Lending.Sound.release`: they stay in order
* `Lending.length_idle_acquire`, `Lending.Sound.length_idle_release`: how many buffers are idle
* `Lending.held?_acquire`, `Lending.held?_write`, `Lending.held?_release`: what handles hold
-/

namespace SealedTunnel

namespace Pool

variable {p : Pool} {b : Buffer}

@[simp] theorem bufferSize_acquire (p : Pool) : p.acquire.2.bufferSize = p.bufferSize := by
  unfold acquire
  split <;> rfl

@[simp] theorem maxIdle_acquire (p : Pool) : p.acquire.2.maxIdle = p.maxIdle := by
  unfold acquire
  split <;> rfl

@[simp] theorem bufferSize_release (p : Pool) (b : Buffer) :
    (p.release b).bufferSize = p.bufferSize := by
  unfold release
  split <;> rfl

@[simp] theorem maxIdle_release (p : Pool) (b : Buffer) : (p.release b).maxIdle = p.maxIdle := by
  unfold release
  split <;> rfl

@[simp] theorem made_release (p : Pool) (b : Buffer) : (p.release b).made = p.made := by
  unfold release
  split <;> rfl

/-- **Acquiring takes an idle buffer, or makes one** if there is none. -/
theorem acquire_cases (p : Pool) :
    (p.idle = p.acquire.1 :: p.acquire.2.idle ∧ p.acquire.2.made = p.made) ∨
      (p.idle = [] ∧ p.acquire.2.idle = [] ∧ p.acquire.2.made = p.made + 1 ∧
        p.acquire.1.serial = p.made ∧ p.acquire.1.size = p.bufferSize) := by
  unfold acquire
  split
  · rename_i b rest hidle
    exact .inl ⟨hidle, rfl⟩
  · rename_i hidle
    exact .inr ⟨hidle, hidle, rfl, rfl, rfl⟩

/-- A buffer of the right size is kept just if there is room for it. -/
theorem idle_release (hsize : b.size = p.bufferSize) :
    (p.release b).idle = if p.idle.length < p.maxIdle then b :: p.idle else p.idle := by
  unfold release
  by_cases hroom : p.idle.length < p.maxIdle
  · rw [if_pos ⟨hsize, hroom⟩, if_pos hroom]
  · rw [if_neg (fun h => hroom h.2), if_neg hroom]

end Pool

namespace Lending

variable {l : Lending} {b : Buffer} {handle other : Nat} {gone : List Nat}

/-! ## What handles hold -/

theorem held?_cons (p : Pool) (x : Nat × Buffer) (held : List (Nat × Buffer)) (handle : Nat) :
    held? ⟨p, x :: held⟩ handle = if x.1 = handle then some x.2 else held? ⟨p, held⟩ handle := by
  by_cases h : x.1 = handle <;> simp [held?, h]

theorem held?_eq_none (h : handle ∉ l.held.map Prod.fst) : l.held? handle = none := by
  rw [held?, Option.map_eq_none_iff, List.find?_eq_none]
  intro x hx heq
  exact h (List.mem_map.2 ⟨x, hx, of_decide_eq_true heq⟩)

theorem mem_held (h : l.held? handle = some b) : (handle, b) ∈ l.held := by
  obtain ⟨x, hx, rfl⟩ := Option.map_eq_some_iff.1 h
  have heq := of_decide_eq_true
    (List.find?_some (p := fun x : Nat × Buffer => decide (x.1 = handle)) hx)
  exact heq ▸ List.mem_of_find?_eq_some hx

/-- A new handle holds the buffer that went out under it, and the others what they held. -/
theorem held?_acquire (hnew : handle ∉ l.held.map Prod.fst) (other : Nat) :
    (l.acquire handle).held? other =
      if other = handle then some l.pool.acquire.1 else l.held? other := by
  have hold := held?_eq_none hnew
  show ((l.held ++ [(handle, l.pool.acquire.1)]).find? fun h => h.1 = other).map Prod.snd = _
  rw [held?, Option.map_eq_none_iff] at hold
  by_cases h : other = handle
  · subst h
    rw [if_pos rfl, List.find?_append, hold, Option.none_or, List.find?_cons_of_pos (by simp)]
    rfl
  · rw [if_neg h, List.find?_append, List.find?_cons_of_neg (by simpa using Ne.symm h),
      List.find?_nil, Option.or_none, held?]

/-- **What is written is written into the buffer of the handle**, and into no other. -/
theorem held?_write (l : Lending) (handle : Nat) (data : Bytes) (other : Nat) :
    (l.write handle data).held? other =
      if other = handle then (l.held? other).map (·.put data) else l.held? other := by
  obtain ⟨pool, held⟩ := l
  induction held with
  | nil =>
    show none = _
    split <;> rfl
  | cons x held ih =>
    have hmap : (write ⟨pool, x :: held⟩ handle data) = ⟨pool, (if x.1 = handle
        then (x.1, x.2.put data) else x) :: (write ⟨pool, held⟩ handle data).held⟩ := rfl
    have hrest : write ⟨pool, held⟩ handle data =
        ⟨pool, (write ⟨pool, held⟩ handle data).held⟩ := rfl
    rw [hmap, held?_cons, ← hrest, ih, held?_cons]
    by_cases hx : x.1 = handle
    · by_cases ho : handle = other
      · simp [hx, ho]
      · simp [hx, ho, Ne.symm ho]
    · by_cases ho : x.1 = other
      · simp [ho, show other ≠ handle from fun h => hx (ho.trans h)]
      · simp [hx, ho]

/-- A handle that was released holds nothing, and the others what they held. -/
theorem held?_release (l : Lending) (handle other : Nat) :
    (l.release handle).held? other = if other = handle then none else l.held? other := by
  have hfilter (p : Pool) : held? ⟨p, l.held.filter fun h => h.1 ≠ handle⟩ other =
      if other = handle then none else l.held? other := by
    rw [held?, List.find?_filter]
    by_cases h : other = handle
    · subst h
      rw [if_pos rfl, Option.map_eq_none_iff, List.find?_eq_none]
      simp
    · rw [if_neg h, held?]
      congr 2
      funext x
      by_cases hx : x.1 = other <;> simp [hx, h]
  unfold release
  split
  · exact hfilter _
  · rename_i hnone
    split
    · rename_i heq
      rw [heq, hnone]
    · rfl

/-! ## Order in the books -/

/-- The serial numbers of the buffers that are out. -/
def heldSerials (l : Lending) : List Nat :=
  l.held.map fun h => h.2.serial

/-- The serial numbers of the buffers that are idle. -/
def idleSerials (l : Lending) : List Nat :=
  l.pool.idle.map Buffer.serial

/-- The buffer that is given up if a handle is released: its own, if the pool is full. -/
def discards (l : Lending) (handle : Nat) : List Nat :=
  match l.held? handle with
  | some b => if l.pool.idle.length < l.pool.maxIdle then [] else [b.serial]
  | none => []

/-- The books of a pool are in order, of which some buffers were given up. -/
structure Sound (l : Lending) (gone : List Nat) : Prop where
  size_held : ∀ x ∈ l.held, x.2.size = l.pool.bufferSize
  size_idle : ∀ b ∈ l.pool.idle, b.size = l.pool.bufferSize
  idle_le : l.pool.idle.length ≤ l.pool.maxIdle
  /-- A handle holds one buffer. -/
  handles : (l.held.map Prod.fst).Nodup
  /-- Each buffer that was made is in one place. -/
  places : (l.heldSerials ++ l.idleSerials ++ gone).Perm (List.range l.pool.made)

/-- A pool without buffers. -/
theorem sound_empty (bufferSize maxIdle : Nat) :
    (ofPool (.empty bufferSize maxIdle)).Sound [] :=
  ⟨nofun, nofun, Nat.zero_le _, .nil, .refl _⟩

/-- A buffer that goes out has the size of all of them. -/
theorem Sound.size_acquire (h : l.Sound gone) : l.pool.acquire.1.size = l.pool.bufferSize := by
  rcases l.pool.acquire_cases with ⟨hidle, -⟩ | ⟨-, -, -, -, hsize⟩
  · exact h.size_idle _ (hidle ▸ List.mem_cons_self)
  · exact hsize

theorem Sound.acquire (h : l.Sound gone) (hnew : handle ∉ l.held.map Prod.fst) :
    (l.acquire handle).Sound gone := by
  have hsize := h.size_acquire
  have hle := h.idle_le
  have hcases := l.pool.acquire_cases
  have hheld : (l.acquire handle).held = l.held ++ [(handle, l.pool.acquire.1)] := rfl
  have hpool : (l.acquire handle).pool = l.pool.acquire.2 := rfl
  constructor
  · intro x hx
    rw [hpool, Pool.bufferSize_acquire]
    rw [hheld, List.mem_append, List.mem_singleton] at hx
    rcases hx with hx | rfl
    · exact h.size_held x hx
    · exact hsize
  · intro b hb
    rw [hpool, Pool.bufferSize_acquire]
    rw [hpool] at hb
    rcases hcases with ⟨hidle, -⟩ | ⟨-, hnone, -⟩
    · exact h.size_idle b (hidle ▸ List.mem_cons_of_mem _ hb)
    · rw [hnone] at hb
      cases hb
  · rw [hpool, Pool.maxIdle_acquire]
    rcases hcases with ⟨hidle, -⟩ | ⟨-, hnone, -⟩
    · rw [hidle, List.length_cons] at hle
      omega
    · rw [hnone]
      exact Nat.zero_le _
  · rw [hheld, List.map_append, List.nodup_append]
    refine ⟨h.handles, List.pairwise_singleton _ _, ?_⟩
    intro x hx y hy heq
    obtain rfl : y = handle := List.mem_singleton.1 hy
    exact hnew (heq ▸ hx)
  · have hplaces := h.places
    rw [heldSerials, idleSerials, hheld, hpool, List.map_append]
    rcases hcases with ⟨hidle, hmade⟩ | ⟨hidle, hnone, hmade, hserial, -⟩
    · rw [hmade]
      rw [idleSerials, hidle, List.map_cons] at hplaces
      simpa [heldSerials] using hplaces
    · rw [hmade, hnone, List.range_succ]
      rw [idleSerials, hidle] at hplaces
      simp only [List.map_cons, List.map_nil, List.append_nil, hserial] at hplaces ⊢
      rw [List.append_assoc]
      have hlast : ([l.pool.made] ++ (l.held.map (fun x => x.2.serial) ++ gone)).Perm
          (l.held.map (fun x => x.2.serial) ++ gone ++ [l.pool.made]) := List.perm_append_comm
      exact List.perm_middle.trans (hlast.trans (hplaces.append_right _))

theorem Sound.write (h : l.Sound gone) (handle : Nat) (data : Bytes) :
    (l.write handle data).Sound gone := by
  have hmap {β : Type} (f : Nat × Buffer → β) (hf : ∀ x, f (x.1, x.2.put data) = f x) :
      (l.write handle data).held.map f = l.held.map f := by
    show (l.held.map _).map f = _
    rw [List.map_map]
    refine List.map_congr_left fun x _ => ?_
    show f (if x.1 = handle then (x.1, x.2.put data) else x) = f x
    split
    · exact hf x
    · rfl
  refine ⟨?_, h.size_idle, h.idle_le, ?_, ?_⟩
  · intro x hx
    obtain ⟨y, hy, rfl⟩ := List.mem_map.1 hx
    split
    · exact (Buffer.size_put ..).trans (h.size_held y hy)
    · exact h.size_held y hy
  · rw [hmap Prod.fst fun _ => rfl]
    exact h.handles
  · rw [heldSerials, hmap _ fun _ => Buffer.serial_put ..]
    exact h.places

/-- What a handle holds, and all the rest. -/
theorem Sound.perm_held (h : l.Sound gone) (hb : l.held? handle = some b) :
    l.held.Perm ((handle, b) :: l.held.filter fun x => x.1 ≠ handle) := by
  obtain ⟨pool, held⟩ := l
  have hhandles := h.handles
  clear h
  induction held with
  | nil => cases hb
  | cons x held ih =>
    rw [held?_cons] at hb
    rw [List.map_cons, List.nodup_cons] at hhandles
    obtain ⟨hnew, hhandles⟩ := hhandles
    split at hb
    · rename_i hx
      obtain rfl := Option.some.inj hb
      have hrest : held.filter (fun y => y.1 ≠ handle) = held := by
        rw [List.filter_eq_self]
        intro y hy
        refine decide_eq_true fun heq => hnew ?_
        rw [hx, ← heq]
        exact List.mem_map_of_mem hy
      rw [List.filter_cons_of_neg (by simpa using hx), hrest, ← hx]
    · rename_i hx
      rw [List.filter_cons_of_pos (by simpa using hx)]
      exact ((ih hb hhandles).cons x).trans (.swap ..)

theorem held_release_subset : (l.release handle).held ⊆ l.held := by
  unfold release
  split
  · exact List.filter_sublist.subset
  · exact fun _ hx => hx

theorem Sound.release (h : l.Sound gone) (handle : Nat) :
    (l.release handle).Sound (l.discards handle ++ gone) := by
  unfold Lending.release discards
  cases hb : l.held? handle with
  | none => exact h
  | some b =>
    have hsize := h.size_held _ (mem_held hb)
    have hidle := Pool.idle_release hsize
    have hle := h.idle_le
    have hsub := List.filter_sublist (l := l.held) (p := fun x => x.1 ≠ handle)
    have hplaces : (b.serial :: ((l.held.filter fun x => x.1 ≠ handle).map fun x => x.2.serial) ++
        l.idleSerials ++ gone).Perm (List.range l.pool.made) :=
      ((((h.perm_held hb).map fun x => x.2.serial).symm.append_right _).append_right _).trans
        h.places
    dsimp only
    constructor
    · intro x hx
      rw [Pool.bufferSize_release]
      exact h.size_held x (hsub.subset hx)
    · intro c hc
      rw [Pool.bufferSize_release]
      rw [hidle] at hc
      split at hc
      · rcases List.mem_cons.1 hc with rfl | hc
        · exact hsize
        · exact h.size_idle c hc
      · exact h.size_idle c hc
    · rw [Pool.maxIdle_release, hidle]
      split
      · rw [List.length_cons]
        omega
      · exact hle
    · exact h.handles.sublist (hsub.map _)
    · rw [Pool.made_release, heldSerials, idleSerials, hidle]
      refine .trans ?_ hplaces
      split
      · exact List.perm_middle.append_right gone
      · exact List.perm_middle

/-! ## How many are idle -/

theorem length_idle_acquire (l : Lending) (handle : Nat) :
    (l.acquire handle).pool.idle.length = l.pool.idle.length - 1 := by
  show l.pool.acquire.2.idle.length = _
  rcases l.pool.acquire_cases with ⟨hidle, -⟩ | ⟨hidle, hnone, -⟩
  · rw [hidle, List.length_cons, Nat.add_sub_cancel]
  · rw [hidle, hnone]
    rfl

theorem Sound.length_idle_release (h : l.Sound gone) (hb : l.held? handle = some b) :
    (l.release handle).pool.idle.length = min (l.pool.idle.length + 1) l.pool.maxIdle := by
  have hle := h.idle_le
  have hsize := h.size_held _ (mem_held hb)
  rw [Lending.release, hb]
  show (l.pool.release b).idle.length = _
  rw [Pool.idle_release hsize]
  split
  · rw [List.length_cons]
    omega
  · omega

end Lending

end SealedTunnel
