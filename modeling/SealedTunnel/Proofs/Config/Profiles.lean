import Mathlib.Data.List.TakeWhile
import SealedTunnel.Proofs.Config.Resolved
import SealedTunnel.Conn.Settings

/-!
# What a profile makes of tunables

A profile treats every number by itself: one that is not set gets its default, one that is below the
floor is raised to it, and the size of frames is cut at the largest one last. Each default and each
floor lies in the range that the number ends in, so none of these steps undoes another; that is why
a second resolution changes nothing, and why more stays more. The switches are as they were, except
for those that the profile decides.

## Main definitions

* `Tunables.Number`, `Tunables.Switch`: the tunables one by one
* `Profile.settle`: what becomes of a number
* `Profile.decides`: what becomes of a switch, where the profile decides it
* `Tunables.Below`: tunables with the same switches and numbers that are no larger
* `Text.Stripped`: a text without the blanks around it

## Main results

* `Profile.number_resolve`, `Profile.isOn_resolve`: resolution, tunable by tunable
* `Profile.resolve_resolve`, `Profile.below_resolve`: resolution changes nothing the second time,
  and keeps the order
* `Text.stripped_iff`: the text without blanks around it is found
* `Profile.resolve_completes`: what resolution makes sure of
-/

namespace SealedTunnel

/-! ## The tunables one by one -/

namespace Tunables

/-- The numbers among the tunables. -/
inductive Number where
  | frameSize
  | recvWindow
  | streamWindow
  | readBuffer
  | writeBuffer
  | keepaliveSecs
  deriving DecidableEq, Repr

/-- The switches among the tunables. -/
inductive Switch where
  | nodelay
  | compression
  | fragment
  | obfuscation
  | jitter
  deriving DecidableEq, Repr

/-- One of the numbers. -/
def number (t : Tunables) : Number → Nat
  | .frameSize => t.frameSize.toNat
  | .recvWindow => t.recvWindow.toNat
  | .streamWindow => t.streamWindow.toNat
  | .readBuffer => t.readBuffer.toNat
  | .writeBuffer => t.writeBuffer.toNat
  | .keepaliveSecs => t.keepaliveSecs.toNat

/-- Whether one of the switches is on. -/
def isOn (t : Tunables) : Switch → Bool
  | .nodelay => t.nodelay
  | .compression => t.compression = .snappy
  | .fragment => t.fragment
  | .obfuscation => t.obfuscation
  | .jitter => t.jitter

/-- There is nothing else among the tunables. -/
theorem eq_of_number_of_isOn {t t' : Tunables} (hnumber : ∀ k, t.number k = t'.number k)
    (hon : ∀ w, t.isOn w = t'.isOn w) : t = t' := by
  obtain ⟨frame, recv, stream, read, write, keepalive, nodelay, compression, fragment, obfuscation,
    jitter⟩ := t
  have hcompression : compression = t'.compression := by
    have := hon .compression
    cases compression <;> cases h : t'.compression <;> simp_all [isOn]
  obtain rfl := UInt64.toNat_inj.1 (hnumber .frameSize)
  obtain rfl := UInt64.toNat_inj.1 (hnumber .recvWindow)
  obtain rfl := UInt64.toNat_inj.1 (hnumber .streamWindow)
  obtain rfl := UInt64.toNat_inj.1 (hnumber .readBuffer)
  obtain rfl := UInt64.toNat_inj.1 (hnumber .writeBuffer)
  obtain rfl := UInt64.toNat_inj.1 (hnumber .keepaliveSecs)
  obtain rfl : nodelay = t'.nodelay := hon .nodelay
  obtain rfl : fragment = t'.fragment := hon .fragment
  obtain rfl : obfuscation = t'.obfuscation := hon .obfuscation
  obtain rfl : jitter = t'.jitter := hon .jitter
  rw [hcompression]

/-- The same switches, and no number is larger. -/
structure Below (t t' : Tunables) : Prop where
  number : ∀ k, t.number k ≤ t'.number k
  isOn : ∀ w, t.isOn w = t'.isOn w

end Tunables

open Tunables (Number Switch)

/-- The least value of one of the numbers. -/
def Floors.of (f : Floors) : Number → Nat
  | .frameSize => f.frameSize.toNat
  | .recvWindow | .streamWindow => f.window.toNat
  | .readBuffer | .writeBuffer => f.buffer.toNat
  | .keepaliveSecs => 0

namespace Profile

/-! ## Numbers -/

/-- What a number is where it is not set. -/
def defaultOf (p : Profile) : Number → Nat
  | .frameSize => Tunables.defaultFrameSize.toNat
  | .recvWindow | .streamWindow => Tunables.defaultWindow.toNat
  | .readBuffer | .writeBuffer => 0
  | .keepaliveSecs => p.keepaliveSecs.toNat

/-- Only the size of frames has an upper bound. -/
def cut : Number → Nat → Nat
  | .frameSize, x => min x Tunables.maxFrameSize.toNat
  | _, x => x

/-- What becomes of a number: filled in, raised, cut. -/
def settle (p : Profile) (k : Number) (x : Nat) : Nat :=
  cut k (max (if x = 0 then p.defaultOf k else x) (p.floors.of k))

theorem number_override (p : Profile) (t : Tunables) (k : Number) :
    (p.override t).number k = t.number k := by
  cases p <;> rfl

theorem number_fill (p : Profile) (t : Tunables) (k : Number) :
    (p.fill t).number k = if t.number k = 0 then p.defaultOf k else t.number k := by
  have hfill (x default : UInt64) : (if x = 0 then default else x).toNat =
      if x.toNat = 0 then default.toNat else x.toNat := by
    have hzero : x = 0 ↔ x.toNat = 0 := (UInt64.toNat_inj (b := 0)).symm
    simp only [hzero]
    split <;> rfl
  have hunset (x : Nat) : x = if x = 0 then 0 else x := by
    split <;> omega
  cases k with
  | readBuffer | writeBuffer => exact hunset _
  | frameSize | recvWindow | streamWindow | keepaliveSecs => exact hfill _ _

theorem number_raise (p : Profile) (t : Tunables) (k : Number) :
    (p.raise t).number k = max (t.number k) (p.floors.of k) := by
  cases k with
  | keepaliveSecs => exact (Nat.max_zero _).symm
  | frameSize | recvWindow | streamWindow | readBuffer | writeBuffer => exact toNat_max ..

/-- **Each number settles by itself.** -/
theorem number_resolve (p : Profile) (base : Tunables) (k : Number) :
    (p.resolve base).number k = p.settle k (base.number k) := by
  have hcut (t : Tunables) :
      Tunables.number { t with frameSize := min t.frameSize Tunables.maxFrameSize } k =
        cut k (t.number k) := by
    cases k with
    | frameSize => exact toNat_min ..
    | _ => rfl
  rw [resolve, hcut, number_override, number_raise, number_fill, settle]

/-! ### What becomes of a number -/

section Settle

variable (p : Profile) (k : Number)

/-- Defaults and floors are no larger than what a number is cut at. -/
theorem cut_defaultOf_floors :
    cut k (p.defaultOf k) = p.defaultOf k ∧ cut k (p.floors.of k) = p.floors.of k := by
  cases p <;> cases k <;> decide

theorem cut_mono {x y : Nat} (h : x ≤ y) : cut k x ≤ cut k y := by
  cases k with
  | frameSize =>
    simp only [cut]
    omega
  | _ => exact h

theorem cut_cut (x : Nat) : cut k (cut k x) = cut k x := by
  cases k with
  | frameSize => exact Nat.min_eq_left (Nat.min_le_right ..)
  | _ => rfl

/-- No number is below its floor. -/
theorem floor_le_settle (x : Nat) : p.floors.of k ≤ p.settle k x := by
  rw [← (cut_defaultOf_floors p k).2]
  exact cut_mono k (Nat.le_max_right ..)

/-- Apart from the cut, no number is lowered. -/
theorem cut_le_settle (x : Nat) : cut k x ≤ p.settle k x := by
  apply cut_mono
  split <;> omega

/-- A number that has a default is set in the end. -/
theorem settle_pos (hdefault : 0 < p.defaultOf k) (x : Nat) : 0 < p.settle k x := by
  have hone : 0 < cut k 1 := by
    cases k <;> decide
  apply Nat.lt_of_lt_of_le hone
  apply cut_mono
  split <;> omega

/-- **What has settled stays.** -/
theorem settle_settle (x : Nat) : p.settle k (p.settle k x) = p.settle k x := by
  have hfloor := p.floor_le_settle k x
  have hcut : cut k (p.settle k x) = p.settle k x := cut_cut k _
  have hfilled : (if p.settle k x = 0 then p.defaultOf k else p.settle k x) = p.settle k x := by
    split
    · rename_i hunset
      have hnone : ¬0 < p.defaultOf k := fun h => Nat.ne_of_gt (p.settle_pos k h x) hunset
      omega
    · rfl
  calc p.settle k (p.settle k x)
      = cut k (max (p.settle k x) (p.floors.of k)) := by rw [settle, hfilled]
    _ = cut k (p.settle k x) := by rw [Nat.max_eq_left hfloor]
    _ = p.settle k x := hcut

/-- **More stays more**, as long as the same numbers are set. -/
theorem settle_mono {x y : Nat} (h : x ≤ y) (hunset : x = 0 ↔ y = 0) :
    p.settle k x ≤ p.settle k y := by
  apply cut_mono
  by_cases hx : x = 0
  · rw [if_pos hx, if_pos (hunset.1 hx)]
  · rw [if_neg hx, if_neg (mt hunset.2 hx)]
    omega

end Settle

/-! ## Switches -/

/-- What a profile makes of a switch, where it decides it. -/
def decides : Profile → Switch → Option Bool
  | .aggressive, .jitter | .stable, .jitter | .latency, .jitter => some false
  | .latency, .nodelay => some true
  | .performance, .obfuscation | .performance, .fragment | .performance, .compression
  | .performance, .jitter => some false
  | _, _ => none

/-- **A switch is as it was, unless the profile decides it.** -/
theorem isOn_resolve (p : Profile) (base : Tunables) (w : Switch) :
    (p.resolve base).isOn w = (p.decides w).getD (base.isOn w) := by
  cases p <;> cases w <;> rfl

/-- Nothing but undelayed sending is ever switched on. -/
theorem isOn_of_isOn_resolve {p : Profile} {base : Tunables} {w : Switch} (hw : w ≠ .nodelay)
    (hon : (p.resolve base).isOn w = true) : base.isOn w = true := by
  rw [isOn_resolve] at hon
  cases hdecides : p.decides w with
  | none => rwa [hdecides] at hon
  | some on =>
    have hoff : on = false := by
      cases p <;> cases w <;> simp_all [decides]
    rw [hdecides, hoff] at hon
    cases hon

/-! ## Resolution -/

section Resolution

variable (p : Profile) (base : Tunables)

theorem number_resolve_pos {k : Number} (hdefault : 0 < p.defaultOf k) :
    0 < (p.resolve base).number k := by
  rw [number_resolve]
  exact p.settle_pos k hdefault _

theorem frameSize_resolve_le : (p.resolve base).number .frameSize ≤ 65535 := by
  rw [number_resolve]
  exact Nat.min_le_right ..

theorem cut_le_number_resolve (k : Number) :
    cut k (base.number k) ≤ (p.resolve base).number k := by
  rw [number_resolve]
  exact p.cut_le_settle k _

/-- **Resolving again changes nothing.** -/
theorem resolve_resolve : p.resolve (p.resolve base) = p.resolve base := by
  apply Tunables.eq_of_number_of_isOn
  · intro k
    rw [number_resolve, number_resolve, settle_settle]
  · intro w
    rw [isOn_resolve, isOn_resolve]
    cases p.decides w <;> rfl

/-- **Larger numbers resolve to larger ones**, as long as the same ones are set. -/
theorem below_resolve {base base' : Tunables} (h : base.Below base')
    (hunset : ∀ k, base.number k = 0 ↔ base'.number k = 0) :
    (p.resolve base).Below (p.resolve base') := by
  constructor
  · intro k
    rw [number_resolve, number_resolve]
    exact p.settle_mono k (h.number k) (hunset k)
  · intro w
    rw [isOn_resolve, isOn_resolve, h.isOn w]

end Resolution

end Profile

/-! ## Names -/

namespace Text

variable {cs core : List Char}

/-- The text is `core` with nothing but blanks around it, and none at its own ends. -/
def Stripped (cs core : List Char) : Prop :=
  ∃ front back, cs = front ++ core ++ back ∧ (∀ c ∈ front ++ back, isBlank c = true) ∧
    (∀ c ∈ core.head?, isBlank c = false) ∧ ∀ c ∈ core.getLast?, isBlank c = false

theorem dropWhile_of_head? (h : ∀ c ∈ cs.head?, isBlank c = false) : cs.dropWhile isBlank = cs := by
  cases cs with
  | nil => rfl
  | cons c cs => rw [List.dropWhile_cons_of_neg (by simp [h c rfl])]

theorem head?_dropWhile (cs : List Char) :
    ∀ c ∈ (cs.dropWhile isBlank).head?, isBlank c = false := by
  intro c hc
  have := List.head?_dropWhile_not isBlank cs
  rw [Option.mem_def.1 hc] at this
  exact this

/-- The blanks in front are passed over. -/
theorem dropWhile_append_of_blank {front : List Char} (hfront : ∀ c ∈ front, isBlank c = true) :
    (front ++ cs).dropWhile isBlank = cs.dropWhile isBlank :=
  List.dropWhile_append_of_pos hfront

/-- **Stripping finds the text without the blanks around it.** -/
theorem stripped_iff : Stripped cs core ↔ core = trim cs := by
  constructor
  · rintro ⟨front, back, rfl, hblank, hhead, hlast⟩
    have hfront : ∀ c ∈ front, isBlank c = true := fun c hc =>
      hblank c (List.mem_append_left _ hc)
    have hback : ∀ c ∈ back.reverse, isBlank c = true := fun c hc =>
      hblank c (List.mem_append_right _ (List.mem_reverse.1 hc))
    have hend : core.reverse.dropWhile isBlank = core.reverse := by
      apply dropWhile_of_head?
      rwa [List.head?_reverse]
    rw [trim, List.append_assoc, dropWhile_append_of_blank hfront]
    cases core with
    | nil =>
      have hnone : back.dropWhile isBlank = [] :=
        List.dropWhile_eq_nil_iff.2 fun c hc => hback c (List.mem_reverse.2 hc)
      rw [List.nil_append, hnone]
      rfl
    | cons c core =>
      have hstart : (c :: core ++ back).dropWhile isBlank = c :: core ++ back :=
        dropWhile_of_head? hhead
      rw [hstart, List.reverse_append, dropWhile_append_of_blank hback, hend, List.reverse_reverse]
  · rintro rfl
    let rest := cs.dropWhile isBlank
    let back := (rest.reverse.takeWhile isBlank).reverse
    have hrest : trim cs ++ back = rest := by
      show (rest.reverse.dropWhile isBlank).reverse ++ back = rest
      rw [← List.reverse_append, List.takeWhile_append_dropWhile, List.reverse_reverse]
    refine ⟨cs.takeWhile isBlank, back, ?_, ?_, ?_, ?_⟩
    · rw [List.append_assoc, hrest]
      exact List.takeWhile_append_dropWhile.symm
    · intro c hc
      rcases List.mem_append.1 hc with hc | hc
      · exact List.mem_takeWhile_imp hc
      · exact List.mem_takeWhile_imp (List.mem_reverse.1 hc)
    · intro c hc
      have hhead : c ∈ rest.head? := by
        rw [← hrest, List.head?_append, Option.mem_def.1 hc]
        rfl
      exact head?_dropWhile cs c hhead
    · intro c hc
      rw [trim, List.getLast?_reverse] at hc
      exact head?_dropWhile _ c hc

end Text

namespace Profile

/-- The name that a text comes down to. -/
theorem canonicalName_of_stripped {name : String} {core : List Char}
    (h : Text.Stripped name.toList core) :
    canonicalName name = String.ofList (core.map Char.toLower) := by
  rw [canonicalName, Text.stripped_iff.1 h]

/-- No two profiles have the same name, so the one that is found is the one that is meant. -/
theorem ofName?_of_name {name : String} {q : Profile} (h : q.name = canonicalName name) :
    ofName? name = some q := by
  rw [ofName?, ← h]
  cases q <;> decide

theorem ofName?_of_forall_ne {name : String} (h : ∀ q : Profile, q.name ≠ canonicalName name) :
    ofName? name = none := by
  rw [ofName?, List.find?_eq_none]
  intro q _
  simpa using h q

/-- **A text goes by the profile it names**, blanks and capitals apart, and by the balanced one if
it names none. -/
theorem resolve_of_stripped {name : String} {core : List Char}
    (h : Text.Stripped name.toList core) (base : Tunables) :
    (∀ q : Profile, q.name.toList = core.map Char.toLower →
      base.resolve name = q.resolve base) ∧
    ((∀ q : Profile, q.name.toList ≠ core.map Char.toLower) →
      base.resolve name = balanced.resolve base) := by
  have hname (q : Profile) :
      q.name = canonicalName name ↔ q.name.toList = core.map Char.toLower := by
    rw [canonicalName_of_stripped h, ← String.toList_inj, String.toList_ofList]
  constructor
  · intro q hq
    rw [Tunables.resolve, ofName?_of_name ((hname q).2 hq)]
    rfl
  · intro hnone
    rw [Tunables.resolve, ofName?_of_forall_ne fun q => mt (hname q).1 (hnone q)]
    rfl

/-! ## What resolution makes sure of -/

/-- **What a profile makes of tunables.** The size of frames is in range, so that it is what frames
carry; windows and the time between signs of life are set; no number is below its floor or lowered,
but for a size of frames that is too large. Resolving again changes nothing, and larger numbers
resolve to larger ones. A switch is as it was unless the profile decides it, which turns nothing on
but undelayed sending. And a text stands for the profile that it names without its blanks and in
lower case, else for the balanced one. -/
theorem resolve_completes (p : Profile) (base : Tunables) :
    let r := p.resolve base
    (1 ≤ r.number .frameSize ∧ r.number .frameSize ≤ 65535 ∧
      ∀ s : Settings, s.frameSize = r.frameSize → s.maxPayload = r.number .frameSize) ∧
    (r.recvWindow ≠ 0 ∧ r.streamWindow ≠ 0 ∧ r.keepaliveSecs ≠ 0) ∧
    (∀ k, p.floors.of k ≤ r.number k) ∧
    ((∀ k, k ≠ .frameSize → base.number k ≤ r.number k) ∧
      (base.number .frameSize ≤ 65535 → base.number .frameSize ≤ r.number .frameSize) ∧
      (65535 < base.number .frameSize → r.number .frameSize = 65535)) ∧
    p.resolve r = r ∧
    (∀ base' : Tunables, base.Below base' → (∀ k, base.number k = 0 ↔ base'.number k = 0) →
      r.Below (p.resolve base')) ∧
    ((∀ w, r.isOn w = (p.decides w).getD (base.isOn w)) ∧
      ∀ w, w ≠ .nodelay → r.isOn w = true → base.isOn w = true) ∧
    ∀ name : String, ∃ core, Text.Stripped name.toList core ∧
      (∀ core', Text.Stripped name.toList core' → core' = core) ∧
      (∀ q : Profile, q.name.toList = core.map Char.toLower →
        base.resolve name = q.resolve base) ∧
      ((∀ q : Profile, q.name.toList ≠ core.map Char.toLower) →
        base.resolve name = balanced.resolve base) := by
  intro r
  have hpositive : 0 < r.number .frameSize :=
    p.number_resolve_pos base (by cases p <;> decide)
  have hlargest : r.number .frameSize ≤ 65535 := p.frameSize_resolve_le base
  have hraised : min (base.number .frameSize) 65535 ≤ r.number .frameSize :=
    p.cut_le_number_resolve base .frameSize
  have hset {x : UInt64} {k : Number} (hx : x.toNat = r.number k) (hdefault : 0 < p.defaultOf k) :
      x ≠ 0 := by
    rintro rfl
    exact absurd (p.number_resolve_pos base hdefault) (hx ▸ Nat.lt_irrefl 0)
  refine ⟨⟨hpositive, hlargest, ?_⟩, ⟨?_, ?_, ?_⟩, ?_, ⟨?_, ?_, ?_⟩, p.resolve_resolve base,
    fun base' => p.below_resolve, ⟨p.isOn_resolve base, fun w => isOn_of_isOn_resolve⟩, ?_⟩
  · intro s hs
    have hsize : s.frameSize.toNat = r.number .frameSize := congrArg UInt64.toNat hs
    have hmost : maxFramePayload = 65535 := rfl
    rw [Settings.maxPayload, hsize]
    omega
  · exact hset (k := .recvWindow) rfl (by cases p <;> decide)
  · exact hset (k := .streamWindow) rfl (by cases p <;> decide)
  · exact hset (k := .keepaliveSecs) rfl (by cases p <;> decide)
  · intro k
    rw [number_resolve]
    exact p.floor_le_settle k _
  · intro k hk
    have h := p.cut_le_number_resolve base k
    cases k with
    | frameSize => exact absurd rfl hk
    | _ => exact h
  · intro hfits
    omega
  · intro hlarge
    omega
  · intro name
    have hcore := Text.stripped_iff.2 (Eq.refl (Text.trim name.toList))
    exact ⟨_, hcore, fun core' h => Text.stripped_iff.1 h, resolve_of_stripped hcore base⟩

/-- A size of frames that is too large is cut and remains the larger one, and blanks and capitals in
a name do not matter. -/
theorem resolve_completes_performance :
    let base : Tunables := { frameSize := 40000, streamWindow := 1, compression := .snappy }
    let more : Tunables := { base with frameSize := 70000, streamWindow := 9000000 }
    base.Below more ∧ (∀ k, base.number k = 0 ↔ more.number k = 0) ∧
      (performance.resolve base).Below (performance.resolve more) ∧
      (performance.resolve more).number .frameSize = 65535 ∧
      (performance.resolve more).isOn .compression = false ∧
      base.resolve "\tPerformance " = performance.resolve base := by
  intro base more
  have hbelow : base.Below more := by
    constructor
    · intro k
      cases k <;> decide
    · intro w
      cases w <;> rfl
  have hunset (k : Number) : base.number k = 0 ↔ more.number k = 0 := by
    cases k <;> decide
  obtain ⟨-, -, -, -, -, hmono, -, hnames⟩ := resolve_completes performance base
  obtain ⟨-, -, -, ⟨-, -, hcut⟩, -, -, ⟨hswitches, -⟩, -⟩ := resolve_completes performance more
  obtain ⟨core, -, hunique, hnamed, -⟩ := hnames "\tPerformance "
  have hcore : "Performance".toList = core := hunique _ (Text.stripped_iff.2 (by decide))
  refine ⟨hbelow, hunset, hmono more hbelow hunset, hcut (by decide), hswitches .compression, ?_⟩
  apply hnamed
  rw [← hcore]
  decide

end Profile

end SealedTunnel
