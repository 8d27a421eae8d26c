import SealedTunnel.Address
import SealedTunnel.Proofs.Digits

/-!
# The canonical text of an IPv6 address

RFC 5952 gives each IPv6 address one text: lower-case groups without leading zeros, with the first
longest run of at least two zero groups left out; an address that maps an IPv4 one ends in its four
octets. The text of an address here is that one, and no other address has it.

## Main definitions

* `Address.FirstLongest`: no run of zeros is longer, and none that is as long comes earlier
* `Address.Canonical`: the canonical text of groups

## Main results

* `Address.canonical_iff`: the text of an IPv6 address is the canonical one
* `Address.Canonical.groups_eq`: which spells no other address
* `Address.dotted_inj`: no two IPv4 addresses have one text
-/

namespace SealedTunnel.Address

variable {a b c d : UInt8} {g : UInt16} {gs front back groups : List UInt16} {n : Nat}
  {text : String}

/-! ## Texts of parts -/

/-- Parts between separators are read back if the separator is in none of them. -/
theorem intercalate_inj {sep : Char} {xs ys : List String}
    (hxs : ∀ x ∈ xs, sep ∉ x.toList) (hys : ∀ y ∈ ys, sep ∉ y.toList) (hx : xs ≠ []) (hy : ys ≠ [])
    (h : (String.singleton sep).intercalate xs = (String.singleton sep).intercalate ys) :
    xs = ys := by
  have hsplit {zs : List String} (hzs : ∀ z ∈ zs, sep ∉ z.toList) (hz : zs ≠ []) :
      ((String.singleton sep).intercalate zs).toList.splitOn sep = zs.map String.toList := by
    rw [String.toList_intercalate, String.toList_singleton]
    refine List.splitOn_intercalate sep ?_ (by simpa using hz)
    intro l hl
    obtain ⟨z, hz, rfl⟩ := List.mem_map.1 hl
    exact hzs z hz
  have hlists := (hsplit hxs hx).symm.trans ((congrArg _ (congrArg _ h)).trans (hsplit hys hy))
  exact (List.map_inj_right fun _ _ => String.toList_inj.1).1 hlists

theorem notMem_octet {ch : Char} (hch : ∀ d < 10, Nat.digitChar d ≠ ch) (b : UInt8) :
    ch ∉ (toString b.toNat).toList := by
  rw [Digits.toList_toString]
  exact Digits.notMem_toDigits (by decide) hch

theorem octet_inj {b b' : UInt8} (h : toString b.toNat = toString b'.toNat) : b = b' := by
  have hdigits := congrArg String.toList h
  rw [Digits.toList_toString, Digits.toList_toString] at hdigits
  exact UInt8.toNat_inj.1 (Digits.toDigits_inj (by decide) (by decide) hdigits)

theorem dotted_eq (a b c d : UInt8) : dotted a b c d =
    (String.singleton '.').intercalate
      [toString a.toNat, toString b.toNat, toString c.toNat, toString d.toNat] := by
  simp only [String.intercalate_cons_cons, String.intercalate_singleton, ← String.append_assoc]
  rfl

/-- No two IPv4 addresses have one text. -/
theorem dotted_inj {a' b' c' d' : UInt8} (h : dotted a b c d = dotted a' b' c' d') :
    a = a' ∧ b = b' ∧ c = c' ∧ d = d' := by
  have hdot (a b c d : UInt8) : ∀ s ∈ [toString a.toNat, toString b.toNat, toString c.toNat,
      toString d.toNat], '.' ∉ s.toList := by
    have hoctet (b : UInt8) : '.' ∉ (toString b.toNat).toList := notMem_octet (by decide) b
    simp only [List.forall_mem_cons]
    exact ⟨hoctet a, hoctet b, hoctet c, hoctet d, nofun⟩
  rw [dotted_eq, dotted_eq] at h
  have hparts := intercalate_inj (hdot a b c d) (hdot a' b' c' d') (by simp) (by simp) h
  simp only [List.cons.injEq] at hparts
  obtain ⟨ha, hb, hc, hd, -⟩ := hparts
  exact ⟨octet_inj ha, octet_inj hb, octet_inj hc, octet_inj hd⟩

theorem notMem_hexGroup {ch : Char} (hch : ∀ d < 16, Nat.digitChar d ≠ ch) (g : UInt16) :
    ch ∉ (hexGroup g).toList := by
  rw [hexGroup, String.toList_ofList]
  exact Digits.notMem_toDigits (by decide) hch

theorem hexGroup_inj {g' : UInt16} (h : hexGroup g = hexGroup g') : g = g' := by
  have hdigits := congrArg String.toList h
  rw [hexGroup, hexGroup, String.toList_ofList, String.toList_ofList] at hdigits
  exact UInt16.toNat_inj.1 (Digits.toDigits_inj (by decide) (by decide) hdigits)

theorem hexGroup_ne_empty (g : UInt16) : hexGroup g ≠ "" := by
  intro h
  rw [hexGroup, ← String.toList_inj, String.toList_ofList] at h
  exact Nat.toDigits_ne_nil h

/-! ## Runs of zeros -/

theorem leadingZeros_cons (g : UInt16) (gs : List UInt16) :
    leadingZeros (g :: gs) = if g = 0 then leadingZeros gs + 1 else 0 := by
  by_cases hg : g = 0 <;> simp [leadingZeros, hg]

theorem eq_zeros_append (gs : List UInt16) :
    gs = List.replicate (leadingZeros gs) 0 ++ gs.drop (leadingZeros gs) := by
  induction gs with
  | nil => rfl
  | cons g gs ih =>
    rw [leadingZeros_cons]
    split
    · rename_i hg
      rw [hg, List.replicate_succ, List.drop_succ_cons, List.cons_append, ← ih]
    · rfl

theorem le_leadingZeros (n : Nat) (back : List UInt16) :
    n ≤ leadingZeros (List.replicate n 0 ++ back) := by
  induction n with
  | zero => exact Nat.zero_le _
  | succ n ih =>
    rw [List.replicate_succ, List.cons_append, leadingZeros_cons, if_pos rfl]
    exact Nat.succ_le_succ ih

/-- Between two parts stands the first longest run of zeros: no run is longer, and none that is as
long comes earlier. -/
structure FirstLongest (front : List UInt16) (n : Nat) (back : List UInt16) : Prop where
  longest : ∀ {front' : List UInt16} {m : Nat} {back' : List UInt16},
    front ++ List.replicate n 0 ++ back = front' ++ List.replicate m 0 ++ back' → m ≤ n
  first : ∀ {front' back' : List UInt16},
    front ++ List.replicate n 0 ++ back = front' ++ List.replicate n 0 ++ back' →
      front.length ≤ front'.length

/-- There is only one such run. -/
theorem FirstLongest.unique {front' back' : List UInt16} {m : Nat} (h : FirstLongest front n back)
    (h' : FirstLongest front' m back')
    (heq : front ++ List.replicate n 0 ++ back = front' ++ List.replicate m 0 ++ back') :
    front = front' ∧ n = m ∧ back = back' := by
  obtain rfl : n = m := Nat.le_antisymm (h'.longest heq.symm) (h.longest heq)
  have hlength := Nat.le_antisymm (h.first heq) (h'.first heq.symm)
  rw [List.append_assoc, List.append_assoc] at heq
  obtain ⟨hfront, hrest⟩ := List.append_inj heq hlength
  exact ⟨hfront, rfl, List.append_cancel_left hrest⟩

/-- **The run that is looked for is the first longest one.** -/
theorem exists_longestZeros (gs : List UInt16) : ∃ front back,
    gs = front ++ List.replicate (longestZeros gs).2 0 ++ back ∧
      front.length = (longestZeros gs).1 ∧ FirstLongest front (longestZeros gs).2 back := by
  induction gs with
  | nil =>
    refine ⟨[], [], rfl, rfl, ?_, fun _ => Nat.zero_le _⟩
    intro front m back h
    have hlength := congrArg List.length h
    simp only [longestZeros, List.length_append, List.length_replicate, List.length_nil] at hlength
    show m ≤ 0
    omega
  | cons g gs ih =>
    obtain ⟨front, back, hgs, hlength, hrun⟩ := ih
    have hcases {front' : List UInt16} {m : Nat} {back' : List UInt16}
        (h : g :: gs = front' ++ List.replicate m 0 ++ back') :
        front' = [] ∧ m ≤ leadingZeros (g :: gs) ∨ ∃ rest, front' = g :: rest ∧
          gs = rest ++ List.replicate m 0 ++ back' := by
      cases front' with
      | nil => exact .inl ⟨rfl, h ▸ le_leadingZeros m back'⟩
      | cons x rest =>
        obtain ⟨rfl, hrest⟩ := List.cons.inj h
        exact .inr ⟨rest, rfl, hrest⟩
    rw [longestZeros]
    dsimp only
    split
    · rename_i hhere
      refine ⟨[], _, eq_zeros_append (g :: gs), rfl, ?_, fun _ => Nat.zero_le _⟩
      intro front' m back' h
      rcases hcases ((eq_zeros_append (g :: gs)).trans h) with ⟨-, hm⟩ | ⟨rest, rfl, hrest⟩
      · exact hm
      · exact Nat.le_trans (hrun.longest (hgs.symm.trans hrest)) hhere
    · rename_i hhere
      have heq : g :: gs = g :: front ++ List.replicate (longestZeros gs).2 0 ++ back :=
        congrArg (g :: ·) hgs
      refine ⟨g :: front, back, heq, congrArg (· + 1) hlength, ?_, ?_⟩
      · intro front' m back' h
        rcases hcases (heq.trans h) with ⟨-, hm⟩ | ⟨rest, rfl, hrest⟩
        · omega
        · exact hrun.longest (hgs.symm.trans hrest)
      · intro front' back' h
        rcases hcases (heq.trans h) with ⟨-, hm⟩ | ⟨rest, rfl, hrest⟩
        · omega
        · exact Nat.succ_le_succ (hrun.first (hgs.symm.trans hrest))

/-! ## The canonical text -/

/-- Two octets as one group. -/
def pair (a b : UInt8) : UInt16 :=
  UInt16.ofNat (Bytes.ofBigEndian [a, b])

theorem toNat_pair (a b : UInt8) : (pair a b).toNat = a.toNat * 256 + b.toNat := by
  have ha := a.toNat_lt
  have hb := b.toNat_lt
  have hvalue : Bytes.ofBigEndian [a, b] = a.toNat * 256 + b.toNat := by simp [Bytes.ofBigEndian]
  rw [pair, hvalue]
  exact UInt16.toNat_ofNat_of_lt' (show _ < 65536 by omega)

theorem toNat_high (g : UInt16) : (g >>> 8).toUInt8.toNat = g.toNat / 256 := by
  have hg := g.toNat_lt
  rw [UInt16.toNat_toUInt8, UInt16.toNat_shiftRight, Nat.shiftRight_eq_div_pow]
  show g.toNat / 2 ^ 8 % 2 ^ 8 = _
  omega

theorem high_pair (a b : UInt8) : (pair a b >>> 8).toUInt8 = a := by
  have hb := b.toNat_lt
  rw [← UInt8.toNat_inj, toNat_high, toNat_pair]
  omega

theorem low_pair (a b : UInt8) : (pair a b).toUInt8 = b := by
  have hb := b.toNat_lt
  rw [← UInt8.toNat_inj, UInt16.toNat_toUInt8, toNat_pair]
  omega

theorem pair_high_low (g : UInt16) : pair (g >>> 8).toUInt8 g.toUInt8 = g := by
  rw [← UInt16.toNat_inj, toNat_pair, toNat_high, UInt16.toNat_toUInt8]
  omega

/-- The groups of the address that maps an IPv4 one. -/
def mapping (a b c d : UInt8) : List UInt16 :=
  [0, 0, 0, 0, 0, 0xffff, pair a b, pair c d]

/-- The canonical text of groups. -/
inductive Canonical (groups : List UInt16) : String → Prop
  /-- The octets of an IPv4 address that is mapped are written as its own text. -/
  | mapped {a b c d : UInt8} (hgroups : groups = mapping a b c d) :
      Canonical groups ("::ffff:" ++ dotted a b c d)
  /-- The first longest run of at least two zeros is left out. -/
  | gapped {front back : List UInt16} {n : Nat} (hplain : ∀ a b c d, groups ≠ mapping a b c d)
      (hgroups : groups = front ++ List.replicate n 0 ++ back) (hlong : 2 ≤ n)
      (hrun : FirstLongest front n back) :
      Canonical groups (hexGroups front ++ "::" ++ hexGroups back)
  /-- If there is no such run, all groups are written. -/
  | whole (hplain : ∀ a b c d, groups ≠ mapping a b c d)
      (hshort : ∀ front n back, groups = front ++ List.replicate n 0 ++ back → n < 2) :
      Canonical groups (hexGroups groups)

theorem ipv6Text_mapping (a b c d : UInt8) :
    ipv6Text (mapping a b c d) = "::ffff:" ++ dotted a b c d := by
  have htext : ipv6Text (mapping a b c d) = "::ffff:" ++ dotted (pair a b >>> 8).toUInt8
      (pair a b).toUInt8 (pair c d >>> 8).toUInt8 (pair c d).toUInt8 := rfl
  rw [htext, high_pair, low_pair, high_pair, low_pair]

theorem canonical_ipv6Text (groups : List UInt16) : Canonical groups (ipv6Text groups) := by
  unfold ipv6Text
  split
  · rename_i high low
    refine .mapped ?_
    rw [mapping, pair_high_low, pair_high_low]
  · rename_i hnone
    have hplain (a b c d : UInt8) : groups ≠ mapping a b c d := hnone _ _
    obtain ⟨front, back, hgroups, hlength, hrun⟩ := exists_longestZeros groups
    generalize longestZeros groups = run at hgroups hlength hrun
    obtain ⟨start, n⟩ := run
    dsimp only at hgroups hlength hrun ⊢
    split
    · rename_i hlong
      have hfront : groups.take start = front := by
        rw [hgroups, List.append_assoc, ← hlength, List.take_left]
      have hback : groups.drop (start + n) = back := by
        have hwidth : (front ++ List.replicate n 0).length = start + n := by
          rw [List.length_append, List.length_replicate, hlength]
        rw [hgroups, ← hwidth, List.drop_left]
      rw [hfront, hback]
      exact .gapped hplain hgroups hlong hrun
    · rename_i hshort
      refine .whole hplain fun front' m back' h => ?_
      have hm := hrun.longest (hgroups.symm.trans h)
      omega

/-- **The text is the canonical one**, and there is no other. -/
theorem canonical_iff : Canonical groups text ↔ text = ipv6Text groups := by
  constructor
  · intro h
    have htext := canonical_ipv6Text groups
    cases h with
    | mapped hgroups =>
      rw [hgroups, ipv6Text_mapping]
    | gapped hplain hgroups hlong hrun =>
      generalize ipv6Text groups = text' at htext
      cases htext with
      | mapped hmapped => exact absurd hmapped (hplain _ _ _ _)
      | gapped _ hgroups' _ hrun' =>
        -- Both leave out the first longest run, of which there is one.
        obtain ⟨rfl, rfl, rfl⟩ := hrun.unique hrun' (hgroups.symm.trans hgroups')
        rfl
      | whole _ hshort => exact absurd (hshort _ _ _ hgroups) (Nat.not_lt.2 hlong)
    | whole hplain hshort =>
      generalize ipv6Text groups = text' at htext
      cases htext with
      | mapped hmapped => exact absurd hmapped (hplain _ _ _ _)
      | gapped _ hgroups' hlong' _ => exact absurd (hshort _ _ _ hgroups') (Nat.not_lt.2 hlong')
      | whole => rfl
  · rintro rfl
    exact canonical_ipv6Text groups

/-! ## One text for each address -/

/-- What stands between colons on one side of a gap: the groups, or nothing once. -/
def side : List UInt16 → List String
  | [] => [""]
  | g :: gs => hexGroup g :: gs.map hexGroup

theorem side_ne_nil (gs : List UInt16) : side gs ≠ [] := by
  cases gs <;> exact List.cons_ne_nil _ _

theorem hexGroups_eq (gs : List UInt16) :
    hexGroups gs = (String.singleton ':').intercalate (side gs) := by
  cases gs with
  | nil => rfl
  | cons g gs => rfl

theorem gapped_eq (front back : List UInt16) :
    hexGroups front ++ "::" ++ hexGroups back =
      (String.singleton ':').intercalate (side front ++ "" :: side back) := by
  have hgap : "::" = String.singleton ':' ++ String.singleton ':' := rfl
  rw [String.intercalate_append_of_ne_nil (side_ne_nil front) (List.cons_ne_nil _ _),
    String.intercalate_cons_of_ne_nil (side_ne_nil back), ← hexGroups_eq, ← hexGroups_eq,
    String.empty_append, hgap, ← String.append_assoc, ← String.append_assoc]

theorem notMem_side {ch : Char} (hch : ∀ d < 16, Nat.digitChar d ≠ ch) (gs : List UInt16) :
    ∀ s ∈ side gs, ch ∉ s.toList := by
  cases gs with
  | nil => simp [side]
  | cons g gs =>
    intro s hs
    obtain ⟨g', -, rfl⟩ := List.mem_map.1 (show s ∈ (g :: gs).map hexGroup from hs)
    exact notMem_hexGroup hch g'

theorem empty_mem_side : "" ∈ side gs ↔ gs = [] := by
  cases gs with
  | nil => simp [side]
  | cons g gs =>
    refine ⟨fun h => ?_, nofun⟩
    obtain ⟨g', -, hg'⟩ := List.mem_map.1 (show "" ∈ (g :: gs).map hexGroup from h)
    exact absurd hg' (hexGroup_ne_empty g')

theorem side_inj {gs' : List UInt16} (h : side gs = side gs') : gs = gs' := by
  cases gs with
  | nil => exact (empty_mem_side.1 (h ▸ empty_mem_side.2 rfl)).symm
  | cons g gs =>
    cases gs' with
    | nil => exact empty_mem_side.1 (h.symm ▸ empty_mem_side.2 rfl)
    | cons g' gs' =>
      have hmap : (g :: gs).map hexGroup = (g' :: gs').map hexGroup := h
      exact (List.map_inj_right fun _ _ => hexGroup_inj).1 hmap

/-- What stands in front of the first of some elements, and behind it. -/
theorem first_inj {α : Type} {x : α} {l l' r r' : List α} (hl : x ∉ l) (hl' : x ∉ l')
    (h : l ++ x :: r = l' ++ x :: r') : l = l' ∧ r = r' := by
  have hnil {m s s' : List α} (hm : x ∉ m) (h : x :: s = m ++ x :: s') : m = [] := by
    cases m with
    | nil => rfl
    | cons y m => exact absurd ((List.cons.inj h).1 ▸ List.mem_cons_self) hm
  rcases List.append_eq_append_iff.1 h with ⟨m, rfl, hm⟩ | ⟨m, rfl, hm⟩
  · obtain rfl := hnil (fun hx => hl' (List.mem_append_right _ hx)) hm
    exact ⟨(List.append_nil _).symm, (List.cons.inj hm).2⟩
  · obtain rfl := hnil (fun hx => hl (List.mem_append_right _ hx)) hm
    exact ⟨List.append_nil _, (List.cons.inj hm).2.symm⟩

/-- What stands on both sides of a gap is read back. -/
theorem gap_inj {front' back' : List UInt16}
    (h : side front ++ "" :: side back = side front' ++ "" :: side back') :
    front = front' ∧ back = back' := by
  cases front with
  | nil =>
    cases front' with
    | nil => exact ⟨rfl, side_inj (List.cons.inj (List.cons.inj h).2).2⟩
    | cons g gs => exact absurd (List.cons.inj h).1.symm (hexGroup_ne_empty g)
  | cons g gs =>
    cases front' with
    | nil => exact absurd (List.cons.inj h).1 (hexGroup_ne_empty g)
    | cons g' gs' =>
      have hsome (g : UInt16) (gs : List UInt16) : "" ∉ side (g :: gs) :=
        fun hmem => List.cons_ne_nil g gs (empty_mem_side.1 hmem)
      obtain ⟨hfront, hback⟩ := first_inj (hsome g gs) (hsome g' gs') h
      exact ⟨side_inj hfront, side_inj hback⟩

/-- What stands between the colons of a canonical text. -/
inductive Fields (groups : List UInt16) : List String → Prop
  | mapped {a b c d : UInt8} (hgroups : groups = mapping a b c d) :
      Fields groups ["", "", "ffff", dotted a b c d]
  | gapped {front back : List UInt16} {n : Nat}
      (hgroups : groups = front ++ List.replicate n 0 ++ back) :
      Fields groups (side front ++ "" :: side back)
  | whole (hne : groups ≠ []) : Fields groups (side groups)

theorem Canonical.exists_fields (h : Canonical groups text) (hne : groups ≠ []) :
    ∃ fields, Fields groups fields ∧ text = (String.singleton ':').intercalate fields := by
  cases h with
  | mapped hgroups => exact ⟨_, .mapped hgroups, rfl⟩
  | gapped _ hgroups => exact ⟨_, .gapped hgroups, gapped_eq ..⟩
  | whole => exact ⟨_, .whole hne, hexGroups_eq _⟩

theorem notMem_gapped {ch : Char} (hch : ∀ d < 16, Nat.digitChar d ≠ ch)
    (front back : List UInt16) : ∀ s ∈ side front ++ "" :: side back, ch ∉ s.toList := by
  intro s hs
  rcases List.mem_append.1 hs with hs | hs
  · exact notMem_side hch front s hs
  · rcases List.mem_cons.1 hs with rfl | hs
    · simp
    · exact notMem_side hch back s hs

theorem notMem_dotted {ch : Char} (hch : ∀ d < 10, Nat.digitChar d ≠ ch) (hdot : ch ≠ '.')
    (a b c d : UInt8) : ch ∉ (dotted a b c d).toList := by
  have hoctet := notMem_octet hch
  show ch ∉ (toString a.toNat ++ "." ++ toString b.toNat ++ "." ++ toString c.toNat ++ "." ++
    toString d.toNat).toList
  simp only [String.toList_append, List.mem_append, not_or]
  have hsep : ch ∉ ".".toList := by simpa using hdot
  exact ⟨⟨⟨⟨⟨⟨hoctet a, hsep⟩, hoctet b⟩, hsep⟩, hoctet c⟩, hsep⟩, hoctet d⟩

theorem dot_mem_dotted (a b c d : UInt8) : '.' ∈ (dotted a b c d).toList := by
  show '.' ∈ (toString a.toNat ++ "." ++ toString b.toNat ++ "." ++ toString c.toNat ++ "." ++
    toString d.toNat).toList
  simp

theorem Fields.notMem_colon {fields : List String} (h : Fields groups fields) :
    ∀ s ∈ fields, ':' ∉ s.toList := by
  cases h with
  | @mapped a b c d _ =>
    simp only [List.forall_mem_cons]
    exact ⟨by decide, by decide, by decide, notMem_dotted (by decide) (by decide) a b c d, nofun⟩
  | gapped => exact notMem_gapped (by decide) _ _
  | whole => exact notMem_side (by decide) _

theorem Fields.ne_nil {fields : List String} (h : Fields groups fields) : fields ≠ [] := by
  cases h with
  | mapped => exact List.cons_ne_nil _ _
  | gapped => exact List.append_ne_nil_of_right_ne_nil _ (List.cons_ne_nil _ _)
  | whole => exact side_ne_nil _

/-- Dots are only in the octets of an address that is mapped, and an empty part only at a gap. -/
theorem Fields.groups_eq {groups' : List UInt16} {fields : List String} (h : Fields groups fields)
    (h' : Fields groups' fields) (hlength : groups.length = groups'.length) :
    groups = groups' := by
  have hdot (a b c d : UInt8) {others : List String}
      (hothers : ∀ s ∈ others, '.' ∉ s.toList) : ["", "", "ffff", dotted a b c d] ≠ others := by
    rintro rfl
    exact hothers (dotted a b c d) (by simp) (dot_mem_dotted a b c d)
  have hempty {front back gs : List UInt16} (hgs : gs ≠ []) :
      side front ++ "" :: side back ≠ side gs := by
    intro h
    exact hgs (empty_mem_side.1 (h ▸ List.mem_append_right _ List.mem_cons_self))
  generalize hfields : fields = fields' at h'
  cases h with
  | mapped hgroups =>
    cases h' with
    | mapped hgroups' =>
      simp only [List.cons.injEq, true_and, and_true] at hfields
      obtain ⟨rfl, rfl, rfl, rfl⟩ := dotted_inj hfields
      rw [hgroups, hgroups']
    | gapped => exact absurd hfields (hdot _ _ _ _ (notMem_gapped (by decide) _ _))
    | whole => exact absurd hfields (hdot _ _ _ _ (notMem_side (by decide) _))
  | @gapped front back n hgroups =>
    cases h' with
    | mapped => exact absurd hfields.symm (hdot _ _ _ _ (notMem_gapped (by decide) _ _))
    | @gapped _ _ m hgroups' =>
      obtain ⟨rfl, rfl⟩ := gap_inj hfields
      rw [hgroups, hgroups'] at hlength ⊢
      simp only [List.length_append, List.length_replicate] at hlength
      obtain rfl : n = m := by omega
      rfl
    | whole hne => exact absurd hfields (hempty hne)
  | whole hne =>
    cases h' with
    | mapped => exact absurd hfields.symm (hdot _ _ _ _ (notMem_side (by decide) _))
    | gapped => exact absurd hfields.symm (hempty hne)
    | whole => exact side_inj hfields

/-- **No other address has the same canonical text.** -/
theorem Canonical.groups_eq {groups' : List UInt16} (h : Canonical groups text)
    (h' : Canonical groups' text) (hlength : groups.length = groups'.length) (hne : groups ≠ []) :
    groups = groups' := by
  have hne' : groups' ≠ [] := by
    rw [← List.length_pos_iff] at hne ⊢
    omega
  obtain ⟨fields, hfields, htext⟩ := h.exists_fields hne
  obtain ⟨fields', hfields', htext'⟩ := h'.exists_fields hne'
  obtain rfl := intercalate_inj hfields.notMem_colon hfields'.notMem_colon hfields.ne_nil
    hfields'.ne_nil (htext.symm.trans htext')
  exact hfields.groups_eq hfields' hlength

end SealedTunnel.Address
