import Mathlib.Data.List.Basic
import SealedTunnel.Proofs.Bytes
import SealedTunnel.Proofs.Stream.Talk
import SealedTunnel.Stream.Tunnel

/-!
# The header that opens a stream

Whoever reads a header is done just behind it, and knows the target that it names; nothing but the
header of a target makes a reader know that target.

## Main results

* `Target.on_receive`: a header names its target, whatever is behind it
* `Target.eq_header`: what was read when the target is known is its header
* `Target.eq_of_leaves_done`: a header that is there makes its target known
-/

namespace SealedTunnel.Target

variable {target : String} {length : Nat} {raw more used : Bytes}

/-- What becomes of the bytes behind the length. -/
def named (raw : Bytes) : Talk TunnelError TunnelError String :=
  match Bytes.toString? raw with
  | none => .fail (.framing .targetNotText)
  | some text =>
    match ofText text with
    | .ok target => .done target
    | .error fault => .fail (.framing fault)

/-- What becomes of a length. -/
def afterLength (length : Nat) : Talk TunnelError TunnelError String :=
  if !lengthOk length then .fail (.framing (.targetLength length))
  else .need length (Tunnel.readStop length) named

theorem receive_eq : receive =
    .need lengthSize (Tunnel.readStop lengthSize) fun bs => afterLength (Bytes.ofBigEndian bs) :=
  rfl

theorem silent_named (raw : Bytes) : (named raw).Silent := by
  unfold named
  split
  · exact .fail _
  · split
    · exact .done _
    · exact .fail _

theorem silent_receive : receive.Silent := by
  rw [receive_eq]
  refine .need fun bs => ?_
  unfold afterLength
  split
  · exact .fail _
  · exact .need silent_named

/-! ## Texts -/

theorem ofText_scheme (h : target ≠ "") : ofText (scheme ++ target) = .ok target := by
  have hrest : scheme.toList.isPrefixOf? (scheme ++ target).toList = some target.toList := by
    rw [List.isPrefixOf?_eq_some_iff_append_eq, String.toList_append]
  unfold ofText
  rw [hrest]
  cases hlist : target.toList with
  | nil => exact absurd (String.toList_eq_nil_iff.1 hlist) h
  | cons c rest =>
    show Except.ok (String.ofList (c :: rest)) = _
    rw [← hlist, String.ofList_toList]

theorem eq_of_ofText {text : String} (h : ofText text = .ok target) :
    text = scheme ++ target ∧ target ≠ "" := by
  unfold ofText at h
  split at h
  · rename_i c rest hrest
    obtain rfl := Except.ok.inj h
    rw [List.isPrefixOf?_eq_some_iff_append_eq] at hrest
    refine ⟨?_, ?_⟩
    · rw [← String.toList_inj, String.toList_append, String.toList_ofList, hrest]
    · intro hnil
      have := congrArg String.toList hnil
      rw [String.toList_ofList] at this
      cases this
  · cases h

/-! ## Headers -/

/-- The bytes of a target with its scheme. -/
theorem header_eq (target : String) : header target =
    Bytes.bigEndian lengthSize (Bytes.ofString (scheme ++ target)).length ++
      Bytes.ofString (scheme ++ target) := rfl

theorem header_ne_nil (target : String) : header target ≠ [] := by
  intro hnil
  have hlength := congrArg List.length hnil
  rw [header_eq, List.length_append, Bytes.length_bigEndian, lengthSize] at hlength
  exact absurd hlength (by rw [List.length_nil]; omega)

/-- **A header names its target**, whatever is behind it. -/
theorem on_receive (h : target ≠ "")
    (hl : lengthOk (Bytes.ofString (scheme ++ target)).length) (more : Bytes) :
    receive.on (header target ++ more) = (.ok target, more) := by
  have hsize := Bytes.length_bigEndian lengthSize (Bytes.ofString (scheme ++ target)).length
  have hfits : (Bytes.ofString (scheme ++ target)).length < 256 ^ lengthSize := by
    unfold lengthOk maxLength at hl
    rw [Bool.and_eq_true, decide_eq_true_iff, decide_eq_true_iff] at hl
    rw [lengthSize]
    omega
  rw [receive_eq, header_eq, List.append_assoc, Talk.on_need_append hsize,
    Bytes.ofBigEndian_bigEndian _ _ hfits, afterLength, hl]
  show (Talk.need _ _ named).on _ = _
  rw [Talk.on_need_append rfl, named, Bytes.toString?_ofString]
  dsimp only
  rw [ofText_scheme h]
  rfl

theorem eq_of_named {rest : Bytes} (h : (named raw).on more = (.ok target, rest)) :
    raw = Bytes.ofString (scheme ++ target) ∧ more = rest ∧ target ≠ "" := by
  unfold named at h
  split at h
  · cases (Prod.mk.inj h).1
  · rename_i text htext
    split at h
    · rename_i hof
      obtain ⟨hok, rfl⟩ := Prod.mk.inj h
      obtain rfl := Except.ok.inj hok
      obtain ⟨rfl, hne⟩ := eq_of_ofText hof
      exact ⟨(Bytes.ofString_of_toString? htext).symm, rfl, hne⟩
    · cases (Prod.mk.inj h).1

/-- **What was read when the target is known is its header.** -/
theorem eq_header (h : receive.on used = (.ok target, more)) :
    used = header target ++ more ∧ target ≠ "" := by
  rw [receive_eq] at h
  obtain ⟨size, rest, rfl, hsize, h⟩ := Talk.on_need_eq_ok h
  unfold afterLength at h
  split at h
  · cases (Prod.mk.inj h).1
  · obtain ⟨raw, rest, rfl, hraw, h⟩ := Talk.on_need_eq_ok h
    obtain ⟨hname, rfl, hne⟩ := eq_of_named h
    refine ⟨?_, hne⟩
    have hlength : Bytes.bigEndian lengthSize raw.length = size := by
      rw [hraw, ← hsize, Bytes.bigEndian_ofBigEndian]
    rw [header_eq, ← hname, hlength, List.append_assoc]

/-! ## Reading a header that is there -/

section There

variable {name : String} {talk : Talk TunnelError TunnelError String}

/-- Whoever reads a header, with whatever is behind it, comes to know its target, and just then. -/
theorem eq_of_leaves_done (h : target ≠ "")
    (hl : lengthOk (Bytes.ofString (scheme ++ target)).length)
    (hused : used <+: header target ++ more) (hleaves : receive.Leaves used (.done name)) :
    name = target ∧ used = header target := by
  obtain ⟨rest, hrest⟩ := hused
  have hon := hleaves rest
  rw [hrest, on_receive h hl more] at hon
  obtain ⟨hname, rfl⟩ := Prod.mk.inj hon
  exact ⟨(Except.ok.inj hname).symm, List.append_cancel_right hrest⟩

theorem not_leaves_fail {e : TunnelError} (h : target ≠ "")
    (hl : lengthOk (Bytes.ofString (scheme ++ target)).length)
    (hused : used <+: header target ++ more) : ¬receive.Leaves used (.fail e) := by
  intro hleaves
  obtain ⟨rest, hrest⟩ := hused
  have hon := hleaves rest
  rw [hrest, on_receive h hl more] at hon
  cases (Prod.mk.inj hon).1

/-- Whoever has read all of a header needs no more. -/
theorem not_header_le_of_hungry (h : target ≠ "")
    (hl : lengthOk (Bytes.ofString (scheme ++ target)).length)
    (hleaves : receive.Leaves used talk) (hhungry : talk.Hungry) : ¬header target <+: used := by
  rintro ⟨rest, rfl⟩
  have hon := hleaves []
  rw [List.append_nil, on_receive h hl rest] at hon
  exact hhungry _ _ hon.symm

end There

end SealedTunnel.Target
