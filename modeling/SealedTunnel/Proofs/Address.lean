import Mathlib.Data.Nat.Digits.Defs
import SealedTunnel.Address
import SealedTunnel.Proofs.Bytes
import SealedTunnel.Stream.Tunnel

/-!
# The text of an address as a target

An address that a client can ask for has a domain name of at most 255 bytes, or none. Its text is
short enough for the header that opens a stream, and never empty, so naming it as a target never
fails by itself.

## Main definitions

* `Address.Askable`: the addresses that a client can ask for

## Main results

* `Address.lengthOk_text`: the text of such an address fits into a header
* `Address.send_text`: naming it is writing the header, and nothing else
-/

namespace SealedTunnel

namespace Address

variable {address : Address}

/-- A client can ask for this address: the length of a domain name is written in one byte. -/
def Askable : Address → Prop
  | .domain name _ => (Bytes.ofString name).length < 256
  | .ipv4 .. | .ipv6 .. => True

/-! ## Lengths -/

theorem utf8ByteSize_le (s : String) : s.utf8ByteSize ≤ 4 * s.length := by
  rw [← String.ofList_toList (s := s)]
  generalize s.toList = cs
  rw [String.length_ofList]
  induction cs with
  | nil => exact Nat.zero_le _
  | cons c cs ih =>
    have hc := c.utf8Size_le_four
    have hcons : String.ofList (c :: cs) = String.singleton c ++ String.ofList cs :=
      String.ofList_cons
    rw [hcons, String.utf8ByteSize_append, String.utf8ByteSize_singleton, List.length_cons]
    omega

theorem length_toString_le {n e : Nat} (he : 0 < e) (h : n < 10 ^ e) : (toString n).length ≤ e :=
  Nat.repr_length n e he h

theorem length_octet_le (b : UInt8) : (toString b.toNat).length ≤ 3 :=
  length_toString_le (by decide) (Nat.lt_trans b.toNat_lt (by decide))

theorem length_port_le (port : UInt16) : (toString port.toNat).length ≤ 5 :=
  length_toString_le (by decide) (Nat.lt_trans port.toNat_lt (by decide))

theorem length_dotted_le (a b c d : UInt8) : (dotted a b c d).length ≤ 15 := by
  have ha := length_octet_le a
  have hb := length_octet_le b
  have hc := length_octet_le c
  have hd := length_octet_le d
  have hdot : ".".length = 1 := rfl
  show (toString a.toNat ++ "." ++ toString b.toNat ++ "." ++ toString c.toNat ++ "." ++
    toString d.toNat).length ≤ 15
  simp only [String.length_append, hdot]
  omega

theorem length_hexGroup_le (g : UInt16) : (hexGroup g).length ≤ 4 := by
  rw [hexGroup, String.length_ofList]
  exact Nat.toDigits_length 16 g.toNat 4 (by decide) g.toNat_lt

theorem length_hexGroups_le (gs : List UInt16) : (hexGroups gs).length ≤ 5 * gs.length := by
  unfold hexGroups
  induction gs with
  | nil => exact Nat.le_refl 0
  | cons g gs ih =>
    have hg := length_hexGroup_le g
    cases gs with
    | nil =>
      rw [List.map_singleton, String.intercalate_singleton, List.length_singleton]
      omega
    | cons g' gs =>
      have hcolon : ":".length = 1 := rfl
      rw [List.map_cons, List.map_cons, String.intercalate_cons_cons, ← List.map_cons,
        String.length_append, String.length_append, List.length_cons]
      omega

theorem length_ipv6Text_le (groups : Vector UInt16 8) :
    (ipv6Text groups.toList).length ≤ 82 := by
  have h : groups.toList.length = 8 := Vector.length_toList
  generalize groups.toList = groups at h
  unfold ipv6Text
  split
  · rename_i high low
    have hd := length_dotted_le (high >>> 8).toUInt8 high.toUInt8 (low >>> 8).toUInt8 low.toUInt8
    have hfront : "::ffff:".length = 7 := rfl
    rw [String.length_append, hfront]
    omega
  · dsimp only
    split
    · have hfront := length_hexGroups_le (groups.take (longestZeros groups).1)
      have hback := length_hexGroups_le
        (groups.drop ((longestZeros groups).1 + (longestZeros groups).2))
      have hgap : "::".length = 2 := rfl
      rw [List.length_take] at hfront
      rw [List.length_drop] at hback
      rw [String.length_append, String.length_append, hgap]
      omega
    · have hall := length_hexGroups_le groups
      omega

/-- The text of an address that a client can ask for has fewer bytes than a header may name. -/
theorem utf8ByteSize_text_le (h : address.Askable) : address.text.utf8ByteSize ≤ 400 := by
  have hport (port : UInt16) := length_port_le port
  cases address with
  | ipv4 a b c d port =>
    have hd := length_dotted_le a b c d
    have hp := hport port
    have hcolon : ":".length = 1 := rfl
    refine Nat.le_trans (utf8ByteSize_le _) ?_
    rw [text, String.length_append, String.length_append, hcolon]
    omega
  | ipv6 groups port =>
    have hd := length_ipv6Text_le groups
    have hp := hport port
    have hopen : "[".length = 1 := rfl
    have hshut : "]:".length = 2 := rfl
    refine Nat.le_trans (utf8ByteSize_le _) ?_
    rw [text, String.length_append, String.length_append, String.length_append, hopen, hshut]
    omega
  | domain name port =>
    have hname : name.utf8ByteSize < 256 := Bytes.length_ofString name ▸ h
    have hp := utf8ByteSize_le (toString port.toNat)
    have hport := hport port
    have hcolon : ":".utf8ByteSize = 1 := rfl
    rw [text, String.utf8ByteSize_append, String.utf8ByteSize_append, hcolon]
    omega

theorem text_ne_empty (address : Address) : address.text ≠ "" := by
  intro hnil
  have hlength := congrArg String.length hnil
  have hcolon : ":".length = 1 := rfl
  have hopen : "[".length = 1 := rfl
  have hzero : "".length = 0 := rfl
  cases address with
  | ipv4 | domain =>
    rw [text, String.length_append, String.length_append, hcolon, hzero] at hlength
    omega
  | ipv6 =>
    rw [text, String.length_append, String.length_append, String.length_append, hopen, hzero]
      at hlength
    omega

/-- **The text of such an address fits into a header.** -/
theorem lengthOk_text (h : address.Askable) :
    Target.lengthOk (Bytes.ofString (Target.scheme ++ address.text)).length := by
  have htext := utf8ByteSize_text_le h
  have hscheme : Target.scheme.utf8ByteSize = 6 := rfl
  rw [Target.lengthOk, Bytes.length_ofString, String.utf8ByteSize_append, hscheme, Bool.and_eq_true,
    decide_eq_true_iff, decide_eq_true_iff, Target.maxLength]
  omega

/-- **Naming it is writing the header**, and nothing else. -/
theorem send_text (h : address.Askable) :
    Target.send address.text = Tunnel.writeAll (Target.header address.text) := by
  have hne : address.text.isEmpty = false := by
    rw [← Bool.not_eq_true, String.isEmpty_iff]
    exact text_ne_empty address
  unfold Target.send
  dsimp only
  rw [hne, lengthOk_text h]
  rfl

end Address

end SealedTunnel
