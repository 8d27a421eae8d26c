import SealedTunnel.Network.Endpoint
import SealedTunnel.Proofs.Address.Canonical

/-!
# What the text of an address says

The text of an address ends in a colon and the port, and the digits of a port hold no colon. So
whoever splits the text at its last colon, as a resolver does, reads that port, whatever a domain
name holds. The text of an IP address says the address, too: octets in decimal, or groups in their
canonical form between brackets.

## Main definitions

* `Address.host`, `Address.port`: what stands before and after the last colon
* `Address.IsIp`: the addresses that have no name

## Main results

* `Address.splitLast_text`: the text is split between them
* `Address.ofText_text`: a resolver reads the port
* `Address.host_inj`: the host of an IP address says the address
* `Address.text_identifies`: all of this
-/

namespace SealedTunnel

namespace Endpoint

/-- The last occurrence is the one behind which there is no other. -/
theorem splitLast_append {c : Char} {front tail : List Char} (hc : c ∉ tail) :
    splitLast c (front ++ c :: tail) = some (front, tail) := by
  have hreverse : (front ++ c :: tail).reverse = tail.reverse ++ c :: front.reverse := by simp
  have htail : (tail.reverse ++ c :: front.reverse).takeWhile (· ≠ c) = tail.reverse := by
    rw [List.takeWhile_append_of_pos, List.takeWhile_cons_of_neg (by simp), List.append_nil]
    intro x hx
    refine decide_eq_true fun heq => hc ?_
    exact heq ▸ List.mem_reverse.1 hx
  unfold splitLast
  dsimp only
  rw [hreverse, htail, List.drop_left]
  simp

/-- The decimal digits of a port are that port. -/
theorem port?_toDigits (port : UInt16) : port? (Nat.toDigits 10 port.toNat) = some port := by
  have hdigit {c : Char} (h : c ∈ Nat.toDigits 10 port.toNat) : c.isDigit :=
    Nat.isDigit_of_mem_toDigits (by decide) (by decide) h
  have hsign : ∀ rest, Nat.toDigits 10 port.toNat ≠ '+' :: rest := by
    intro rest h
    have := hdigit (h ▸ List.mem_cons_self)
    exact absurd this (by decide)
  have hall : (Nat.toDigits 10 port.toNat).all Char.isDigit = true :=
    List.all_eq_true.2 fun _ => hdigit
  have hempty : (Nat.toDigits 10 port.toNat).isEmpty = false :=
    List.isEmpty_eq_false_iff.2 Nat.toDigits_ne_nil
  unfold port?
  dsimp only
  split
  · rename_i rest h
    exact absurd h (hsign rest)
  · rw [hempty, hall, if_neg (by decide), Nat.ofDigitChars_toDigits (by decide) (by decide),
      if_pos port.toNat_lt]
    exact congrArg some UInt16.ofNat_toNat

end Endpoint

namespace Address

variable {address : Address}

/-- What stands before the last colon of the text. -/
def host : Address → String
  | .ipv4 a b c d _ => dotted a b c d
  | .ipv6 groups _ => "[" ++ ipv6Text groups.toList ++ "]"
  | .domain name _ => name

def port : Address → UInt16
  | .ipv4 _ _ _ _ port | .ipv6 _ port | .domain _ port => port

/-- The address is one of IP, not a name. -/
def IsIp : Address → Prop
  | .ipv4 .. | .ipv6 .. => True
  | .domain .. => False

/-! ## The port -/

theorem toList_text (address : Address) : address.text.toList =
    address.host.toList ++ ':' :: Nat.toDigits 10 address.port.toNat := by
  have hcolon : ":".toList = [':'] := rfl
  have hshut : "]:".toList = "]".toList ++ [':'] := rfl
  cases address with
  | ipv4 | domain =>
    rw [text, String.toList_append, String.toList_append, Digits.toList_toString, hcolon,
      List.append_assoc]
    rfl
  | ipv6 groups port =>
    show ("[" ++ ipv6Text groups.toList ++ "]:" ++ toString port.toNat).toList =
      ("[" ++ ipv6Text groups.toList ++ "]").toList ++ ':' :: Nat.toDigits 10 port.toNat
    simp only [String.toList_append, Digits.toList_toString, hshut, List.append_assoc,
      List.singleton_append]

/-- **The text is split at its last colon into host and port**, whatever is in a name. -/
theorem splitLast_text (address : Address) : Endpoint.splitLast ':' address.text.toList =
    some (address.host.toList, Nat.toDigits 10 address.port.toNat) := by
  rw [toList_text]
  exact Endpoint.splitLast_append (Digits.notMem_toDigits (by decide) (by decide))

/-- **A resolver reads the port of the address** and no other. -/
theorem ofText_text (address : Address) :
    ∃ host, Endpoint.ofText address.text = .ok ⟨host, address.port⟩ := by
  unfold Endpoint.ofText
  rw [splitLast_text]
  dsimp only
  rw [Endpoint.port?_toDigits]
  exact ⟨_, rfl⟩

/-! ## The address -/

/-- The host of an IP address says the address. -/
theorem host_inj {x y : Address} (hx : x.IsIp) (hy : y.IsIp) (hhost : x.host = y.host)
    (hport : x.port = y.port) : x = y := by
  have hkinds (a b c d : UInt8) (text : String) : dotted a b c d ≠ "[" ++ text ++ "]" := by
    have hnone : '[' ∉ (dotted a b c d).toList := notMem_dotted (by decide) (by decide) a b c d
    intro h
    rw [h] at hnone
    simp at hnone
  cases x with
  | domain => exact hx.elim
  | ipv4 a b c d port =>
    cases y with
    | domain => exact hy.elim
    | ipv6 groups port' => exact absurd hhost (hkinds a b c d _)
    | ipv4 a' b' c' d' port' =>
      obtain ⟨rfl, rfl, rfl, rfl⟩ := dotted_inj hhost
      obtain rfl : port = port' := hport
      rfl
  | ipv6 groups port =>
    cases y with
    | domain => exact hy.elim
    | ipv4 a b c d port' => exact absurd hhost.symm (hkinds a b c d _)
    | ipv6 groups' port' =>
      obtain rfl : port = port' := hport
      have htext : ipv6Text groups.toList = ipv6Text groups'.toList :=
        (String.append_right_inj _).1 ((String.append_left_inj _).1 hhost)
      have hlength (groups : Vector UInt16 8) : groups.toList.length = 8 := Vector.length_toList
      have hgroups := (canonical_ipv6Text groups.toList).groups_eq
        (htext ▸ canonical_ipv6Text groups'.toList) ((hlength _).trans (hlength _).symm)
        (List.ne_nil_of_length_eq_add_one (hlength groups))
      rw [Vector.toList_inj.1 hgroups]

/-- **The text of an address says where it leads.**

Split at its last colon, the text of any address is its host and its port in decimal, and so it is
read by a resolver: a domain name may hold colons, brackets and digits as it likes. The texts of two
IP addresses are different, be it in kind, in an octet or in the port that the addresses differ.
That of an IPv6 address is the canonical one in brackets, with groups in lower case without leading
zeros. -/
theorem text_identifies :
    (∀ address : Address, ∃ digits,
      address.text.toList = address.host.toList ++ ':' :: digits ∧ ':' ∉ digits ∧
      Endpoint.splitLast ':' address.text.toList = some (address.host.toList, digits) ∧
      (∀ c ∈ digits, c.isDigit) ∧ Ip.number? 10 digits = some address.port.toNat ∧
      (digits.head? = some '0' → digits = ['0']) ∧
      ∃ host, Endpoint.ofText address.text = .ok ⟨host, address.port⟩) ∧
    (∀ a b : Address, a.IsIp → b.IsIp → a.text = b.text → a = b) ∧
    (∀ (groups : Vector UInt16 8) (port : UInt16), ∃ text,
      (ipv6 groups port).text = "[" ++ text ++ "]:" ++ toString port.toNat ∧
      ∀ text', Canonical groups.toList text' ↔ text' = text) ∧
    ∀ g : UInt16, (∀ c ∈ (hexGroup g).toList, c.isDigit ∨ 'a' ≤ c ∧ c ≤ 'f') ∧
      Ip.number? 16 (hexGroup g).toList = some g.toNat ∧
      ((hexGroup g).toList.head? = some '0' → hexGroup g = "0") := by
  refine ⟨?_, ?_, ?_, ?_⟩
  · intro address
    refine ⟨_, toList_text address, Digits.notMem_toDigits (by decide) (by decide),
      splitLast_text address, ?_, Digits.number?_toDigits (by decide) (by decide) _, ?_,
      ofText_text address⟩
    · intro c hc
      exact Nat.isDigit_of_mem_toDigits (by decide) (by decide) hc
    · intro hhead
      rw [Digits.eq_zero_of_head (by decide) (by decide) hhead]
      rfl
  · intro a b ha hb htext
    have hsplit := splitLast_text a
    rw [htext, splitLast_text b] at hsplit
    obtain ⟨hhost, hdigits⟩ := Prod.mk.inj (Option.some.inj hsplit)
    refine host_inj ha hb (String.toList_inj.1 hhost.symm) ?_
    exact UInt16.toNat_inj.1 (Digits.toDigits_inj (by decide) (by decide) hdigits.symm)
  · intro groups port
    exact ⟨ipv6Text groups.toList, rfl, fun text' => canonical_iff⟩
  · intro g
    have hletter : ∀ d < 16, (Nat.digitChar d).isDigit ∨
        'a' ≤ Nat.digitChar d ∧ Nat.digitChar d ≤ 'f' := by decide
    rw [hexGroup, String.toList_ofList]
    refine ⟨?_, Digits.number?_toDigits (by decide) (by decide) _, ?_⟩
    · intro c hc
      obtain ⟨d, hd, rfl⟩ := Digits.mem_toDigits (by decide) hc
      exact hletter d hd
    · intro hhead
      rw [Digits.eq_zero_of_head (by decide) (by decide) hhead]
      rfl

/-- The loopback address is the only one with its text, and a name that looks like an address with
a port hides no other port. -/
theorem text_identifies_loopback :
    let loopback : Address := .ipv6 #v[0, 0, 0, 0, 0, 0, 0, 1] 443
    loopback.text = "[::1]:443" ∧
    (∀ a b c d port, (ipv4 a b c d port).text ≠ "[::1]:443") ∧
    ofIpv6 (Bytes.zeros 15 ++ [1]) 443 = loopback ∧
    ∃ host, Endpoint.ofText (domain "[::2]:80" 443).text = .ok ⟨host, 443⟩ := by
  intro loopback
  obtain ⟨hport, hinj, -, -⟩ := text_identifies
  have htext : loopback.text = "[::1]:443" := by decide
  obtain ⟨_, -, -, -, -, -, -, hread⟩ := hport (domain "[::2]:80" 443)
  refine ⟨htext, ?_, ?_, hread⟩
  · intro a b c d port h
    have heq := hinj (ipv4 a b c d port) loopback trivial trivial (h.trans htext.symm)
    exact Address.noConfusion heq
  · exact hinj _ loopback trivial trivial (by decide)

end Address

end SealedTunnel
