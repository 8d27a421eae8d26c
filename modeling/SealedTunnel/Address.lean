import SealedTunnel.Error

/-!
# Addresses

Where a client wants to go: an IP address or a domain name, and a port. The text of an address is
what travels in the stream-open header, and what the far end takes apart again to connect; IPv6
addresses are written in the canonical form of RFC 5952.

## Main definitions

* `Address`: addresses, with `Address.text`
-/

namespace SealedTunnel

/-- A target address with its port. -/
inductive Address where
  | ipv4 (a b c d : UInt8) (port : UInt16)
  | ipv6 (groups : Vector UInt16 8) (port : UInt16)
  | domain (name : String) (port : UInt16)
  deriving DecidableEq, Repr

namespace Address

/-- Four octets in decimal. -/
def dotted (a b c d : UInt8) : String :=
  s!"{a.toNat}.{b.toNat}.{c.toNat}.{d.toNat}"

/-- A group in hexadecimal, without leading zeros. -/
def hexGroup (g : UInt16) : String :=
  String.ofList (Nat.toDigits 16 g.toNat)

/-- Groups separated by colons. -/
def hexGroups (gs : List UInt16) : String :=
  String.intercalate ":" (gs.map hexGroup)

/-- How many zeros the groups start with. -/
def leadingZeros (gs : List UInt16) : Nat :=
  (gs.takeWhile (· = 0)).length

/-- Start and length of the first longest run of zeros. -/
def longestZeros : List UInt16 → Nat × Nat
  | [] => (0, 0)
  | g :: gs =>
    let here := leadingZeros (g :: gs)
    let (start, length) := longestZeros gs
    if here ≥ length then (0, here) else (start + 1, length)

/-- The canonical text of an IPv6 address: an address that maps an IPv4 one ends in its octets, and
otherwise the first longest run of at least two zero groups is left out. -/
def ipv6Text (groups : List UInt16) : String :=
  match groups with
  | [0, 0, 0, 0, 0, 0xffff, high, low] =>
    "::ffff:" ++ dotted (high >>> 8).toUInt8 high.toUInt8 (low >>> 8).toUInt8 low.toUInt8
  | _ =>
    let (start, length) := longestZeros groups
    if length > 1 then
      hexGroups (groups.take start) ++ "::" ++ hexGroups (groups.drop (start + length))
    else hexGroups groups

/-- The text of an address. -/
def text : Address → String
  | .ipv4 a b c d port => dotted a b c d ++ ":" ++ toString port.toNat
  | .ipv6 groups port => "[" ++ ipv6Text groups.toList ++ "]:" ++ toString port.toNat
  | .domain name port => name ++ ":" ++ toString port.toNat

/-- The IPv4 address of four bytes; missing ones count as zero. -/
def ofIpv4 (bs : Bytes) (port : UInt16) : Address :=
  .ipv4 (bs.getD 0 0) (bs.getD 1 0) (bs.getD 2 0) (bs.getD 3 0) port

/-- The IPv6 address of sixteen bytes; missing ones count as zero. -/
def ofIpv6 (bs : Bytes) (port : UInt16) : Address :=
  .ipv6 (Vector.ofFn fun i : Fin 8 =>
    UInt16.ofNat (Bytes.ofBigEndian [bs.getD (2 * i) 0, bs.getD (2 * i + 1) 0])) port

end Address

end SealedTunnel
