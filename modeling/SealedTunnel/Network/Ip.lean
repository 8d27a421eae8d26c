import SealedTunnel.Error

/-!
# Numeric hosts

Hosts that are written as numbers: IPv4 addresses in one to four parts, each decimal, octal or
hexadecimal, and IPv6 addresses as RFC 4291 writes them, perhaps with a scope.

## Main definitions

* `Ip`: the addresses
* `Ip.ofV4?`, `Ip.ofV6?`: the address that a text spells
-/

namespace SealedTunnel

/-- A numeric address of a host. -/
inductive Ip where
  | v4 (bits : UInt32)
  /-- Eight groups, and the number of the interface through which they are meant; zero for any. -/
  | v6 (groups : List UInt16) (scope : UInt32)
  deriving DecidableEq, Repr

namespace Ip

/-! ## Numbers -/

/-- The value of a digit, letters of either case included. -/
def digit? (base : Nat) (c : Char) : Option Nat :=
  let value :=
    if c.isDigit then c.toNat - '0'.toNat
    else if 'a' ≤ c ∧ c ≤ 'f' then c.toNat - 'a'.toNat + 10
    else if 'A' ≤ c ∧ c ≤ 'F' then c.toNat - 'A'.toNat + 10
    else base
  if value < base then some value else none

/-- The number that digits spell, of which there has to be one. -/
def number? (base : Nat) (cs : List Char) : Option Nat :=
  if cs.isEmpty then none
  else cs.foldlM (fun n c => (digit? base c).map (base * n + ·)) 0

/-- The number that digits of a limited count spell. -/
def shortNumber? (base count : Nat) (cs : List Char) : Option Nat :=
  if cs.length > count then none else number? base cs

/-! ## IPv4 -/

/-- The number of a part: hexadecimal after `0x`, octal after another zero, and else decimal. -/
def v4Part? : List Char → Option Nat
  | '0' :: 'x' :: digits | '0' :: 'X' :: digits => number? 16 digits
  | '0' :: digits => number? 8 ('0' :: digits)
  | digits => number? 10 digits

/-- The address of some parts: each but the last is a byte, and the last one fills what is left of
the `room` bytes. -/
def ofParts? : (room : Nat) → List Nat → Option Nat
  | _, [] => none
  | 0, _ => none
  | room, [last] => if last < 256 ^ room then some last else none
  | room + 1, part :: parts =>
    if part < 256 then (ofParts? room parts).map (part * 256 ^ room + ·) else none

/-- The IPv4 address that a text spells. -/
def ofV4? (text : String) : Option Ip := do
  let parts ← (text.splitOn ".").mapM fun part => v4Part? part.toList
  return .v4 (UInt32.ofNat (← ofParts? 4 parts))

/-! ## IPv6 -/

/-- A byte in decimal without leading zeros. -/
def octet? (cs : List Char) : Option Nat :=
  match cs with
  | '0' :: _ :: _ => none
  | _ => (shortNumber? 10 3 cs).filter (· < 256)

/-- The two groups that four octets in decimal make. -/
def dottedGroups? (text : String) : Option (List Nat) := do
  match ← (text.splitOn ".").mapM fun part => octet? part.toList with
  | [a, b, c, d] => return [a * 256 + b, c * 256 + d]
  | _ => none

/-- The groups between colons; if `last` is set, the last two may be written as four octets. -/
def groups? (last : Bool) : List String → Option (List Nat)
  | [] => some []
  | [part] =>
    match shortNumber? 16 4 part.toList with
    | some group => some [group]
    | none => if last then dottedGroups? part else none
  | part :: parts => do
    let group ← shortNumber? 16 4 part.toList
    return group :: (← groups? last parts)

/-- The groups of a text without a gap; there may be none. -/
def run? (last : Bool) (text : String) : Option (List Nat) :=
  if text.isEmpty then some [] else groups? last (text.splitOn ":")

/-- The eight groups that a text spells, where two colons stand for one or more zero groups. -/
def v6Groups? (text : String) : Option (List Nat) :=
  match text.splitOn "::" with
  | [all] => (run? true all).filter (·.length = 8)
  | [front, back] => do
    let front ← run? false front
    let back ← run? true back
    if front.length + back.length < 8 then
      return front ++ List.replicate (8 - (front.length + back.length)) 0 ++ back
    else none
  | _ => none

/-- The number of an interface, below 2^32. -/
def scope? (text : String) : Option UInt32 :=
  ((number? 10 text.toList).filter (· < UInt32.size)).map UInt32.ofNat

/-- The IPv6 address that a text spells, perhaps with the number of its scope after a percent
sign. -/
def ofV6? (text : String) : Option Ip := do
  match text.splitOn "%" with
  | [address] => return .v6 ((← v6Groups? address).map UInt16.ofNat) 0
  | [address, scope] => return .v6 ((← v6Groups? address).map UInt16.ofNat) (← scope? scope)
  | _ => none

/-! ## Kinds of addresses -/

/-- Whether an IPv6 address stands for an IPv4 one. -/
def isMapped : List UInt16 → Bool
  | [0, 0, 0, 0, 0, 0xffff, _, _] => true
  | _ => false

/-- Whether an IPv6 address belongs to a group of hosts. -/
def isMulticast (groups : List UInt16) : Bool :=
  groups.head?.any (0xff00 ≤ ·)

/-- Whether an IPv6 address holds on one link only. -/
def isLinkLocal (groups : List UInt16) : Bool :=
  groups.head?.any fun g => g &&& 0xffc0 = 0xfe80

/-- Whether an IPv6 address belongs to a group of hosts on one link. -/
def isLinkMulticast (groups : List UInt16) : Bool :=
  groups.head?.any fun g => g &&& 0xff0f = 0xff02

end Ip

end SealedTunnel
