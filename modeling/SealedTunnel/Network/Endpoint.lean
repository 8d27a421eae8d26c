import SealedTunnel.Network.Ip

/-!
# Endpoints

Where one connects to or listens: a host and a port. In a text they stand before and after the last
colon. An IPv6 address may have brackets around it, so that its own colons do not mislead a reader.

## Main definitions

* `Endpoint.ofText`: host and port of a text
-/

namespace SealedTunnel

/-- A host and a port to connect to or to listen at. -/
structure Endpoint where
  host : String
  port : UInt16
  deriving DecidableEq, Repr

namespace Endpoint

/-- What stands before and after the last occurrence of a character. -/
def splitLast (c : Char) (text : List Char) : Option (List Char × List Char) :=
  let reversed := text.reverse
  let tail := reversed.takeWhile (· ≠ c)
  match reversed.drop tail.length with
  | [] => none
  | _ :: front => some (front.reverse, tail.reverse)

/-- A port: decimal digits, perhaps after a plus sign, that give less than 2^16. -/
def port? (text : List Char) : Option UInt16 :=
  let digits := match text with
    | '+' :: rest => rest
    | _ => text
  if digits.isEmpty || !digits.all Char.isDigit then none
  else
    let n := Nat.ofDigitChars 10 digits 0
    if n < 65536 then some n.toUInt16 else none

/-- A host without the brackets around an IPv6 address; a port with a sign does not go with them. -/
def unbracket (host port : List Char) : List Char :=
  match host, host.getLast? with
  | '[' :: inner, some ']' =>
    let inner := inner.dropLast
    if port.head? ≠ some '+' && (Ip.ofV6? (String.ofList inner)).isSome then inner else host
  | _, _ => host

/-- Host and port of a text. -/
def ofText (text : String) : Except IoError Endpoint :=
  match splitLast ':' text.toList with
  | none => .error .noPort
  | some (host, digits) =>
    match port? digits with
    | none => .error .badPort
    | some port => .ok ⟨String.ofList (unbracket host digits), port⟩

end Endpoint

end SealedTunnel
