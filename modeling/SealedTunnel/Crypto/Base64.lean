import SealedTunnel.Bytes

/-!
# Base64

The standard alphabet of RFC 4648, with padding: three bytes are written as four characters.

## Main definitions

* `Base64.encode`: the text of a byte string
* `Base64.decode?`: the byte string of a text
-/

namespace SealedTunnel.Base64

/-- The 64 characters, in the order of the values they stand for. -/
def alphabet : List Char :=
  "ABCDEFGHIJKLMNOPQRSTUVWXYZabcdefghijklmnopqrstuvwxyz0123456789+/".toList

/-- The character that stands for the last six bits of `n`. -/
def digit (n : Nat) : Char :=
  alphabet.getD (n % 64) '='

/-- The value that a character of the alphabet stands for. -/
def value? (c : Char) : Option Nat :=
  alphabet.idxOf? c

/-- The text of a byte string. -/
def encode : Bytes → List Char
  | a :: b :: c :: rest =>
    let n := a.toNat * 65536 + b.toNat * 256 + c.toNat
    digit (n / 262144) :: digit (n / 4096) :: digit (n / 64) :: digit n :: encode rest
  | [a, b] =>
    let n := a.toNat * 65536 + b.toNat * 256
    [digit (n / 262144), digit (n / 4096), digit (n / 64), '=']
  | [a] =>
    let n := a.toNat * 65536
    [digit (n / 262144), digit (n / 4096), '=', '=']
  | [] => []

/-- The byte string that a padded text stands for. -/
def decode? : List Char → Option Bytes
  | [] => some []
  | [p, q, '=', '='] => do
    let n := (← value? p) * 64 + (← value? q)
    return [(n / 16).toUInt8]
  | [p, q, r, '='] => do
    let n := ((← value? p) * 64 + (← value? q)) * 64 + (← value? r)
    return [(n / 1024).toUInt8, (n / 4).toUInt8]
  | p :: q :: r :: s :: rest => do
    let n := (((← value? p) * 64 + (← value? q)) * 64 + (← value? r)) * 64 + (← value? s)
    return (n / 65536).toUInt8 :: (n / 256).toUInt8 :: n.toUInt8 :: (← decode? rest)
  | _ => none

end SealedTunnel.Base64
