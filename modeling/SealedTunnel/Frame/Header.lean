import SealedTunnel.Error

/-!
# Frame headers

A frame is a header of four bytes, the length of its payload most significant byte first, and the
payload. Empty frames and frames of more than 2 MiB do not exist.

## Main definitions

* `Header.encode`, `Header.decode`: the header of a length, and the length of a header
-/

namespace SealedTunnel.Header

/-- The number of bytes of a header. -/
def size : Nat := 4

/-- The longest payload that a header may declare. -/
def maxLength : Nat := 2 * 1024 * 1024

/-- Refuses a length that no frame has. -/
def check (length : Nat) : Except FramingFault Unit :=
  if length = 0 then .error .emptyFrame
  else if length > maxLength then .error (.hugeFrame length maxLength)
  else .ok ()

/-- The header of a payload of the given length. -/
def encode (length : Nat) : Except FramingFault Bytes :=
  (check length).map fun _ => Bytes.bigEndian size length

/-- The length that a header declares. -/
def decode (header : Bytes) : Except FramingFault Nat :=
  let length := Bytes.ofBigEndian header
  (check length).map fun _ => length

end SealedTunnel.Header
