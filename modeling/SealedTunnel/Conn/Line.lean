import SealedTunnel.Conn.Settings

/-!
# Taking turns

Many tasks may use one connection at once. Whoever wants to write joins a line, and only the first
in it puts bytes on the stream, until all of its frame is out; so frames never mix. Readers take
turns in the same way.

## Main definitions

* `WriteLine`: the writers in the order of their arrival, each with what is left of its frame
* `ReadLine`: the readers in the order of their arrival
-/

namespace SealedTunnel

/-- A writer in the line. -/
structure Turn where
  owner : Nat
  /-- What is left to put on the stream. -/
  rest : Bytes
  /-- How many bytes of data the frame carries. -/
  consumed : Nat
  loans : List Buffer

/-- The writers of a connection in the order of their arrival. The first one has the turn. -/
abbrev WriteLine := List Turn

namespace WriteLine

/-- A frame joins the line. -/
def enter (line : WriteLine) (owner : Nat) (p : Prepared) : WriteLine :=
  line ++ [⟨owner, p.frame, p.consumed, p.loans⟩]

/-- Whether someone is in the line. -/
def has (line : WriteLine) (owner : Nat) : Bool :=
  line.any (·.owner = owner)

/-- The one who has the turn. -/
def holder? : WriteLine → Option Turn
  | [] => none
  | turn :: _ => some turn

/-- Only these bytes are left of the holder's frame. -/
def push (rest : Bytes) : WriteLine → WriteLine
  | [] => []
  | turn :: line => { turn with rest } :: line

/-- Someone leaves the line; if it was the holder, the next one has the turn. -/
def leave (line : WriteLine) (owner : Nat) : WriteLine :=
  line.filter (·.owner ≠ owner)

/-- The buffers that someone in the line has. -/
def loansOf (line : WriteLine) (owner : Nat) : List Buffer :=
  (line.filter (·.owner = owner)).flatMap (·.loans)

end WriteLine

/-- The readers of a connection in the order of their arrival. The first one has the turn. -/
abbrev ReadLine := List Nat

namespace ReadLine

/-- Someone joins the line, unless it is in it already. -/
def enter (line : ReadLine) (owner : Nat) : ReadLine :=
  if line.contains owner then line else line ++ [owner]

/-- Someone leaves the line. -/
def leave (line : ReadLine) (owner : Nat) : ReadLine :=
  line.filter (· ≠ owner)

/-- Whether someone has the turn. -/
def isFirst (line : ReadLine) (owner : Nat) : Bool :=
  line.head? = some owner

end ReadLine

end SealedTunnel
