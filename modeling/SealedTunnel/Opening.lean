import SealedTunnel.Network.Endpoint
import SealedTunnel.Stream.Duplex

/-!
# Opening streams

Whoever needs a stream to some address asks an opener for it. Opening takes time, so an opener has
two operations: to start, which gives the progress so far, and to go on, which may have to wait.
What is opened is known by a number. The plainest opener connects to a host and a port.

## Main definitions

* `Opener`: openers that fail with `ε` and whose progress is a `δ`
* `Transport.opener`: connecting to an endpoint within a time limit
-/

namespace SealedTunnel

/-- How far opening a stream has come. -/
inductive Opening (ε δ : Type) where
  | pending (progress : δ)
  /-- The stream is open and known by a number. -/
  | opened (stream : Nat)
  | refused (error : ε)

/-- Opens streams to addresses, on a state `σ`. -/
structure Opener (ε δ σ : Type) where
  start : String → σ → δ × σ
  /-- Goes on; what is pending has to wait. -/
  resume : δ → σ → Opening ε δ × σ

/-! ## Connecting -/

/-- How a host answers an attempt to connect. -/
abbrev Attempt (σ : Type) := Endpoint → σ → Poll IoError Nat × σ

namespace Transport

/-- An attempt to connect that has begun. -/
structure Progress where
  address : String
  /-- The time, in milliseconds, from which on it is given up. -/
  deadline : Nat
  deriving DecidableEq, Repr

/-- Where an attempt to connect stands. An address that is none is refused before anything is
tried, and an answer that has come counts even at the deadline. -/
def attempt {σ : Type} (hosts : Attempt σ) (now : σ → Nat) (p : Progress) (s : σ) :
    Opening ConnectError Progress × σ :=
  match Endpoint.ofText p.address with
  | .error e => (.refused (.failed p.address e), s)
  | .ok endpoint =>
    match hosts endpoint s with
    | (.ready stream, s) => (.opened stream, s)
    | (.failed e, s) => (.refused (.failed p.address e), s)
    | (.waiting, s) => if p.deadline ≤ now s then (.refused (.timeout p.address), s)
      else (.pending p, s)

/-- Connects to addresses within so many milliseconds. -/
def opener {σ : Type} (hosts : Attempt σ) (now : σ → Nat) (timeoutMs : Nat) :
    Opener ConnectError Progress σ where
  start address s := (⟨address, now s + timeoutMs⟩, s)
  resume := attempt hosts now

end Transport

/-! ## Accepting -/

namespace Accept

/-- The milliseconds to wait after a failed attempt to accept. -/
def backoffMs : Nat := 100

/-- What is logged about a failed attempt to accept. -/
def warning (why : String) : String :=
  "Accept error: " ++ why ++ s!", retrying in {backoffMs}ms"

end Accept

end SealedTunnel
