import SealedTunnel.Error
import SealedTunnel.Stream.Duplex

/-!
# The stream under a connection

A connection lies over a two-way stream that may hold back what it has taken until it is flushed,
and whose writing side can be shut. Either may have to wait, or fail, as reading and writing may.

## Main definitions

* `Carrier`: such a stream, and `ShutFault`: how shutting it fails
* `Carrier.emit`: delivering all of a byte string and flushing it
* `Carrier.finish`: shutting the writing side
-/

namespace SealedTunnel

/-- How shutting the writing side of a stream fails. -/
inductive ShutFault where
  /-- There is no other end any more. -/
  | notConnected
  | io (error : IoError)
  deriving DecidableEq, Repr

/-- A two-way byte stream for a connection to lie over. -/
structure Carrier (τ : Type) extends Duplex IoError τ where
  /-- Passes on what was taken and held back. -/
  flush : τ → Poll IoError Unit × τ
  /-- Shuts the writing side. -/
  shut : τ → Poll ShutFault Unit × τ

namespace Carrier

variable {τ : Type}

instance : Coe (Carrier τ) (Duplex IoError τ) := ⟨toDuplex⟩

/-- Delivers all of the bytes, and flushes behind the last of them. -/
def emit (d : Carrier τ) (data : Bytes) (s : τ) : Transfer IoError × τ :=
  match d.deliver data s with
  | (.complete got, s) =>
    match d.flush s with
    | (.ready (), s) => (.complete got, s)
    | (.failed e, s) => (.stopped (.broken e), s)
    | (.waiting, s) => (.partway [], s)
  | r => r

/-- Shuts the writing side. Where the other end is gone already, there is nothing left to shut. -/
def finish (d : Carrier τ) (s : τ) : Poll TunnelError Unit × τ :=
  match d.shut s with
  | (.failed (.io e), s) => (.failed (.io e), s)
  | (.ready (), s) | (.failed .notConnected, s) => (.ready (), s)
  | (.waiting, s) => (.waiting, s)

end Carrier

end SealedTunnel
