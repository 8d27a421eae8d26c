import SealedTunnel.Ends.Dialing
import SealedTunnel.Loopback.Machine
import SealedTunnel.Loopback.World

/-!
# Dialing in an in-memory world

What dialing works with, where the streams are pipes of a world. How hosts answer is an argument: a
stream to a host is known by the number of the pipe that it reads from, and writes to the next one.

## Main definitions

* `World.dialer`
* `Attempt.isolated`: what hosts answer on a machine without a network
-/

namespace SealedTunnel

/-- Every attempt to connect fails. -/
def Attempt.isolated {σ : Type} : Attempt σ :=
  fun endpoint s => (.failed (Isolated.connectFault endpoint.host), s)

/-- Connecting from a machine without a network, as a value. -/
def Transport.connectIsolated (address : String) : ConnectError :=
  match Endpoint.ofText address with
  | .error e => .failed address e
  | .ok endpoint => .failed address (Isolated.connectFault endpoint.host)

namespace World

/-- A dialer to the far end at an address, for the task of the given number. -/
def dialer (hosts : Attempt World) (timeoutMs : Nat) (far : String) (settings : Settings)
    (owner : Nat) : Dialer Transport.Progress World where
  far
  connector := Transport.opener hosts World.now timeoutMs
  wrap raw w :=
    let (w, conn) := w.addConn settings raw (raw + 1) 0
    (conn, w)
  tunnel conn := connEnd conn owner
  discard := dropConn
  dialFailed w := { w with stats := w.stats.dialFailed }

/-- The outcome of opening a stream that does not have to wait. -/
def openNow? {δ : Type} (opener : Opener TunnelError δ World) (target : String) (w : World) :
    Option (Except TunnelError Nat) × World :=
  let (progress, w) := opener.start target w
  match opener.resume progress w with
  | (.opened conn, w) => (some (.ok conn), w)
  | (.refused e, w) => (some (.error e), w)
  | (.pending _, w) => (none, w)

end World

end SealedTunnel
