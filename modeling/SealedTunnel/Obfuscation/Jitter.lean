import SealedTunnel.Obfuscation

/-!
# Jitter

After a frame that carried more than a handful of bytes the sender waits a random time, which blurs
the timing of the traffic. Small frames are never delayed.

## Main definitions

* `Jitter.drawDelay`: the time to wait after a frame, if any
-/

namespace SealedTunnel.Jitter

/-- Frames that carry at most this many bytes are not delayed. -/
def threshold : Nat := 128

/-- The milliseconds to wait after a frame that carried `length` bytes. The lower bound counts for
no more than the upper one, and a delay of zero is none. -/
def drawDelay (o : Obfuscation) (length : Nat) : Draw CryptoError (Option UInt64) := do
  if !o.enabled || o.maxDelayMs = 0 || length ≤ threshold then return none
  let least := min o.minDelayMs o.maxDelayMs
  let delay := least + (← Draw.below (o.maxDelayMs - least + 1))
  return if delay = 0 then none else some delay

end SealedTunnel.Jitter
