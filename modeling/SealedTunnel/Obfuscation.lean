import SealedTunnel.Random

/-!
# Obfuscation settings

How traffic is disguised: every frame may be padded with a random number of bytes, and a sender may
wait a random time after it. The numbers are 64-bit words, as in the configuration.

## Main definitions

* `Obfuscation`: the settings
* `Obfuscation.check`: what a configuration must satisfy
-/

namespace SealedTunnel

/-- Whether and how traffic is disguised. -/
structure Obfuscation where
  enabled : Bool := true
  minPadding : UInt64 := 4
  maxPadding : UInt64 := 32
  minDelayMs : UInt64 := 0
  maxDelayMs : UInt64 := 0
  deriving DecidableEq, Repr, Inhabited

/-- Why settings are refused. -/
inductive ObfuscationFault where
  | paddingRange (min max : UInt64)
  | paddingLimit (max : UInt64)
  | delayRange (min max : UInt64)
  deriving DecidableEq, Repr

namespace Obfuscation

/-- The most padding that a configuration may ask for. -/
def paddingLimit : UInt64 := 32768

/-- No disguise at all. -/
def disabled : Obfuscation := ⟨false, 0, 0, 0, 0⟩

/-- The same settings with another range of padding. -/
def withPadding (o : Obfuscation) (min max : UInt64) : Obfuscation :=
  { o with minPadding := min, maxPadding := max }

/-- The same settings with another range of delays. -/
def withDelay (o : Obfuscation) (min max : UInt64) : Obfuscation :=
  { o with minDelayMs := min, maxDelayMs := max }

/-- The first thing that is wrong with the settings, if any. -/
def check (o : Obfuscation) : Except ObfuscationFault Unit :=
  if o.minPadding > o.maxPadding then .error (.paddingRange o.minPadding o.maxPadding)
  else if o.maxPadding > paddingLimit then .error (.paddingLimit o.maxPadding)
  else if o.minDelayMs > o.maxDelayMs then .error (.delayRange o.minDelayMs o.maxDelayMs)
  else .ok ()

end Obfuscation

/-- The wording of a fault. -/
def ObfuscationFault.message : ObfuscationFault → String
  | .paddingRange min max =>
    s!"min_padding ({min.toNat}) must not exceed max_padding ({max.toNat})"
  | .paddingLimit max =>
    s!"max_padding ({max.toNat}) exceeds limit {Obfuscation.paddingLimit.toNat}"
  | .delayRange min max =>
    s!"min_delay_ms ({min.toNat}) must not exceed max_delay_ms ({max.toNat})"

end SealedTunnel
