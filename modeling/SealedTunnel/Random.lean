import SealedTunnel.Error

/-!
# Randomness as an argument

Nonces, padding and delays are drawn at random. Here the random source is a value that is threaded
through: a (possibly lazy) finite supply of bytes, each of which is handed out once, in order.
A statement about every outcome of the draws is a statement about every such supply, and a source
that fails is one whose supply has run out.

## Main definitions

* `Entropy`: a supply of random bytes
* `Entropy.take`: the next bytes of it
* `Entropy.below`: a uniform number below a bound, by rejection
* `Draw`: computations that draw from a supply and may fail
-/

namespace SealedTunnel

/-- A supply of random bytes: those at the positions from `next` up to, and without, `supply`. -/
structure Entropy where
  /-- The byte at each position. -/
  byteAt : Nat → UInt8
  /-- The position of the next byte to hand out. -/
  next : Nat
  /-- The position at which the supply ends. -/
  supply : Nat

namespace Entropy

/-- The supply that consists of the given bytes. -/
def ofBytes (bs : Bytes) : Entropy :=
  ⟨fun i => bs.getD i 0, 0, bs.length⟩

/-- How many bytes are left. -/
def left (e : Entropy) : Nat :=
  e.supply - e.next

/-- The next `n` bytes, or nothing when fewer are left. -/
def take (n : Nat) (e : Entropy) : Option (Bytes × Entropy) :=
  if e.next + n ≤ e.supply then
    some ((List.range n).map (fun i => e.byteAt (e.next + i)), { e with next := e.next + n })
  else none

theorem left_of_take {n : Nat} {e e' : Entropy} {bs : Bytes} (h : e.take n = some (bs, e')) :
    e'.left + n = e.left := by
  unfold take at h
  split at h
  · obtain ⟨-, rfl⟩ := Prod.mk.inj (Option.some.inj h)
    simp only [left]
    omega
  · contradiction

/-- The bound under which a 64-bit draw is accepted: the largest multiple of `bound` that is at most
2^64 - 1. All residues are equally frequent under it. -/
def zone (bound : UInt64) : UInt64 :=
  0xFFFFFFFFFFFFFFFF - 0xFFFFFFFFFFFFFFFF % bound

/-- The next 64-bit draw, its bytes least significant first. -/
def word (e : Entropy) : Option (UInt64 × Entropy) :=
  (e.take 8).map fun (bs, e') => (UInt64.ofNat (Bytes.ofLittleEndian bs), e')

theorem left_of_word {e e' : Entropy} {w : UInt64} (h : e.word = some (w, e')) :
    e'.left < e.left := by
  obtain ⟨⟨bs, e₁⟩, ht, he⟩ := Option.map_eq_some_iff.1 h
  have := left_of_take ht
  obtain ⟨-, rfl⟩ := Prod.mk.inj he
  omega

/-- The residue modulo `bound` of the first draw below `limit`. -/
def accepted (limit bound : UInt64) (e : Entropy) : Option (UInt64 × Entropy) :=
  match h : e.word with
  | none => none
  | some (w, e') =>
    have := left_of_word h
    if w < limit then some (w % bound, e') else accepted limit bound e'
termination_by e.left

/-- A number drawn uniformly below `bound`: 64-bit draws are rejected until one lies in the zone.
A bound of 0 or 1 leaves no choice, so nothing is drawn. -/
def below (bound : UInt64) (e : Entropy) : Option (UInt64 × Entropy) :=
  if bound ≤ 1 then some (0, e) else accepted (zone bound) bound e

end Entropy

/-- A computation that draws from a supply of random bytes and may fail. -/
abbrev Draw (ε α : Type) := StateT Entropy (Except ε) α

namespace Draw

/-- A draw whose supply may run out. -/
def ofTake {α : Type} (draw : Entropy → Option (α × Entropy)) : Draw CryptoError α :=
  fun e => (draw e).elim (.error .noEntropy) .ok

/-- The next `n` random bytes. -/
def bytes (n : Nat) : Draw CryptoError Bytes :=
  ofTake (Entropy.take n)

/-- A random number below a bound. -/
def below (bound : UInt64) : Draw CryptoError UInt64 :=
  ofTake (Entropy.below bound)

/-- The same computation as a part of one that fails with tunnel errors. -/
def forTunnel {α : Type} (draw : Draw CryptoError α) : Draw TunnelError α :=
  fun e => (draw e).mapError .crypto

end Draw

end SealedTunnel
