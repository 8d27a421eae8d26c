import SealedTunnel.Bytes

/-!
# Two-way byte streams

A stream is used through two operations on some state: reading at most a number of bytes, and
writing, which takes a part of what it is given. Either may have to wait. A stream in the middle of
a program, a scripted one and one end of a pipe that others share are all of this form. On top of
it stand the two loops that everything else is made of: collecting an exact number of bytes, and
delivering all of a byte string.

## Main definitions

* `Poll`: an operation is ready, has failed or must wait
* `Duplex`: a stream, as its two operations
* `Duplex.Honest`: what a stream owes to its user
* `Duplex.collect`, `Duplex.deliver`: reading exactly, writing all
-/

namespace SealedTunnel

/-- What an operation that may have to wait gives. -/
inductive Poll (δ α : Type) where
  | ready (a : α)
  | failed (e : δ)
  | waiting
  deriving Repr, DecidableEq

/-- The same with the value, or the failure, seen by another layer. -/
def Poll.map {δ δ' α α' : Type} (f : δ → δ') (g : α → α') : Poll δ α → Poll δ' α'
  | .ready a => .ready (g a)
  | .failed e => .failed (f e)
  | .waiting => .waiting

/-- A two-way byte stream whose state is a part of `σ`. -/
structure Duplex (δ σ : Type) where
  /-- At most the given number of bytes; none of them means that the stream has ended. -/
  read : Nat → σ → Poll δ Bytes × σ
  /-- How many of the bytes, counted from the first, were taken. -/
  write : Bytes → σ → Poll δ Nat × σ

/-- How reading exactly or writing all is cut short: by the end of the stream after some bytes, or
by a failure. -/
inductive Interruption (δ : Type) where
  | ended (got : Nat)
  | broken (e : δ)
  deriving Repr, DecidableEq

/-- The same interruption, seen by someone who had `n` bytes before. -/
def Interruption.after {δ : Type} (n : Nat) : Interruption δ → Interruption δ
  | .ended got => .ended (n + got)
  | .broken e => .broken e

/-- How far collecting bytes, or delivering them, has come. -/
inductive Transfer (δ : Type) where
  /-- All of it is done; these bytes were collected. -/
  | complete (bytes : Bytes)
  /-- The stream makes it wait; these bytes were collected, or are still to be delivered. -/
  | partway (bytes : Bytes)
  | stopped (why : Interruption δ)
  deriving Repr

namespace Duplex

variable {δ σ : Type}

/-- A stream keeps its side: it never gives more bytes than it was asked for, nor takes more than it
was given. -/
structure Honest (d : Duplex δ σ) : Prop where
  read_le : ∀ {n s s' bs}, d.read n s = (.ready bs, s') → bs.length ≤ n
  write_le : ∀ {bs s s' n}, d.write bs s = (.ready n, s') → n ≤ bs.length

/-- Reads until `missing` more bytes are there; `pieces` are those before them, the latest piece
first. -/
def collectAfter (d : Duplex δ σ) (missing : Nat) (pieces : List Bytes) (s : σ) : Transfer δ × σ :=
  if _h : missing = 0 then (.complete pieces.reverse.flatten, s)
  else
    match d.read missing s with
    | (.waiting, s) => (.partway pieces.reverse.flatten, s)
    | (.failed e, s) => (.stopped (.broken e), s)
    | (.ready [], s) => (.stopped (.ended pieces.flatten.length), s)
    | (.ready (b :: bs), s) =>
      d.collectAfter (missing - (b :: bs).length) ((b :: bs) :: pieces) s
termination_by missing
decreasing_by
  rw [List.length_cons]
  omega

/-- Reads exactly `n` bytes. -/
def collect (d : Duplex δ σ) (n : Nat) (s : σ) : Transfer δ × σ :=
  d.collectAfter n [] s

/-- Writes until all of the bytes are taken. -/
def deliver (d : Duplex δ σ) (data : Bytes) (s : σ) : Transfer δ × σ :=
  match data with
  | [] => (.complete [], s)
  | b :: bs =>
    match d.write (b :: bs) s with
    | (.waiting, s) => (.partway (b :: bs), s)
    | (.failed e, s) => (.stopped (.broken e), s)
    | (.ready 0, s) => (.stopped (.ended 0), s)
    | (.ready (n + 1), s) => d.deliver (bs.drop n) s
termination_by data.length
decreasing_by
  rw [List.length_drop, List.length_cons]
  omega

end Duplex

end SealedTunnel
