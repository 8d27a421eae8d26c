import SealedTunnel.Stream.Duplex

/-!
# Conversations

Every header and handshake of this library is a bounded conversation over a byte stream: read
exactly so many bytes, decide, write some bytes, go on. Such a conversation is a tree, free of the
stream that it will run over. Running it as far as the stream lets it gives what is left of it,
which is again a conversation; so it may be put aside and taken up again at any byte.

## Main definitions

* `Talk`: conversations; they are composed as a monad
* `Talk.advance`: a conversation after the stream has given and taken what it can
* `Talk.run`: the outcome over a stream that does not make it wait
-/

namespace SealedTunnel

/-- A bounded conversation over a stream that fails with `δ`. It ends with an `α` or fails with an
`ε`. -/
inductive Talk (δ ε α : Type) where
  | done (a : α)
  | fail (e : ε)
  /-- Reads exactly `n` bytes. -/
  | need (n : Nat) (stop : Interruption δ → ε) (next : Bytes → Talk δ ε α)
  /-- Writes all of the bytes. -/
  | send (data : Bytes) (stop : Interruption δ → ε) (next : Talk δ ε α)

namespace Talk

variable {δ ε ε' α β σ : Type}

/-- One conversation after the other. -/
def bind : Talk δ ε α → (α → Talk δ ε β) → Talk δ ε β
  | .done a, f => f a
  | .fail e, _ => .fail e
  | .need n stop next, f => .need n stop fun bs => (next bs).bind f
  | .send data stop next, f => .send data stop (next.bind f)

instance : Monad (Talk δ ε) where
  pure := .done
  bind := .bind

/-- The same conversation, its outcome seen by another layer. -/
def map (f : ε → ε') (g : α → β) : Talk δ ε α → Talk δ ε' β
  | .done a => .done (g a)
  | .fail e => .fail (f e)
  | .need n stop next => .need n (fun i => f (stop i)) fun bs => (next bs).map f g
  | .send data stop next => .send data (fun i => f (stop i)) (next.map f g)

/-- Whether nothing is left to say. -/
def isOver : Talk δ ε α → Bool
  | .done _ | .fail _ => true
  | .need .. | .send .. => false

/-- What is left of a conversation after `got` of the bytes that it needs. -/
def resume (n : Nat) (stop : Interruption δ → ε) (next : Bytes → Talk δ ε α) (got : Bytes) :
    Talk δ ε α :=
  .need (n - got.length) (fun i => stop (i.after got.length)) fun more => next (got ++ more)

/-- What is left of a conversation once the stream has given and taken what it can. -/
def advance (d : Duplex δ σ) : Talk δ ε α → σ → Talk δ ε α × σ
  | .done a, s => (.done a, s)
  | .fail e, s => (.fail e, s)
  | .need n stop next, s =>
    match d.collect n s with
    | (.complete bs, s) => (next bs).advance d s
    | (.partway got, s) => (resume n stop next got, s)
    | (.stopped why, s) => (.fail (stop why), s)
  | .send data stop next, s =>
    match d.deliver data s with
    | (.complete _, s) => next.advance d s
    | (.partway rest, s) => (.send rest stop next, s)
    | (.stopped why, s) => (.fail (stop why), s)

/-- The outcome of a conversation; nothing if the stream makes it wait. -/
def run (d : Duplex δ σ) (t : Talk δ ε α) (s : σ) : Option (Except ε α) × σ :=
  match t.advance d s with
  | (.done a, s) => (some (.ok a), s)
  | (.fail e, s) => (some (.error e), s)
  | (_, s) => (none, s)

end Talk

end SealedTunnel
