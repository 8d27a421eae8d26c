import SealedTunnel.Bytes

/-!
# Buffer pool

Buffers of one size that are handed out and taken back. A returned buffer keeps what was written
into it, so whoever takes it next finds old bytes. Each buffer carries the serial number under which
it was made, by which it can be followed from hand to hand.

## Main definitions

* `Buffer`: a buffer with its serial number
* `Pool`: the idle buffers, with `acquire` and `release`
* `Lending`: a pool together with the buffers that are out, by holder
-/

namespace SealedTunnel

/-- A buffer: as many bytes as it was made with, whatever is written into it. -/
structure Buffer where
  serial : Nat
  size : Nat
  bytes : Bytes
  length_bytes : bytes.length = size
  deriving Repr

namespace Buffer

/-- The buffer with other bytes at its start; bytes beyond its end cannot be written. -/
def put (b : Buffer) (data : Bytes) : Buffer :=
  if h : data.length ≤ b.size then
    { b with
      bytes := data ++ b.bytes.drop data.length
      length_bytes := by
        rw [List.length_append, List.length_drop, b.length_bytes]
        omega }
  else b

/-- The buffer after something was built with it as the scratch buffer. -/
def keep (b : Buffer) (p : Placed) : Buffer :=
  if p.inScratch then b.put p.bytes else b

@[simp] theorem size_put (b : Buffer) (data : Bytes) : (b.put data).size = b.size := by
  unfold put
  split <;> rfl

@[simp] theorem serial_put (b : Buffer) (data : Bytes) : (b.put data).serial = b.serial := by
  unfold put
  split <;> rfl

end Buffer

/-- The idle buffers of one size. -/
structure Pool where
  bufferSize : Nat
  /-- The most buffers that are kept. -/
  maxIdle : Nat
  /-- The idle buffers, the one returned last first. -/
  idle : List Buffer
  /-- How many buffers have been made; also the next serial number. -/
  made : Nat
  /-- What a new buffer holds. -/
  blank : Bytes
  length_blank : blank.length = bufferSize
  deriving Repr

namespace Pool

/-- The size of buffers where nothing else is said: a frame of the largest payload fits. -/
def defaultBufferSize : Nat := 131072

/-- How many buffers the shared pool keeps. -/
def defaultMaxIdle : Nat := 256

/-- A pool without buffers yet. -/
def empty (bufferSize maxIdle : Nat) : Pool :=
  ⟨bufferSize, maxIdle, [], 0, Bytes.zeros bufferSize, Bytes.length_zeros bufferSize⟩

/-- The pool that connections share where nothing else is said. -/
def shared : Pool := empty defaultBufferSize defaultMaxIdle

/-- A pool that keeps nothing. -/
def disabled : Pool := empty defaultBufferSize 0

/-- A buffer: the one returned last, or a new one. -/
def acquire (p : Pool) : Buffer × Pool :=
  match p.idle with
  | b :: rest => (b, { p with idle := rest })
  | [] => (⟨p.made, p.bufferSize, p.blank, p.length_blank⟩, { p with made := p.made + 1 })

/-- Takes a buffer back; it is kept if it has the right size and there is room for it. -/
def release (p : Pool) (b : Buffer) : Pool :=
  if b.size = p.bufferSize ∧ p.idle.length < p.maxIdle then { p with idle := b :: p.idle } else p

/-- Takes several buffers back, one after the other. -/
def releaseAll (p : Pool) (bs : List Buffer) : Pool :=
  bs.foldl release p

/-- The pool in words. -/
def describe (p : Pool) : String :=
  "BufferPool \x7b buffer_size: " ++ toString p.bufferSize ++ ", max_buffers: " ++
    toString p.maxIdle ++ ", idle: " ++ toString p.idle.length ++ " \x7d"

end Pool

/-- A pool and the buffers that are out, each under the number of the handle that holds it. -/
structure Lending where
  pool : Pool
  held : List (Nat × Buffer)
  deriving Repr

namespace Lending

/-- A pool of which nothing is out. -/
def ofPool (p : Pool) : Lending := ⟨p, []⟩

/-- The buffer that a handle holds. -/
def held? (l : Lending) (handle : Nat) : Option Buffer :=
  (l.held.find? fun h => h.1 = handle).map Prod.snd

/-- A buffer goes out under a new handle. -/
def acquire (l : Lending) (handle : Nat) : Lending :=
  let (b, pool) := l.pool.acquire
  ⟨pool, l.held ++ [(handle, b)]⟩

/-- The buffer of a handle is written from its start on. -/
def write (l : Lending) (handle : Nat) (data : Bytes) : Lending :=
  { l with held := l.held.map fun h => if h.1 = handle then (h.1, h.2.put data) else h }

/-- The buffer of a handle comes back. -/
def release (l : Lending) (handle : Nat) : Lending :=
  match l.held? handle with
  | some b => ⟨l.pool.release b, l.held.filter fun h => h.1 ≠ handle⟩
  | none => l

end Lending

end SealedTunnel
