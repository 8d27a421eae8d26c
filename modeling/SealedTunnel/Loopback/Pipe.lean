import SealedTunnel.Error
import SealedTunnel.Stream.Duplex

/-!
# Pipes

One direction of an in-memory byte stream: bytes wait in a queue of limited size until they are
read. Either side may close the pipe; what is in it can still be read, but nothing more goes in.

## Main definitions

* `ByteQueue`: a first-in first-out queue of bytes
* `Pipe`: a queue with a capacity, which may be closed
-/

namespace SealedTunnel

/-- A queue of bytes. New ones are kept in the pieces in which they came, the latest piece first,
until a reader has used up the bytes at the front. -/
structure ByteQueue where
  front : Bytes := []
  back : List Bytes := []
  /-- The number of bytes at the front. -/
  frontSize : Nat := 0
  /-- The number of bytes in the pieces. -/
  backSize : Nat := 0
  length_front : front.length = frontSize := by rfl
  length_back : back.reverse.flatten.length = backSize := by rfl

namespace ByteQueue

/-- A queue without bytes. -/
def empty : ByteQueue := {}

/-- The bytes in the order in which they leave the queue. -/
def toList (q : ByteQueue) : Bytes :=
  q.front ++ q.back.reverse.flatten

/-- How many bytes are in the queue. -/
def size (q : ByteQueue) : Nat :=
  q.frontSize + q.backSize

/-- The queue with more bytes at its end. -/
def push (q : ByteQueue) (bs : Bytes) : ByteQueue :=
  { q with
    back := bs :: q.back
    backSize := q.backSize + bs.length
    length_back := by simp [← q.length_back] }

/-- The same queue with every byte at the front. -/
def gather (q : ByteQueue) : ByteQueue :=
  if q.back.isEmpty then q
  else
    { front := q.toList
      frontSize := q.size
      length_front := by rw [toList, List.length_append, q.length_front, q.length_back, size] }

/-- The first `n` bytes, or all if there are fewer, and the rest of the queue. -/
def pull (q : ByteQueue) (n : Nat) : Bytes × ByteQueue :=
  let q := if q.frontSize < n then q.gather else q
  (q.front.take n,
    { q with
      front := q.front.drop n
      frontSize := q.frontSize - n
      length_front := by rw [List.length_drop, q.length_front] })

theorem toList_push (q : ByteQueue) (bs : Bytes) : (q.push bs).toList = q.toList ++ bs := by
  simp [push, toList]

theorem toList_gather (q : ByteQueue) : q.gather.toList = q.toList := by
  unfold gather
  split
  · rfl
  · simp [toList]

end ByteQueue

/-- One direction of an in-memory byte stream. -/
structure Pipe where
  queue : ByteQueue := .empty
  /-- How many bytes wait in it at most. -/
  capacity : Nat
  closed : Bool := false

namespace Pipe

/-- Puts in as many of the bytes as there is room for, counted from the first. -/
def write (p : Pipe) (bs : Bytes) : Poll IoError Nat × Pipe :=
  if p.closed then (.failed .brokenPipe, p)
  else
    let room := p.capacity - p.queue.size
    if room = 0 then (.waiting, p)
    else
      let taken := bs.take room
      (.ready taken.length, { p with queue := p.queue.push taken })

/-- Takes out at most `n` bytes. A closed pipe ends once it is empty. -/
def read (p : Pipe) (n : Nat) : Poll IoError Bytes × Pipe :=
  if p.queue.size = 0 then (if p.closed then .ready [] else .waiting, p)
  else
    let (bs, queue) := p.queue.pull n
    (.ready bs, { p with queue })

/-- Nothing more goes in. -/
def close (p : Pipe) : Pipe :=
  { p with closed := true }

/-- Takes out everything. -/
def drain (p : Pipe) : Bytes × Pipe :=
  (p.queue.toList, { p with queue := .empty })

/-- Whether the reader has seen the end. -/
def atEnd (p : Pipe) : Bool :=
  p.closed && p.queue.size = 0

end Pipe

end SealedTunnel
