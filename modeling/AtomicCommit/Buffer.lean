import AtomicCommit.Text.Utf8

/-!
# Byte buffers

A buffer has a fixed storage with two cursors: the bytes between them are readable, the bytes
behind the second are free. It never grows: whoever needs more room takes a larger buffer and
moves the readable bytes over. `fill` and `advance` are the two halves of a read from a link,
which writes into the free region first and then says how much of it counts.
-/

namespace AtomicCommit

/-- A fixed storage with a readable region. -/
structure Buffer where
  /-- Every byte of the storage, readable or not. -/
  storage : Bytes
  /-- Where the readable bytes start. -/
  start : Nat
  /-- Where they end and the free bytes start. -/
  stop : Nat
  /-- Whether the buffer goes back to a pool. -/
  pooled : Bool
  deriving DecidableEq, Repr

namespace Buffer

/-- An empty buffer of zeros. -/
def zeroed (size : Nat) (pooled : Bool) : Buffer :=
  ⟨List.replicate size 0, 0, 0, pooled⟩

/-! ## Sizes -/

def capacity (b : Buffer) : Nat :=
  b.storage.length

def length (b : Buffer) : Nat :=
  b.stop - b.start

def isEmpty (b : Buffer) : Bool :=
  b.start == b.stop

def free (b : Buffer) : Nat :=
  b.capacity - b.stop

def readable (b : Buffer) : Bytes :=
  (b.storage.drop b.start).take b.length

/-! ## Operations -/

/-- Write over the front of the free region as much as fits, without making it readable. -/
def fill (b : Buffer) (data : Bytes) : Buffer :=
  let data := data.take b.free
  { b with storage := b.storage.take b.stop ++ data ++ b.storage.drop (b.stop + data.length) }

/-- Make `n` free bytes readable. -/
def advance (b : Buffer) (n : Nat) : Buffer :=
  { b with stop := min (b.stop + n) b.capacity }

/-- Drop `n` readable bytes. -/
def consume (b : Buffer) (n : Nat) : Buffer :=
  { b with start := min (b.start + n) b.stop }

/-- How many of these bytes fit. -/
def accepted (b : Buffer) (data : Bytes) : Nat :=
  min data.length b.free

/-- Append as much as fits. How much that is, is what `accepted` says. -/
def put (b : Buffer) (data : Bytes) : Buffer :=
  (b.fill data).advance (b.accepted data)

/-- Move the readable bytes to the front. -/
def compact (b : Buffer) : Buffer :=
  if b.start = 0 then b
  else
    { b with
      storage := b.readable ++ b.storage.drop b.length
      start := 0
      stop := b.length }

def clear (b : Buffer) : Buffer :=
  { b with start := 0, stop := 0 }

end Buffer

end AtomicCommit
