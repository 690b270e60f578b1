import AtomicCommit.Buffer
import AtomicCommit.Queue

/-!
# Buffer pools

A pool hands out chunks of one size and keeps a bounded number of idle ones, oldest first. A
request for more gets a buffer of its own that is dropped afterwards. `outstanding` counts what
was handed out and not returned; it is a machine word, because a pool that is handed a buffer of
another pool counts below zero.
-/

namespace AtomicCommit

/-- The chunk size of a pool nobody configured. -/
def defaultChunkSize : Nat := 8192

/-- The idle chunks kept by a pool nobody configured. -/
def defaultPoolCapacity : Nat := 128

/-- A store of chunks. -/
structure Pool where
  chunkSize : Nat := defaultChunkSize
  /-- How many idle chunks are kept. -/
  capacity : Nat := defaultPoolCapacity
  idle : Queue Buffer := .empty
  outstanding : UInt64 := 0
  deriving DecidableEq, Repr

namespace Pool

/-- A pool without idle chunks. It keeps at least one. -/
def new (capacity chunkSize : Nat) : Pool :=
  { chunkSize := chunkSize, capacity := max capacity 1 }

/-- Hand out an empty buffer of at least `size` bytes. -/
def allocate (p : Pool) (size : Nat) : Buffer × Pool :=
  let p := { p with outstanding := p.outstanding + 1 }
  if size ≤ p.chunkSize then
    match p.idle.pop? with
    | some (chunk, idle) => (chunk, { p with idle := idle })
    | none => (Buffer.zeroed p.chunkSize true, p)
  else (Buffer.zeroed size false, p)

def allocateChunk (p : Pool) : Buffer × Pool :=
  p.allocate p.chunkSize

/-- Take a buffer back. Only a chunk of the pool's own size is kept, and only while there is
room. -/
def recycle (p : Pool) (b : Buffer) : Pool :=
  let p := { p with outstanding := p.outstanding - 1 }
  if b.pooled && b.capacity == p.chunkSize && p.idle.size < p.capacity then
    { p with idle := p.idle.push b.clear }
  else p

def recycleAll (p : Pool) (bs : List Buffer) : Pool :=
  bs.foldl recycle p

/-- Make a buffer hold `needed` bytes from its front on: by moving the readable bytes to the front
or, if it is too small, into a larger buffer. Says whether the buffer was replaced. -/
def ensureCapacity (p : Pool) (b : Buffer) (needed : Nat) : Buffer × Bool × Pool :=
  if b.capacity < needed then
    let (grown, p) := p.allocate needed
    (grown.put b.readable, true, p.recycle b)
  else (b.compact, false, p)

/-- Copy bytes into as many chunks as they fill. -/
def pack (p : Pool) : Bytes → List Buffer × Pool
  | [] => ([], p)
  | b :: rest =>
    let size := max p.chunkSize 1
    let (chunk, p) := p.allocateChunk
    let (chunks, p) := pack p (rest.drop (size - 1))
    (chunk.put ((b :: rest).take size) :: chunks, p)
  termination_by data => data.length
  decreasing_by
    simp only [List.length_drop, List.length_cons]
    omega

end Pool

end AtomicCommit
