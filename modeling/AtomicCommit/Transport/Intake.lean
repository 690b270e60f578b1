import AtomicCommit.Buffer.Pool
import AtomicCommit.Wire.Framing

/-!
# Intake

The read buffer of a connection between two reads. Before a read there has to be room in it, what
the read brought is cut into frames, and behind the frames it keeps the rest, with room for the
frame that the rest begins. A frame longer than a chunk takes a larger buffer, which is given up
again when a chunk holds what is left.
-/

namespace AtomicCommit.Transport.Intake

open Wire

/-- Make room for a read: move the bytes to the front, or else take a buffer of twice the size. -/
def makeRoom (pool : Pool) (buffer : Buffer) : Buffer × Pool :=
  let buffer := if buffer.free = 0 then buffer.compact else buffer
  if buffer.free = 0 then
    let (buffer, _, pool) := pool.ensureCapacity buffer (buffer.capacity * 2)
    (buffer, pool)
  else (buffer, pool)

/-- Take in what a read brought. -/
def receive (buffer : Buffer) (data : Bytes) : Buffer :=
  (buffer.fill data).advance data.length

/-- Drop the frames of a split, and see that the frame that the rest begins will fit. -/
def keepRest (pool : Pool) (buffer : Buffer) (split : Split) : Buffer × Pool :=
  let buffer := buffer.consume (buffer.length - split.left.length)
  match split.rest with
  | .short => (if buffer.isEmpty then buffer.clear else buffer, pool)
  | .part frameLength =>
    if buffer.capacity < frameLength then
      let (buffer, _, pool) := pool.ensureCapacity buffer frameLength
      (buffer, pool)
    else
      (if buffer.capacity < buffer.start + frameLength then buffer.compact else buffer, pool)
  | .oversized _ => (buffer, pool)

/-- Go back from a larger buffer to a chunk, if that holds the bytes. -/
def shrink (pool : Pool) (buffer : Buffer) : Buffer × Pool :=
  if buffer.pooled || pool.chunkSize < buffer.length then (buffer, pool)
  else
    let (chunk, pool) := pool.allocateChunk
    (chunk.put buffer.readable, pool.recycle buffer)

end AtomicCommit.Transport.Intake
