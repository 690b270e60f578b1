import AtomicCommit.Wire.Integer

/-!
# Frames

A frame is a header of four bytes, three of payload length and one of sequence id, followed by
the payload. `Builder` writes one at the end of a buffer: it reserves the header, appends the
fields and fills in the length when it is known. A payload over `maxPayload` is cut, so the
length in the header is always the length of what follows.
-/

namespace AtomicCommit.Wire

/-- Bytes of a header. -/
def headerSize : Nat := 4

/-- The longest payload that three bytes of length can announce. -/
def maxPayload : Nat := 0xFFFFFF

/-! ## Headers -/

/-- The front of a frame. -/
structure Header where
  payloadLength : Nat
  sequenceId : UInt8
  deriving DecidableEq, Repr

namespace Header

/-- Read the header at the front of some bytes. -/
def parse : Bytes → Except ProtocolError Header
  | a :: b :: c :: sequenceId :: _ => .ok ⟨intOf [a, b, c], sequenceId⟩
  | short => .error (.truncatedHeader short.length)

/-- Header and payload together. -/
def frameLength (h : Header) : Nat :=
  headerSize + h.payloadLength

end Header

/-! ## Building -/

/-- One value in a payload. -/
inductive Field where
  | u8 (n : Nat)
  | u16 (n : Nat)
  | lenenc (n : Nat)
  | bytes (data : Bytes)
  deriving DecidableEq, Repr

/-- The bytes of a field. -/
def Field.encode : Field → Bytes
  | .u8 n => writeInt 1 n
  | .u16 n => writeInt 2 n
  | .lenenc n => writeLenenc n
  | .bytes data => data

/-- Put `patch` over the bytes of `data` from `offset` on. -/
def overwrite (data : Bytes) (offset : Nat) (patch : Bytes) : Bytes :=
  data.take offset ++ patch ++ data.drop (offset + patch.length)

/-- A frame under construction at an offset of a buffer. -/
structure Builder where
  buffer : Bytes
  offset : Nat
  deriving DecidableEq, Repr

namespace Builder

/-- Reserve a header behind what the buffer already holds. -/
def start (buffer : Bytes) (sequenceId : UInt8) : Builder :=
  ⟨buffer ++ [0, 0, 0, sequenceId], buffer.length⟩

def write (b : Builder) (field : Field) : Builder :=
  { b with buffer := b.buffer ++ field.encode }

/-- Cut the payload to `maxPayload` and fill in its length. -/
def finish (b : Builder) : Bytes :=
  let kept := b.buffer.take (b.offset + headerSize + maxPayload)
  overwrite kept b.offset (writeInt 3 (kept.length - b.offset - headerSize))

end Builder

def appendFrame (buffer : Bytes) (sequenceId : UInt8) (fields : List Field) : Bytes :=
  (fields.foldl Builder.write (Builder.start buffer sequenceId)).finish

/-- Give an encoded frame another sequence id. Bytes too few to hold one stay as they are. -/
def setSequenceId (frame : Bytes) (sequenceId : UInt8) : Bytes :=
  frame.set 3 sequenceId

end AtomicCommit.Wire
