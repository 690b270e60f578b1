import AtomicCommit.Wire.Frame

/-!
# Frames in a stream

A stream of bytes is cut into frames by the lengths in their headers. `Split.ofBytes` takes the
complete frames off the front and says what the rest starts with. A frame that announces more
than the limit is not waited for, and neither it nor anything behind it is taken.
-/

namespace AtomicCommit.Wire

/-- What the bytes behind the last complete frame start with. -/
inductive Rest where
  /-- Less than a header, or nothing. -/
  | short
  /-- A frame of this length, header included, of which bytes are missing. -/
  | part (frameLength : Nat)
  /-- The header of a frame whose payload is over the limit. -/
  | oversized (payloadLength : Nat)
  deriving DecidableEq, Repr

/-- Some bytes, cut into frames. -/
structure Split where
  /-- The complete frames at the front. -/
  frames : List Bytes
  /-- The bytes behind them. -/
  left : Bytes
  rest : Rest
  deriving DecidableEq, Repr

theorem length_of_parse {data : Bytes} {header : Header} (h : Header.parse data = .ok header) :
    headerSize ≤ data.length := by
  match data, h with
  | a :: b :: c :: d :: rest, _ => simp [headerSize]

/-- Cut bytes into frames whose payloads are up to `limit` long. -/
def Split.ofBytes (limit : Nat) (data : Bytes) : Split :=
  match _parsed : Header.parse data with
  | .error _ => ⟨[], data, .short⟩
  | .ok header =>
    if limit < header.payloadLength then ⟨[], data, .oversized header.payloadLength⟩
    else
      let frame := data.take header.frameLength
      if frame.length < header.frameLength then ⟨[], data, .part header.frameLength⟩
      else
        let behind := ofBytes limit (data.drop header.frameLength)
        { behind with frames := frame :: behind.frames }
  termination_by data.length
  decreasing_by
    have := length_of_parse _parsed
    simp only [headerSize, Header.frameLength] at *
    simp only [List.length_drop]
    omega

end AtomicCommit.Wire
