import AtomicCommit.Proofs.Correspondence

/-!
# Frames under construction

A builder appends to a buffer that may hold other frames already. It reserves a header, appends what
the fields encode to, and at the end cuts the payload, if it is too long for any header, and puts
its length in front of it, at an offset that it has kept from the beginning.

* **fields** — `Field.reads_encode` and `readOff_encode`: what is appended is read back field by
  field.
* **one frame** — `frameOf` is what stands behind the buffer in the end. It is read as one frame,
  whatever follows it (`IsFrame.parse_append`), and `builder_leaves_one_frame` spells it out.
* **a buffer** — `builders_leave_frames`: several builders, one after the other, leave one frame
  each.
-/

namespace AtomicCommit.Wire

/-! ## Fields -/

/-- A reader of the field's kind takes its value off the front of some bytes. -/
def Field.Reads : Field → (data rest : Bytes) → Prop
  | .u8 n, data, rest => readByte data = .ok (UInt8.ofNat n, rest)
  | .u16 n, data, rest => readInt 2 data = .ok (n % 2 ^ 16, rest)
  | .lenenc n, data, rest => readLenenc data = .ok (n % 2 ^ 64, rest)
  | .bytes content, data, rest => readBytes content.length data = .ok (content, rest)

/-- The values of the fields are taken off the front of some bytes, one after the other. -/
inductive ReadOff : List Field → (data rest : Bytes) → Prop
  | nil (data : Bytes) : ReadOff [] data data
  | cons {field : Field} {fields : List Field} {data behind rest : Bytes}
      (first : field.Reads data behind) (others : ReadOff fields behind rest) :
      ReadOff (field :: fields) data rest

theorem readLenenc_writeLenenc_mod (n : Nat) (rest : Bytes) :
    readLenenc (writeLenenc n ++ rest) = .ok (n % 2 ^ 64, rest) := by
  by_cases word : n < 2 ^ 64
  · rw [Nat.mod_eq_of_lt word]
    exact readLenenc_writeLenenc word rest
  · -- of a larger number the eight lowest bytes are written
    have long : writeLenenc n = 0xFE :: writeInt 8 n := by
      unfold writeLenenc
      rw [if_neg (by omega), if_neg (by omega), if_neg (by omega)]
    rw [long, List.cons_append, readLenenc_of_announced .eight]
    exact readInt_writeInt 8 n rest

theorem Field.reads_encode (field : Field) (rest : Bytes) :
    field.Reads (field.encode ++ rest) rest := by
  cases field with
  | u8 n => rfl
  | u16 n => exact readInt_writeInt 2 n rest
  | lenenc n => exact readLenenc_writeLenenc_mod n rest
  | bytes content =>
    show readBytes content.length (content ++ rest) = _
    rw [readBytes, if_neg (by simp), List.take_left, List.drop_left]

theorem readOff_encode (fields : List Field) (rest : Bytes) :
    ReadOff fields (fields.flatMap Field.encode ++ rest) rest := by
  induction fields with
  | nil => exact .nil rest
  | cons field fields ih =>
    rw [List.flatMap_cons, List.append_assoc]
    exact .cons (field.reads_encode _) ih

/-! ## One frame -/

/-- The frame that a builder leaves. -/
def frameOf (sequenceId : UInt8) (fields : List Field) : Bytes :=
  writeInt 3 (payloadOf fields).length ++ sequenceId :: payloadOf fields

theorem isFrame_frameOf (sequenceId : UInt8) (fields : List Field) :
    IsFrame (frameOf sequenceId fields) ⟨sequenceId, payloadOf fields⟩ :=
  isFrame_of_header (length_payloadOf_le fields)

/-- Bytes behind a frame make no difference to the packet in it. -/
theorem IsFrame.parse_append {frame : Bytes} {p : Packet} (isFrame : IsFrame frame p)
    (behind : Bytes) : Packet.parse (frame ++ behind) = .ok p := by
  obtain ⟨a, b, c, rfl, length⟩ := isFrame.exists_header
  show Packet.parse (a :: b :: c :: p.sequenceId :: (p.payload ++ behind)) = _
  rw [parse_header, length, readBytes, if_neg (by simp), List.take_left]
  rfl

/-- **One frame.** Whatever a buffer holds stays as it is, and behind it stands one frame in the
end. The three bytes in front say how long the payload is, at most as long as three bytes can say,
and the fourth is the sequence id. The payload is that much of what the fields encode to, one after
the other, each of which is read back as what was written. So the frame is taken apart into just
this, whatever follows it, and a stream of frames goes on behind it. -/
theorem builder_leaves_one_frame (buffer : Bytes) (sequenceId : UInt8) (fields : List Field) :
    ∃ frame : Bytes,
      (fields.foldl Builder.write (Builder.start buffer sequenceId)).finish = buffer ++ frame ∧
      intOf (frame.take 3) = min (fields.flatMap Field.encode).length 0xFFFFFF ∧
      frame[3]? = some sequenceId ∧
      frame.drop 4 = (fields.flatMap Field.encode).take (intOf (frame.take 3)) ∧
      frame.length = 4 + intOf (frame.take 3) ∧
      ReadOff fields (fields.flatMap Field.encode) [] ∧
      ∀ behind, Packet.parse (frame ++ behind) = .ok ⟨sequenceId, frame.drop 4⟩ ∧
        Split.ofBytes maxPayload (frame ++ behind) =
          { Split.ofBytes maxPayload behind with
            frames := frame :: (Split.ofBytes maxPayload behind).frames } := by
  have isFrame := isFrame_frameOf sequenceId fields
  obtain ⟨a, b, c, spelled, announced⟩ := isFrame.exists_header
  have short := length_payloadOf_le fields
  have length : (payloadOf fields).length = min (fields.flatMap Field.encode).length 0xFFFFFF := by
    rw [payloadOf, List.length_take, Nat.min_comm]
    rfl
  -- what the four reserved bytes have become is told by the length that was put over them
  refine ⟨frameOf sequenceId fields, appendFrame_eq buffer sequenceId fields, ?_⟩
  rw [spelled] at isFrame ⊢
  refine ⟨announced.trans length, rfl, ?_, ?_, ?_, ?_⟩
  · show payloadOf fields = List.take (intOf [a, b, c]) _
    rw [announced, length, Nat.min_comm, ← List.take_eq_take_min]
    rfl
  · show (payloadOf fields).length + 4 = 4 + intOf [a, b, c]
    rw [announced, Nat.add_comm]
  · have read := readOff_encode fields []
    rwa [List.append_nil] at read
  · intro behind
    exact ⟨isFrame.parse_append behind, (isFrame.isWhole short).ofBytes_append behind⟩

example : appendFrame [0xAA] 3 [.u8 3, .bytes [67, 79]] = [0xAA, 3, 0, 0, 3, 3, 67, 79] := by decide

/-! ## A buffer of frames -/

/-- Builders that start one after the other on a buffer leave one frame each, which a reader finds
and takes apart. -/
theorem builders_leave_frames (buffer : Bytes) (packets : List (UInt8 × List Field)) :
    ∃ frames : List Bytes,
      packets.foldl (fun buffer p => appendFrame buffer p.1 p.2) buffer =
        buffer ++ frames.flatten ∧
      Split.ofBytes maxPayload frames.flatten = ⟨frames, [], .short⟩ ∧
      frames.mapM Packet.parse = .ok (packets.map fun p => ⟨p.1, payloadOf p.2⟩) := by
  refine ⟨packets.map fun p => frameOf p.1 p.2, ?_, ?_, ?_⟩
  · induction packets generalizing buffer with
    | nil => simp
    | cons p packets ih =>
      rw [List.foldl_cons, ih, appendFrame_eq, List.map_cons, List.flatten_cons, List.append_assoc]
      rfl
  · apply ofBytes_flatten
    intro frame mem
    obtain ⟨p, -, rfl⟩ := List.mem_map.mp mem
    exact (isFrame_frameOf p.1 p.2).isWhole (length_payloadOf_le p.2)
  · induction packets with
    | nil => rfl
    | cons p packets ih =>
      rw [List.map_cons, List.mapM_cons, (isFrame_frameOf p.1 p.2).parses, ih]
      rfl

end AtomicCommit.Wire
