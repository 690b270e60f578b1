import AtomicCommit.Wire.Packet
import Mathlib.Algebra.Group.Nat.Defs

/-!
# Frames that are written

What `appendFrame` puts behind a buffer is one complete frame: a header whose length is that of the
payload, the sequence id, and the payload, which is what the fields encode to, cut to the longest
payload that a header can announce (`appendFrame_eq`). Taking it apart gives the sequence id and
the payload back (`isFrame_appendFrame`), and giving a frame another sequence id changes nothing
else (`IsFrame.setSequenceId`).
-/

namespace AtomicCommit.Wire

/-! ## Integers -/

theorem intOf_writeInt (width n : Nat) : intOf (writeInt width n) = n % 256 ^ width := by
  induction width generalizing n with
  | zero => simp [writeInt, intOf, Nat.mod_one]
  | succ width ih =>
    rw [writeInt, intOf, ih, UInt8.toNat_ofNat', show 256 ^ (width + 1) = 256 * 256 ^ width from
      Nat.pow_succ', Nat.mod_mul]

/-- A number whose bytes these are is written as they are. -/
theorem writeInt_intOf (bytes : Bytes) : writeInt bytes.length (intOf bytes) = bytes := by
  induction bytes with
  | nil => rfl
  | cons b bytes ih =>
    have low : UInt8.ofNat (b.toNat + 256 * intOf bytes) = b := by
      rw [← UInt8.toNat_inj, UInt8.toNat_ofNat']
      have := b.toNat_lt
      omega
    have high : (b.toNat + 256 * intOf bytes) / 256 = intOf bytes := by
      have := b.toNat_lt
      omega
    rw [List.length_cons, intOf, writeInt, low, high, ih]

/-- So many bytes hold no larger number. -/
theorem intOf_lt (bytes : Bytes) : intOf bytes < 256 ^ bytes.length := by
  calc intOf bytes
    _ = intOf (writeInt bytes.length (intOf bytes)) := by rw [writeInt_intOf]
    _ = intOf bytes % 256 ^ bytes.length := intOf_writeInt _ _
    _ < 256 ^ bytes.length := Nat.mod_lt _ (Nat.pow_pos (by decide))

/-! ## Payloads -/

/-- What the fields of a frame encode to, cut to the longest payload there is. -/
def payloadOf (fields : List Field) : Bytes :=
  (fields.flatMap Field.encode).take maxPayload

theorem length_payloadOf_le (fields : List Field) : (payloadOf fields).length ≤ maxPayload :=
  List.length_take_le ..

theorem Builder.foldl_write (b : Builder) (fields : List Field) :
    fields.foldl Builder.write b = ⟨b.buffer ++ fields.flatMap Field.encode, b.offset⟩ := by
  induction fields generalizing b with
  | nil => simp
  | cons field fields ih => simp [ih, Builder.write, List.append_assoc]

/-- A frame is a header, the sequence id and the payload, behind what the buffer holds. -/
theorem appendFrame_eq (buffer : Bytes) (sequenceId : UInt8) (fields : List Field) :
    appendFrame buffer sequenceId fields =
      buffer ++ (writeInt 3 (payloadOf fields).length ++ sequenceId :: payloadOf fields) := by
  have kept : (buffer ++ [0, 0, 0, sequenceId] ++ fields.flatMap Field.encode).take
      (buffer.length + headerSize + maxPayload) =
        buffer ++ [0, 0, 0, sequenceId] ++ payloadOf fields := by
    have front : buffer.length + headerSize = (buffer ++ [0, 0, 0, sequenceId]).length := by
      simp [headerSize]
    rw [front, List.take_length_add_append]
    rfl
  have length : (buffer ++ [0, 0, 0, sequenceId] ++ payloadOf fields).length - buffer.length -
      headerSize = (payloadOf fields).length := by
    simp only [List.length_append, List.length_cons, List.length_nil, headerSize]
    omega
  unfold appendFrame
  rw [Builder.foldl_write]
  simp only [Builder.finish, Builder.start]
  rw [kept, length, overwrite, length_writeInt, List.append_assoc buffer, List.take_left,
    List.drop_length_add_append]
  simp

/-! ## Frames taken apart -/

/-- The bytes are one complete frame, and this is it taken apart. -/
structure IsFrame (frame : Bytes) (p : Packet) : Prop where
  parses : Packet.parse frame = .ok p
  complete : frame.length = headerSize + p.payload.length

theorem parse_header (a b c sequenceId : UInt8) (rest : Bytes) :
    Packet.parse (a :: b :: c :: sequenceId :: rest) =
      (readBytes (intOf [a, b, c]) rest).map fun taken => ⟨sequenceId, taken.1⟩ := by
  show (readBytes (intOf [a, b, c]) rest >>= _) = _
  cases readBytes (intOf [a, b, c]) rest <;> rfl

theorem isFrame_of_header {sequenceId : UInt8} {payload : Bytes}
    (short : payload.length ≤ maxPayload) :
    IsFrame (writeInt 3 payload.length ++ sequenceId :: payload) ⟨sequenceId, payload⟩ := by
  have length : intOf (writeInt 3 payload.length) = payload.length := by
    rw [intOf_writeInt]
    unfold maxPayload at short
    exact Nat.mod_eq_of_lt (by omega)
  refine ⟨?_, ?_⟩
  · show Packet.parse (_ :: _ :: _ :: sequenceId :: payload) = _
    rw [parse_header, show intOf [_, _, _] = payload.length from length, readBytes,
      if_neg (Nat.lt_irrefl _), List.take_length]
    rfl
  · rw [List.length_append, length_writeInt, List.length_cons]
    show 3 + (payload.length + 1) = 4 + payload.length
    omega

/-- **Round trip.** A written frame parses to its sequence id and its payload. -/
theorem isFrame_appendFrame (sequenceId : UInt8) (fields : List Field) :
    IsFrame (appendFrame [] sequenceId fields) ⟨sequenceId, payloadOf fields⟩ := by
  rw [appendFrame_eq, List.nil_append]
  exact isFrame_of_header (length_payloadOf_le fields)

/-- A frame spelled out: three bytes of length, the sequence id, and the payload. -/
theorem IsFrame.exists_header {frame : Bytes} {p : Packet} (h : IsFrame frame p) :
    ∃ a b c, frame = a :: b :: c :: p.sequenceId :: p.payload ∧
      intOf [a, b, c] = p.payload.length := by
  obtain ⟨parses, complete⟩ := h
  match frame, complete with
  | a :: b :: c :: sequenceId :: rest, complete =>
    rw [parse_header, readBytes] at parses
    by_cases short : rest.length < intOf [a, b, c]
    · simp [short, Except.map] at parses
    · rw [if_neg short] at parses
      obtain rfl : _ = p := Except.ok.inj parses
      have taken := List.length_take_of_le (Nat.le_of_not_lt short)
      have whole : intOf [a, b, c] = rest.length := by
        simp only [List.length_cons, taken, headerSize] at complete
        omega
      refine ⟨a, b, c, ?_, taken.symm⟩
      rw [whole, List.take_length]
  | [], complete | [_], complete | [_, _], complete | [_, _, _], complete =>
    simp [headerSize] at complete
    omega

theorem IsFrame.setSequenceId {frame : Bytes} {p : Packet} (h : IsFrame frame p)
    (sequenceId : UInt8) : IsFrame (setSequenceId frame sequenceId) ⟨sequenceId, p.payload⟩ := by
  obtain ⟨a, b, c, rfl, length⟩ := h.exists_header
  refine ⟨?_, h.complete⟩
  show Packet.parse (a :: b :: c :: sequenceId :: p.payload) = _
  rw [parse_header, length, readBytes, if_neg (Nat.lt_irrefl _), List.take_length]
  rfl

/-! ## Kinds -/

theorem isFrame_okPacket (sequenceId : UInt8) (ok : OkPacket) :
    ∃ p, IsFrame (OkPacket.append [] sequenceId ok) p ∧ p.sequenceId = sequenceId ∧
      p.isOk = true :=
  ⟨_, isFrame_appendFrame sequenceId ok.fields, rfl, rfl⟩

theorem isFrame_serverError (sequenceId : UInt8) (e : ServerError) :
    ∃ p, IsFrame (ServerError.append [] sequenceId e) p ∧ p.sequenceId = sequenceId ∧
      p.isError = true :=
  ⟨_, isFrame_appendFrame sequenceId e.fields, rfl, rfl⟩

end AtomicCommit.Wire
