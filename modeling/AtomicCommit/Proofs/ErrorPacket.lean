import AtomicCommit.Proofs.Decoding

/-!
# Errors there and back

An error travels with a state of five bytes behind a marker, whatever state it was given: a longer
one is cut in the middle of a character if need be, a shorter one is filled up, and an error without
one has a general state. So what comes back is the error that was written but for its state. The
other way round nothing is lost as long as the bytes of the state and of the message are text: the
error that is read off a payload is written as that payload.

* **text** — `Text.isUtf8_iff`: bytes are text if reading them loses nothing.
* **states** — `stateBytes_eq_take`: the bytes written for a state are the first five of the state
  with a filling behind it.
* **payloads** — `payloadOf_fields`: a message that is short enough is not cut.
  `fields_of_stated`: what is read off a payload is written as it was.
-/

namespace AtomicCommit

/-! ## Text -/

namespace Text

/-- The bytes are the UTF-8 form of a text. -/
def IsUtf8 (bytes : Bytes) : Prop :=
  bytes.toByteArray.IsValidUTF8

instance (bytes : Bytes) : Decidable (IsUtf8 bytes) :=
  decidable_of_iff _ ByteArray.validateUTF8_eq_true_iff

/-- Text is what reading loses nothing of. -/
theorem isUtf8_iff {bytes : Bytes} : IsUtf8 bytes ↔ encode (decode bytes) = bytes := by
  constructor
  · rintro ⟨chars, form⟩
    have same : bytes = encode (String.ofList chars) := by
      have lists := congrArg (fun array : ByteArray => array.data.toList) form
      simpa only [List.utf8Encode, List.toList_data_toByteArray, encode, String.toList_ofList]
        using lists
    rw [same, decode_encode]
  · intro same
    exact ⟨(decode bytes).toList, congrArg List.toByteArray same.symm⟩

end Text

/-! ## States -/

namespace Wire

/-- The bytes written for a state. -/
theorem stateBytes_eq_take (state : String) :
    stateBytes state = (Text.encode state ++ List.replicate stateSize 0x30).take stateSize := by
  simp only [stateBytes, List.take_append, List.take_replicate, List.length_take]
  congr 2
  omega

/-! ## Payloads -/

theorem payloadOf_of_le {fields : List Field}
    (short : (fields.flatMap Field.encode).length ≤ maxPayload) :
    payloadOf fields = fields.flatMap Field.encode :=
  List.take_of_length_le short

end Wire

namespace ServerError

open Wire

/-- The bytes of an error in front of its message: the lead, the code, the marker and the state. -/
def preamble : Nat :=
  9

theorem length_fields (e : ServerError) :
    (e.fields.flatMap Field.encode).length = preamble + (Text.encode e.message).length := by
  simp only [fields, List.flatMap_cons, List.flatMap_nil, Field.encode, List.length_append,
    length_writeInt, length_stateBytes, List.length_nil, stateSize, preamble]
  omega

/-- A message that is short enough is not cut. -/
theorem payloadOf_fields {e : ServerError}
    (short : (Text.encode e.message).length ≤ maxPayload - preamble) :
    payloadOf e.fields = e.fields.flatMap Field.encode := by
  apply payloadOf_of_le
  rw [length_fields]
  unfold maxPayload preamble at *
  omega

/-- What is read off a payload whose state and message are text is written as that payload. -/
theorem fields_of_stated {low high : UInt8} {state message : Bytes}
    (length : state.length = stateSize) (isState : Text.IsUtf8 state)
    (isMessage : Text.IsUtf8 message) :
    (ServerError.mk (UInt16.ofNat (intOf [low, high])) (some (Text.decode state))
      (Text.decode message)).fields.flatMap Field.encode =
        errLead :: low :: high :: stateMarker :: (state ++ message) := by
  rw [Text.isUtf8_iff] at isState isMessage
  have code : writeInt 2 (intOf [low, high]) = [low, high] := writeInt_intOf [low, high]
  have small : intOf [low, high] < 256 ^ 2 := intOf_lt [low, high]
  have number : (UInt16.ofNat (intOf [low, high])).toNat = intOf [low, high] :=
    UInt16.toNat_ofNat_of_lt' small
  have kept : stateBytes (Text.decode state) = state := by
    rw [stateBytes_of_length (by rw [isState, length]), isState]
  simp only [fields, List.flatMap_cons, List.flatMap_nil, Field.encode, List.append_nil,
    Option.getD_some, number, code, kept, isMessage]
  rfl

/-- A payload that is long enough and has its marker in place, taken apart. -/
theorem exists_of_marked {payload : Bytes} (long : preamble ≤ payload.length)
    (lead : payload.head? = some errLead) (marker : payload[3]? = some stateMarker) :
    ∃ low high state message,
      payload = errLead :: low :: high :: stateMarker :: (state ++ message) ∧
      state.length = stateSize ∧ (payload.drop 4).take stateSize = state ∧
      payload.drop preamble = message := by
  match payload, long with
  | first :: low :: high :: fourth :: rest, long =>
    obtain rfl : first = errLead := Option.some.inj lead
    obtain rfl : fourth = stateMarker := Option.some.inj marker
    refine ⟨low, high, rest.take stateSize, rest.drop stateSize, ?_, ?_, rfl, rfl⟩
    · rw [List.take_append_drop]
    · simp only [preamble, List.length_cons] at long
      apply List.length_take_of_le
      unfold stateSize
      omega
  | [], long | [_], long | [_, _], long | [_, _, _], long =>
    simp [preamble] at long

end ServerError

open Wire

/-- **Errors there and back.** An error whose message leaves room for what stands in front of it is
written as one frame behind what the buffer holds, and read back from it as it was, but for its
state: that is the text of the first five bytes of the state it was given, or of the general one,
with zeros behind if there are not so many. A payload that has a marker, with text for a state and
text for a message behind it, is read as an error, and the frame that is written for this error has
that same payload. -/
theorem errors_there_and_back (buffer : Bytes) (sequenceId : UInt8) :
    (∀ e : ServerError, (Text.encode e.message).length ≤ maxPayload - 9 →
      ∃ frame payload, e.append buffer sequenceId = buffer ++ frame ∧
        IsFrame frame ⟨sequenceId, payload⟩ ∧
        ServerError.parse payload = .ok { e with sqlState := some (Text.decode
          ((Text.encode (e.sqlState.getD "HY000") ++ List.replicate 5 0x30).take 5)) }) ∧
    ∀ payload : Bytes, 9 ≤ payload.length → payload.length ≤ maxPayload →
      payload.head? = some errLead → payload[3]? = some stateMarker →
      Text.IsUtf8 ((payload.drop 4).take 5) → Text.IsUtf8 (payload.drop 9) →
      ∃ e frame, ServerError.parse payload = .ok e ∧ e.append buffer sequenceId = buffer ++ frame ∧
        IsFrame frame ⟨sequenceId, payload⟩ := by
  constructor
  · intro e short
    have whole := ServerError.payloadOf_fields short
    refine ⟨_, payloadOf e.fields, appendFrame_eq buffer sequenceId e.fields,
      isFrame_of_header (length_payloadOf_le e.fields), ?_⟩
    rw [whole, ServerError.parse_fields, stateBytes_eq_take]
    rfl
  · intro payload long short lead marker isState isMessage
    -- the payload is taken apart, and written again byte for byte
    obtain ⟨low, high, state, message, form, length, stated, worded⟩ :=
      ServerError.exists_of_marked long lead marker
    have written := @ServerError.fields_of_stated low high state message length
      (stated ▸ isState) (worded ▸ isMessage)
    have read := ServerError.parse_eq_ok_iff.mpr
      (@ServerError.Words.stated low high _ message length)
    rw [← form] at written read
    have whole := payloadOf_of_le (written ▸ short)
    rw [written] at whole
    refine ⟨_, _, read, appendFrame_eq buffer sequenceId _, ?_⟩
    rw [whole]
    exact isFrame_of_header short

/-- The case of a state that is cut in the middle of its last character, and of the smallest payload
that has a state. -/
theorem cut_state_comes_back_as_text :
    (∃ frame payload, (ServerError.mk 1213 (some "1234é") "#").append [7] 1 = 7 :: frame ∧
      IsFrame frame ⟨1, payload⟩ ∧
      ServerError.parse payload = .ok ⟨1213, some "1234\uFFFD", "#"⟩) ∧
    ∃ e frame, ServerError.parse [0xFF, 0x51, 0x04, 0x23, 0x30, 0x38, 0x53, 0x30, 0x31] = .ok e ∧
      e.append [7] 1 = 7 :: frame ∧
      IsFrame frame ⟨1, [0xFF, 0x51, 0x04, 0x23, 0x30, 0x38, 0x53, 0x30, 0x31]⟩ := by
  obtain ⟨written, read⟩ := errors_there_and_back [7] 1
  constructor
  · obtain ⟨frame, payload, appended, isFrame, parsed⟩ :=
      written ⟨1213, some "1234é", "#"⟩ (by decide)
    exact ⟨frame, payload, appended, isFrame, parsed⟩
  · obtain ⟨e, frame, parsed, appended, isFrame⟩ :=
      read [0xFF, 0x51, 0x04, 0x23, 0x30, 0x38, 0x53, 0x30, 0x31] (by decide) (by decide) rfl rfl
        (Text.isUtf8_iff.mpr rfl) (Text.isUtf8_iff.mpr rfl)
    exact ⟨e, frame, parsed, appended, isFrame⟩

end AtomicCommit
