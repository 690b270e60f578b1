import AtomicCommit.Proofs.Cut
import AtomicCommit.Proofs.Decoding
import AtomicCommit.Wire.Command
import Mathlib.Data.List.Forall2

/-!
# Letters in a stream

A letter is what one packet says to the other side: an OK packet, an error or a query, with a
sequence id. Letters are written one behind the other into a buffer, and the reader finds the frames
by their headers, takes each apart and tells by the first byte of its payload what it holds.

* **one letter** — `Letter.isFrame_append`: what is written behind the buffer is one frame, and
  `Letter.ofFrame_of_isFrame`: the letter is read back from it.
* **a stream** — `letters_come_back`: the letters come back in order with nothing left over, and a
  frame that is given another sequence id comes back with that id and nothing else changed.
-/

namespace AtomicCommit.Wire

/-! ## Letters -/

/-- What a packet says. -/
inductive Content where
  | ok (packet : OkPacket)
  | error (error : ServerError)
  | query (sql : String)
  deriving DecidableEq, Repr

/-- One packet of a conversation. -/
structure Letter where
  sequenceId : UInt8
  content : Content
  deriving DecidableEq, Repr

namespace Content

def fields : Content → List Field
  | .ok packet => packet.fields
  | .error e => e.fields
  | .query sql => [.u8 queryLead.toNat, .bytes (Text.encode sql)]

def payload (c : Content) : Bytes :=
  c.fields.flatMap Field.encode

/-- Read a payload as what its first byte says it is. -/
def ofPayload (payload : Bytes) : Except ProtocolError Content :=
  if payload.head? = some errLead then (ServerError.parse payload).map .error
  else if payload.head? = some queryLead then .ok (.query (Text.decode (payload.drop 1)))
  else (OkPacket.parse payload).map .ok

/-- It can be read back: the payload is not cut, and the state of an error has the full length. -/
structure Legible (c : Content) : Prop where
  short : c.payload.length ≤ maxPayload
  stated : ∀ e, c = .error e →
    ∃ state, e.sqlState = some state ∧ (Text.encode state).length = stateSize

end Content

namespace Letter

/-- Append a letter to a buffer. A query starts a sequence of its own. -/
def append (buffer : Bytes) (l : Letter) : Bytes :=
  match l.content with
  | .ok packet => packet.append buffer l.sequenceId
  | .error e => e.append buffer l.sequenceId
  | .query sql => appendQuery buffer sql

def packet (l : Letter) : Packet :=
  ⟨l.sequenceId, l.content.payload⟩

/-- Read a letter from a frame. -/
def ofFrame (frame : Bytes) : Except ProtocolError Letter := do
  let packet ← Packet.parse frame
  let content ← Content.ofPayload packet.payload
  .ok ⟨packet.sequenceId, content⟩

/-- Read the letters at the front of some bytes, frame by frame, and say what is left over. -/
def ofBytes (data : Bytes) : Except ProtocolError (List Letter × Bytes) := do
  let letters ← (Split.ofBytes maxPayload data).frames.mapM ofFrame
  .ok (letters, (Split.ofBytes maxPayload data).left)

/-- It can be read back, and a query has the sequence id with which queries start. -/
structure Sendable (l : Letter) : Prop where
  legible : l.content.Legible
  starts : ∀ sql, l.content = .query sql → l.sequenceId = 0

end Letter

/-! ## One letter -/

theorem Content.ofPayload_payload {c : Content} (legible : c.Legible) :
    ofPayload c.payload = .ok c := by
  cases c with
  | ok packet =>
    have read : OkPacket.parse (Content.ok packet).payload = .ok packet :=
      OkPacket.parse_payload packet
    have lead : (Content.ok packet).payload.head? = some okLead := rfl
    rw [ofPayload, if_neg (by rw [lead]; decide), if_neg (by rw [lead]; decide), read]
    rfl
  | error e =>
    obtain ⟨state, stated, length⟩ := legible.stated e rfl
    have read : ServerError.parse (Content.error e).payload = .ok e :=
      ServerError.parse_payload stated length
    have lead : (Content.error e).payload.head? = some errLead := rfl
    rw [ofPayload, if_pos lead, read]
    rfl
  | query sql =>
    have payload : (Content.query sql).payload = queryLead :: Text.encode sql := by
      show queryLead :: (Text.encode sql ++ []) = _
      rw [List.append_nil]
    rw [payload, ofPayload, if_neg (by rw [List.head?_cons]; decide), if_pos List.head?_cons,
      List.drop_succ_cons, List.drop_zero, Text.decode_encode]

namespace Letter

variable {l : Letter} {frame : Bytes}

/-- What is written behind the buffer is one frame, whatever the buffer holds. -/
theorem isFrame_append (sendable : l.Sendable) :
    ∃ frame, (∀ buffer, l.append buffer = buffer ++ frame) ∧ IsFrame frame l.packet := by
  have whole : payloadOf l.content.fields = l.content.payload :=
    List.take_of_length_le sendable.legible.short
  refine ⟨appendFrame [] l.sequenceId l.content.fields, ?_, ?_⟩
  · intro buffer
    have same : l.append buffer = appendFrame buffer l.sequenceId l.content.fields := by
      obtain ⟨sequenceId, content⟩ := l
      cases content with
      | ok | error => rfl
      | query sql =>
        obtain rfl : sequenceId = 0 := sendable.starts sql rfl
        rfl
    rw [same, appendFrame_eq, appendFrame_eq, List.nil_append]
  · have frame := isFrame_appendFrame l.sequenceId l.content.fields
    rwa [whole] at frame

/-- The letter is read back from its frame. -/
theorem ofFrame_of_isFrame (isFrame : IsFrame frame l.packet) (legible : l.content.Legible) :
    ofFrame frame = .ok l := by
  simp [ofFrame, isFrame.parses, packet, Content.ofPayload_payload legible, bind, Except.bind]

end Letter

/-! ## Streams -/

/-- A frame that can be taken apart is whole, if its payload is within the limit. -/
theorem IsFrame.isWhole {frame : Bytes} {p : Packet} {limit : Nat} (isFrame : IsFrame frame p)
    (within : p.payload.length ≤ limit) : IsWhole limit frame := by
  obtain ⟨a, b, c, rfl, length⟩ := isFrame.exists_header
  refine ⟨⟨intOf [a, b, c], p.sequenceId⟩, rfl, ?_, length ▸ within⟩
  rw [isFrame.complete, Header.frameLength, length]

/-- The frames carry these letters, one each. -/
def Carry (frames : List Bytes) (letters : List Letter) : Prop :=
  List.Forall₂ (fun frame l => IsFrame frame l.packet ∧ l.content.Legible) frames letters

namespace Carry

variable {frames : List Bytes} {letters : List Letter}

theorem packets (carry : Carry frames letters) :
    frames.mapM Packet.parse = .ok (letters.map Letter.packet) := by
  induction carry with
  | nil => rfl
  | cons first rest ih =>
    rw [List.mapM_cons, first.1.parses, ih]
    rfl

theorem contents (carry : Carry frames letters) : frames.mapM Letter.ofFrame = .ok letters := by
  induction carry with
  | nil => rfl
  | cons first rest ih =>
    rw [List.mapM_cons, Letter.ofFrame_of_isFrame first.1 first.2, ih]
    rfl

theorem whole (carry : Carry frames letters) : ∀ frame ∈ frames, IsWhole maxPayload frame := by
  induction carry with
  | nil => simp
  | cons first rest ih =>
    exact List.forall_mem_cons.mpr ⟨first.1.isWhole first.2.short, ih⟩

/-- The reader finds the frames, and nothing is left over. -/
theorem split (carry : Carry frames letters) :
    Split.ofBytes maxPayload frames.flatten = ⟨frames, [], .short⟩ :=
  ofBytes_flatten carry.whole

theorem ofBytes (carry : Carry frames letters) :
    Letter.ofBytes frames.flatten = .ok (letters, []) := by
  rw [Letter.ofBytes, carry.split, carry.contents]
  rfl

/-- With another sequence id on one frame, that letter has it and all else is as before. -/
theorem modify (carry : Carry frames letters) (i : Nat) (sequenceId : UInt8) :
    Carry (frames.modify i (setSequenceId · sequenceId))
      (letters.modify i fun l => { l with sequenceId := sequenceId }) := by
  induction carry generalizing i with
  | nil => cases i <;> exact .nil
  | cons first rest ih =>
    cases i with
    | zero => exact .cons ⟨first.1.setSequenceId sequenceId, first.2⟩ rest
    | succ i => exact .cons first (ih i)

end Carry

theorem exists_carry {letters : List Letter} (sendable : ∀ l ∈ letters, l.Sendable) :
    ∃ frames, Carry frames letters ∧
      ∀ buffer, letters.foldl Letter.append buffer = buffer ++ frames.flatten := by
  induction letters with
  | nil => exact ⟨[], .nil, fun buffer => (List.append_nil buffer).symm⟩
  | cons l rest ih =>
    rw [List.forall_mem_cons] at sendable
    obtain ⟨frame, written, isFrame⟩ := Letter.isFrame_append sendable.1
    obtain ⟨frames, carry, behind⟩ := ih sendable.2
    refine ⟨frame :: frames, .cons ⟨isFrame, sendable.1.legible⟩ carry, ?_⟩
    intro buffer
    rw [List.foldl_cons, behind, written, List.flatten_cons, List.append_assoc]

/-- **Round trip.** Letters written behind a buffer leave what it holds as it is. Read frame by
frame, what follows gives back their packets, the same letters in the same order, and nothing left
over; and with another sequence id on one of the frames, the same letters but for that id. -/
theorem letters_come_back (buffer : Bytes) {letters : List Letter}
    (sendable : ∀ l ∈ letters, l.Sendable) :
    ∃ frames : List Bytes,
      letters.foldl Letter.append buffer = buffer ++ frames.flatten ∧
      Split.ofBytes maxPayload frames.flatten = ⟨frames, [], .short⟩ ∧
      frames.mapM Packet.parse = .ok (letters.map Letter.packet) ∧
      Letter.ofBytes frames.flatten = .ok (letters, []) ∧
      ∀ i sequenceId,
        Letter.ofBytes (frames.modify i (setSequenceId · sequenceId)).flatten =
          .ok (letters.modify i fun l => { l with sequenceId := sequenceId }, []) := by
  obtain ⟨frames, carry, written⟩ := exists_carry sendable
  refine ⟨frames, written buffer, carry.split, carry.packets, carry.ofBytes, ?_⟩
  intro i sequenceId
  exact (carry.modify i sequenceId).ofBytes

/-- A query, an OK packet whose numbers take nine and three bytes, and an error. -/
def talk : List Letter :=
  [⟨0, .query "COMMIT"⟩,
    ⟨1, .ok { affectedRows := 0xFFFFFFFFFFFFFFFF, lastInsertId := 0xFB, info := "né" }⟩,
    ⟨2, .error ⟨1213, some "é001", "#1"⟩⟩]

theorem talk_comes_back :
    ∃ frames : List Bytes, talk.foldl Letter.append [0xAA] = 0xAA :: frames.flatten ∧
      Letter.ofBytes frames.flatten = .ok (talk, []) := by
  have sendable : ∀ l ∈ talk, l.Sendable := by
    simp only [talk, List.forall_mem_cons, List.not_mem_nil, false_implies, implies_true, and_true]
    refine ⟨⟨⟨by decide, by simp⟩, by simp⟩, ⟨⟨by decide, by simp⟩, by simp⟩,
      ⟨by decide, ?_⟩, by simp⟩
    intro e same
    exact ⟨"é001", by rw [← Content.error.inj same], by decide⟩
  obtain ⟨frames, written, -, -, read, -⟩ := letters_come_back [0xAA] sendable
  exact ⟨frames, written, read⟩

end AtomicCommit.Wire
