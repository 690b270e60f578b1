import AtomicCommit.Proofs.Framing
import Mathlib.Tactic.IntervalCases

/-!
# Reading back what was written

What the readers of texts, numbers and packets make of what the writers put down.

* **text** — `Text.decode_encode`: a text is read back from its UTF-8 form, character by character
  (`Decoder.foldl_feed_char`).
* **numbers** — `readLenenc_eq_ok_iff`: a length-encoded number is read off exactly the forms in
  `Lenenc`, and the form that is written is one of them (`lenenc_writeLenenc`).
* **packets** — `OkPacket.parse_payload` and `ServerError.parse_fields`: an OK packet and an error
  are read back from their payloads, the state of an error as it was filled up or cut.
  `ServerError.parse_eq_ok_iff` says which payloads are read as an error at all.
-/

namespace AtomicCommit

/-! ## Text -/

namespace Text

/-- The bytes behind the first byte of the character with this number. -/
def tails : (owed : Nat) → Nat → Bytes
  | 0, _ => []
  | owed + 1, v => UInt8.ofNat (v / 64 ^ owed % 64 + 0x80) :: tails owed v

namespace Decoder

/-- A byte that continues a character, in the range where it may lie. -/
theorem feed_await (d : Decoder) {owed bits n : Nat} {low high : UInt8}
    (least : low.toNat ≤ n % 64 + 0x80) (most : n % 64 + 0x80 ≤ high.toNat) :
    (d.await owed low high bits).feed (UInt8.ofNat (n % 64 + 0x80)) =
      if owed ≤ 1 then d.emit (Char.ofNat (bits * 64 + n % 64))
      else d.await (owed - 1) 0x80 0xBF (bits * 64 + n % 64) := by
  have value : (UInt8.ofNat (n % 64 + 0x80)).toNat = n % 64 + 0x80 := by
    rw [UInt8.toNat_ofNat']
    exact Nat.mod_eq_of_lt (by omega)
  have inRange : low ≤ UInt8.ofNat (n % 64 + 0x80) ∧ UInt8.ofNat (n % 64 + 0x80) ≤ high := by
    rw [UInt8.le_iff_toNat_le, UInt8.le_iff_toNat_le, value]
    exact ⟨least, most⟩
  have sixBits : (n % 64 + 0x80) % 64 = n % 64 := by omega
  simp only [await, feed]
  rw [if_pos inRange, value, sixBits]
  rfl

/-- Fed all that a character owes, a decoder produces it. -/
theorem foldl_feed_tails (d : Decoder) {owed v : Nat} {low high : UInt8}
    (least : low.toNat ≤ v / 64 ^ owed % 64 + 0x80)
    (most : v / 64 ^ owed % 64 + 0x80 ≤ high.toNat) :
    (tails (owed + 1) v).foldl feed (d.await (owed + 1) low high (v / 64 ^ (owed + 1))) =
      d.emit (Char.ofNat v) := by
  induction owed generalizing low high with
  | zero =>
    have bits : v / 64 ^ (0 + 1) * 64 + v / 64 ^ 0 % 64 = v := by
      simp only [Nat.pow_zero, Nat.div_one, Nat.zero_add, Nat.pow_one]
      exact Nat.div_add_mod' _ _
    rw [tails, List.foldl_cons, feed_await d least most, bits]
    rfl
  | succ owed ih =>
    have bits : v / 64 ^ (owed + 1 + 1) * 64 + v / 64 ^ (owed + 1) % 64 = v / 64 ^ (owed + 1) := by
      rw [Nat.pow_succ 64 (owed + 1), ← Nat.div_div_eq_div_mul]
      exact Nat.div_add_mod' _ _
    rw [tails, List.foldl_cons, feed_await d least most, bits, if_neg (by omega)]
    apply ih
    · exact Nat.le_add_left ..
    · show _ ≤ 0xBF
      omega

theorem lead_two (d : Decoder) {n : Nat} (least : 2 ≤ n) (most : n < 32) :
    d.lead (UInt8.ofNat (n + 0xC0)) = d.await 1 0x80 0xBF n := by
  interval_cases n <;> rfl

theorem lead_three (d : Decoder) {n : Nat} (most : n < 16) :
    d.lead (UInt8.ofNat (n + 0xE0)) =
      d.await 2 (if n = 0 then 0xA0 else 0x80) (if n = 13 then 0x9F else 0xBF) n := by
  interval_cases n <;> rfl

theorem lead_four (d : Decoder) {n : Nat} (most : n < 5) :
    d.lead (UInt8.ofNat (n + 0xF0)) =
      d.await 3 (if n = 0 then 0x90 else 0x80) (if n = 4 then 0x8F else 0xBF) n := by
  interval_cases n <;> rfl

/-- Fed the form of a character, a decoder at rest produces that character. -/
theorem foldl_feed_char (cs : List Char) (c : Char) :
    (String.utf8EncodeChar c).foldl feed ⟨.rest, cs⟩ = ⟨.rest, c :: cs⟩ := by
  have back : Char.ofNat c.val.toNat = c := Char.ofNat_toNat c
  have scalar : c.val.toNat < 0xD800 ∨ 0xDFFF < c.val.toNat ∧ c.val.toNat < 0x110000 := c.valid
  have atRest : ∀ b, feed ⟨.rest, cs⟩ b = lead ⟨.rest, cs⟩ b := fun _ => rfl
  unfold String.utf8EncodeChar
  generalize c.val.toNat = v at back scalar
  dsimp only
  have fed {owed : Nat} {low high : UInt8} :=
    @foldl_feed_tails ⟨.rest, cs⟩ owed v low high
  by_cases one : v ≤ 0x7F
  · have value : (UInt8.ofNat v).toNat = v := by
      rw [UInt8.toNat_ofNat']
      exact Nat.mod_eq_of_lt (by omega)
    have small : UInt8.ofNat v < 0x80 := by
      rw [UInt8.lt_iff_toNat_lt, value]
      exact Nat.lt_succ_of_le one
    rw [if_pos one, List.foldl_cons, List.foldl_nil, atRest, lead, if_pos small, value, back]
    rfl
  rw [if_neg one]
  by_cases two : v ≤ 0x7FF
  · have high : v / 64 % 32 = v / 64 := Nat.mod_eq_of_lt (by omega)
    rw [if_pos two, high, List.foldl_cons, atRest, lead_two _ (by omega) (by omega)]
    specialize @fed 0
    simp only [tails, Nat.reduceAdd, Nat.reducePow, Nat.div_one, back] at fed
    apply fed
    · exact Nat.le_add_left ..
    · show _ ≤ 0xBF
      omega
  rw [if_neg two]
  by_cases three : v ≤ 0xFFFF
  · have high : v / 4096 % 16 = v / 4096 := Nat.mod_eq_of_lt (by omega)
    rw [if_pos three, high, List.foldl_cons, atRest, lead_three _ (by omega)]
    specialize @fed 1
    simp only [tails, Nat.reduceAdd, Nat.reducePow, Nat.div_one, back] at fed
    apply fed
    -- no shorter form would do, and surrogates are no characters
    · split
      · simp
        omega
      · exact Nat.le_add_left ..
    · split <;> (simp; omega)
  · have high : v / 262144 % 8 = v / 262144 := Nat.mod_eq_of_lt (by omega)
    rw [if_neg three, high, List.foldl_cons, atRest, lead_four _ (by omega)]
    specialize @fed 2
    simp only [tails, Nat.reduceAdd, Nat.reducePow, Nat.div_one, back] at fed
    apply fed
    · split
      · simp
        omega
      · exact Nat.le_add_left ..
    · split <;> (simp; omega)

theorem foldl_feed_chars (cs : List Char) (text : List Char) :
    (text.flatMap String.utf8EncodeChar).foldl feed ⟨.rest, cs⟩ =
      ⟨.rest, text.reverse ++ cs⟩ := by
  induction text generalizing cs with
  | nil => rfl
  | cons c text ih =>
    rw [List.flatMap_cons, List.foldl_append, foldl_feed_char, ih, List.reverse_cons,
      List.append_assoc]
    rfl

end Decoder

/-- **Round trip.** A text is read back from its UTF-8 form. -/
@[simp] theorem decode_encode (text : String) : decode (encode text) = text := by
  unfold decode encode
  rw [Decoder.foldl_feed_chars, List.append_nil]
  show String.ofList text.toList.reverse.reverse = text
  rw [List.reverse_reverse, String.ofList_toList]

end Text

namespace Wire

/-! ## Numbers -/

theorem readInt_eq_ok_iff {width n : Nat} {data rest : Bytes} :
    readInt width data = .ok (n, rest) ↔
      ∃ bytes : Bytes, bytes.length = width ∧ intOf bytes = n ∧ data = bytes ++ rest := by
  unfold readInt
  constructor
  · intro read
    by_cases short : data.length < width
    · rw [if_pos short] at read
      exact absurd read (by simp)
    · rw [if_neg short] at read
      simp only [Except.ok.injEq, Prod.mk.injEq] at read
      obtain ⟨rfl, rfl⟩ := read
      exact ⟨data.take width, List.length_take_of_le (Nat.le_of_not_lt short), rfl,
        (List.take_append_drop width data).symm⟩
  · rintro ⟨bytes, rfl, rfl, rfl⟩
    rw [if_neg (by simp), List.take_left, List.drop_left]

/-- A number is read back from its bytes, whatever follows. -/
theorem readInt_writeInt (width n : Nat) (rest : Bytes) :
    readInt width (writeInt width n ++ rest) = .ok (n % 256 ^ width, rest) :=
  readInt_eq_ok_iff.mpr ⟨_, length_writeInt width n, intOf_writeInt width n, rfl⟩

theorem toNat_mod_word (n : UInt16) : n.toNat % 256 ^ 2 = n.toNat :=
  Nat.mod_eq_of_lt n.toNat_lt

/-- The lead bytes that say how many bytes the number behind them has. -/
inductive Announced : (lead : UInt8) → (width : Nat) → Prop
  | two : Announced 0xFC 2
  | three : Announced 0xFD 3
  | eight : Announced 0xFE 8

/-- The length-encoded forms of a number, the shortest and the others. -/
inductive Lenenc : Nat → Bytes → Prop
  | byte {b : UInt8} (small : b ≤ 0xFA) : Lenenc b.toNat [b]
  | wide {lead : UInt8} {bytes : Bytes} (announced : Announced lead bytes.length) :
      Lenenc (intOf bytes) (lead :: bytes)

/-- Behind a lead byte, a number of its width is read. -/
theorem readLenenc_of_announced {lead : UInt8} {width : Nat} (announced : Announced lead width)
    (rest : Bytes) : readLenenc (lead :: rest) = readInt width rest := by
  cases announced <;> rfl

theorem readLenenc_cons (lead : UInt8) (rest : Bytes) :
    lead ≤ 0xFA ∧ readLenenc (lead :: rest) = .ok (lead.toNat, rest) ∨
      (∃ width, Announced lead width) ∨
      readLenenc (lead :: rest) = .error (.reservedLength lead) := by
  have unfolded : readLenenc (lead :: rest) =
      if lead ≤ 0xFA then .ok (lead.toNat, rest)
      else if lead = 0xFC then readInt 2 rest
      else if lead = 0xFD then readInt 3 rest
      else if lead = 0xFE then readInt 8 rest
      else .error (.reservedLength lead) := rfl
  rw [unfolded]
  by_cases small : lead ≤ 0xFA
  · exact .inl ⟨small, if_pos small⟩
  right
  by_cases two : lead = 0xFC
  · exact .inl ⟨2, two ▸ .two⟩
  by_cases three : lead = 0xFD
  · exact .inl ⟨3, three ▸ .three⟩
  by_cases eight : lead = 0xFE
  · exact .inl ⟨8, eight ▸ .eight⟩
  right
  rw [if_neg small, if_neg two, if_neg three, if_neg eight]

/-- A length-encoded number is read off its forms and off nothing else. -/
theorem readLenenc_eq_ok_iff {n : Nat} {data rest : Bytes} :
    readLenenc data = .ok (n, rest) ↔ ∃ form, Lenenc n form ∧ data = form ++ rest := by
  constructor
  · intro read
    cases data with
    | nil => exact absurd read (by simp [readLenenc, readByte, bind, Except.bind])
    | cons lead behind =>
      rcases readLenenc_cons lead behind with ⟨small, own⟩ | ⟨width, announced⟩ | reserved
      · rw [own] at read
        simp only [Except.ok.injEq, Prod.mk.injEq] at read
        obtain ⟨rfl, rfl⟩ := read
        exact ⟨[lead], .byte small, rfl⟩
      · rw [readLenenc_of_announced announced, readInt_eq_ok_iff] at read
        obtain ⟨bytes, rfl, rfl, rfl⟩ := read
        exact ⟨lead :: bytes, .wide announced, rfl⟩
      · rw [reserved] at read
        exact absurd read (by simp)
  · rintro ⟨form, lenenc, rfl⟩
    cases lenenc with
    | byte small => exact if_pos small
    | wide announced =>
      rw [List.cons_append, readLenenc_of_announced announced]
      exact readInt_eq_ok_iff.mpr ⟨_, rfl, rfl, rfl⟩

/-- A number below the reserved lead bytes has a form of one byte. -/
theorem lenenc_of_small {n : Nat} (small : n < 0xFB) : Lenenc n [UInt8.ofNat n] := by
  have value : (UInt8.ofNat n).toNat = n := by
    rw [UInt8.toNat_ofNat']
    exact Nat.mod_eq_of_lt (by omega)
  have most : UInt8.ofNat n ≤ 0xFA := by
    rw [UInt8.le_iff_toNat_le, value]
    exact Nat.le_of_lt_succ small
  have form := Lenenc.byte most
  rwa [value] at form

/-- A number has a form in every width that holds it. -/
theorem lenenc_of_fits {n : Nat} {lead : UInt8} {width : Nat} (announced : Announced lead width)
    (fits : n < 256 ^ width) : Lenenc n (lead :: writeInt width n) := by
  have form : Lenenc (intOf (writeInt width n)) (lead :: writeInt width n) :=
    .wide ((length_writeInt width n).symm ▸ announced)
  rwa [intOf_writeInt, Nat.mod_eq_of_lt fits] at form

/-- The form that is written is one of them. -/
theorem lenenc_writeLenenc {n : Nat} (word : n < 2 ^ 64) : Lenenc n (writeLenenc n) := by
  unfold writeLenenc
  by_cases one : n < 0xFB
  · rw [if_pos one]
    exact lenenc_of_small one
  rw [if_neg one]
  by_cases two : n ≤ 0xFFFF
  · rw [if_pos two]
    exact lenenc_of_fits .two (by omega)
  rw [if_neg two]
  by_cases three : n ≤ 0xFFFFFF
  · rw [if_pos three]
    exact lenenc_of_fits .three (by omega)
  · rw [if_neg three]
    exact lenenc_of_fits .eight (by omega)

theorem readLenenc_writeLenenc {n : Nat} (word : n < 2 ^ 64) (rest : Bytes) :
    readLenenc (writeLenenc n ++ rest) = .ok (n, rest) :=
  readLenenc_eq_ok_iff.mpr ⟨_, lenenc_writeLenenc word, rfl⟩

/-! ## OK packets -/

/-- An OK packet is read back from its payload. -/
theorem OkPacket.parse_payload (ok : OkPacket) :
    OkPacket.parse (ok.fields.flatMap Field.encode) = .ok ok := by
  have lead (rest : Bytes) : readByte (writeInt 1 okLead.toNat ++ rest) = .ok (okLead, rest) := rfl
  have affected := readLenenc_writeLenenc ok.affectedRows.toNat_lt
  have inserted := readLenenc_writeLenenc ok.lastInsertId.toNat_lt
  have word (n : UInt16) (rest : Bytes) :
      readInt 2 (writeInt 2 n.toNat ++ rest) = .ok (n.toNat, rest) := by
    rw [readInt_writeInt, toNat_mod_word]
  simp [fields, Field.encode, parse, bind, Except.bind, lead, affected, inserted, word]

end Wire

/-! ## Errors -/

namespace ServerError

open Wire

/-- The payloads that word an error: a code, perhaps a state behind its marker, and the message. -/
inductive Words : ServerError → Bytes → Prop
  | stated {low high : UInt8} {state message : Bytes} (length : state.length = stateSize) :
      Words ⟨UInt16.ofNat (intOf [low, high]), some (Text.decode state), Text.decode message⟩
        (errLead :: low :: high :: stateMarker :: (state ++ message))
  | unstated {low high : UInt8} {message : Bytes}
      (unmarked : message.head? = some stateMarker → message.length ≤ stateSize) :
      Words ⟨UInt16.ofNat (intOf [low, high]), none, Text.decode message⟩
        (errLead :: low :: high :: message)

theorem parse_of_lead (low high : UInt8) (rest : Bytes) :
    parse (errLead :: low :: high :: rest) =
      if rest.head? = some stateMarker ∧ stateSize < rest.length then
        .ok ⟨UInt16.ofNat (intOf [low, high]), some (Text.decode ((rest.drop 1).take stateSize)),
          Text.decode ((rest.drop 1).drop stateSize)⟩
      else .ok ⟨UInt16.ofNat (intOf [low, high]), none, Text.decode rest⟩ :=
  rfl

/-- Nothing is read off a payload that does not start with the lead byte and a code. -/
theorem exists_of_parse {e : ServerError} {payload : Bytes} (read : parse payload = .ok e) :
    ∃ low high rest, payload = errLead :: low :: high :: rest := by
  match payload, read with
  | [], read => simp [parse, readByte, bind, Except.bind] at read
  | [lead], read | [lead, _], read =>
    by_cases isErr : lead = errLead <;>
      simp [parse, readByte, readInt, bind, Except.bind, isErr] at read
  | lead :: low :: high :: rest, read =>
    by_cases isErr : lead = errLead
    · exact ⟨low, high, rest, by rw [isErr]⟩
    · simp [parse, readByte, bind, Except.bind, isErr] at read

/-- An error is read off the payloads that word it and off nothing else. -/
theorem parse_eq_ok_iff {e : ServerError} {payload : Bytes} :
    parse payload = .ok e ↔ e.Words payload := by
  constructor
  · intro read
    obtain ⟨low, high, rest, rfl⟩ := exists_of_parse read
    rw [parse_of_lead] at read
    -- a state is read off only behind its marker, and only if there is room for it
    by_cases marked : rest.head? = some stateMarker ∧ stateSize < rest.length
    · obtain ⟨marker, long⟩ := marked
      obtain ⟨behind, rfl⟩ := List.head?_eq_some_iff.mp marker
      rw [if_pos ⟨marker, long⟩] at read
      obtain rfl := Except.ok.inj read
      have form := @Words.stated low high (behind.take stateSize) (behind.drop stateSize)
        (List.length_take_of_le (Nat.le_of_lt_succ long))
      rwa [List.take_append_drop] at form
    · rw [if_neg marked] at read
      obtain rfl := Except.ok.inj read
      refine .unstated ?_
      intro marker
      exact Nat.le_of_not_lt fun long => marked ⟨marker, long⟩
  · intro words
    cases words with
    | stated length =>
      rename_i low high state message
      have long : stateSize < (stateMarker :: (state ++ message)).length := by
        simp only [List.length_cons, List.length_append]
        omega
      rw [parse_of_lead, if_pos ⟨rfl, long⟩, List.drop_succ_cons, List.drop_zero,
        List.take_left' length, List.drop_left' length]
    | unstated unmarked =>
      rw [parse_of_lead, if_neg]
      rintro ⟨marker, long⟩
      exact absurd (unmarked marker) (Nat.not_le_of_lt long)

/-- A state of the full length is written as it is. -/
theorem stateBytes_of_length {state : String} (length : (Text.encode state).length = stateSize) :
    stateBytes state = Text.encode state := by
  rw [stateBytes, ← length, List.take_length, Nat.sub_self]
  exact List.append_nil _

/-- What is written for a state has the full length. -/
theorem length_stateBytes (state : String) : (stateBytes state).length = stateSize := by
  simp only [stateBytes, List.length_append, List.length_replicate, List.length_take]
  omega

/-- An error is read back from its payload, with what is written for its state in the place of the
state. -/
theorem parse_fields (e : ServerError) :
    parse (e.fields.flatMap Field.encode) =
      .ok { e with
        sqlState := some (Text.decode (stateBytes (e.sqlState.getD generalState))) } := by
  obtain ⟨code, sqlState, message⟩ := e
  have number : UInt16.ofNat (intOf (writeInt 2 code.toNat)) = code := by
    rw [intOf_writeInt, toNat_mod_word, UInt16.ofNat_toNat]
  have words := @Words.stated (UInt8.ofNat code.toNat) (UInt8.ofNat (code.toNat / 256)) _
    (Text.encode message) (length_stateBytes (sqlState.getD generalState))
  rw [show intOf [_, _] = intOf (writeInt 2 code.toNat) from rfl, number,
    Text.decode_encode] at words
  simp only [fields, List.flatMap_cons, List.flatMap_nil, Field.encode, List.append_nil]
  exact parse_eq_ok_iff.mpr words

/-- An error whose state has the full length is read back from its payload. -/
theorem parse_payload {e : ServerError} {state : String} (stated : e.sqlState = some state)
    (length : (Text.encode state).length = stateSize) :
    parse (e.fields.flatMap Field.encode) = .ok e := by
  rw [parse_fields, stated, Option.getD_some, stateBytes_of_length length, Text.decode_encode,
    ← stated]

end ServerError

end AtomicCommit
