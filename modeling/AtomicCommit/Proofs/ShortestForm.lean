import AtomicCommit.Proofs.Decoding

/-!
# Shortest forms

A number has one length-encoded form for every width that holds it, and a reader takes them all. The
writer chooses the narrowest width, so that every other form is longer than the one it writes.

* **all forms** — `lenenc_iff`: a number's forms are the single byte, if it is small enough, and one
  for each announced width into which it fits.
* **the written form** — `writeLenenc_of_announced`: where a number fits, it is written in that very
  width or in fewer bytes. So each of its forms is the written one or longer
  (`Lenenc.eq_or_longer`).
* **reading** — `written_form_is_the_shortest` says it of whatever a reader takes off the front of
  some bytes.
-/

namespace AtomicCommit.Wire

variable {n : Nat} {form : Bytes}

/-! ## All forms -/

theorem Announced.width_le {lead : UInt8} {width : Nat} (announced : Announced lead width) :
    width ≤ 8 := by
  cases announced <;> decide

/-- A number's forms are one for each width that holds it. -/
theorem lenenc_iff :
    Lenenc n form ↔
      n < 0xFB ∧ form = [UInt8.ofNat n] ∨
      ∃ lead width, Announced lead width ∧ n < 256 ^ width ∧ form = lead :: writeInt width n := by
  constructor
  · intro lenenc
    cases lenenc with
    | @byte b small =>
      have below : b.toNat < 0xFB := Nat.lt_succ_of_le (UInt8.le_iff_toNat_le.mp small)
      exact .inl ⟨below, by rw [UInt8.ofNat_toNat]⟩
    | @wide lead bytes announced =>
      exact .inr ⟨lead, bytes.length, announced, intOf_lt bytes, by rw [writeInt_intOf]⟩
  · rintro (⟨small, rfl⟩ | ⟨lead, width, announced, fits, rfl⟩)
    · exact lenenc_of_small small
    · exact lenenc_of_fits announced fits

/-- No form holds more than a word. -/
theorem Lenenc.lt_word (lenenc : Lenenc n form) : n < 2 ^ 64 := by
  rcases lenenc_iff.mp lenenc with ⟨small, -⟩ | ⟨lead, width, announced, fits, -⟩
  · omega
  · calc n
      _ < 256 ^ width := fits
      _ ≤ 256 ^ 8 := Nat.pow_le_pow_right (by decide) announced.width_le

/-! ## The written form -/

theorem length_writeLenenc (n : Nat) :
    (writeLenenc n).length =
      if n < 0xFB then 1 else if n ≤ 0xFFFF then 3 else if n ≤ 0xFFFFFF then 4 else 9 := by
  unfold writeLenenc
  split_ifs <;> simp only [List.length_cons, List.length_nil, length_writeInt]

/-- Where a number fits, it is written in that very width or in fewer bytes. -/
theorem writeLenenc_of_announced {lead : UInt8} {width : Nat} (announced : Announced lead width)
    (fits : n < 256 ^ width) :
    writeLenenc n = lead :: writeInt width n ∨ (writeLenenc n).length ≤ width := by
  -- the width is the one written exactly if the next narrower one is too small
  cases announced with
  | two =>
    by_cases one : n < 0xFB
    · right
      rw [length_writeLenenc, if_pos one]
      decide
    · left
      rw [writeLenenc, if_neg one, if_pos (Nat.le_of_lt_succ fits)]
  | three =>
    by_cases two : n ≤ 0xFFFF
    · right
      rw [length_writeLenenc, if_pos two]
      split <;> decide
    · left
      rw [writeLenenc, if_neg (by omega), if_neg two, if_pos (Nat.le_of_lt_succ fits)]
  | eight =>
    by_cases three : n ≤ 0xFFFFFF
    · right
      rw [length_writeLenenc, if_pos three]
      split_ifs <;> decide
    · left
      rw [writeLenenc, if_neg (by omega), if_neg (by omega), if_neg three]

theorem Lenenc.eq_or_longer (lenenc : Lenenc n form) :
    form = writeLenenc n ∨ (writeLenenc n).length < form.length := by
  rcases lenenc_iff.mp lenenc with ⟨small, rfl⟩ | ⟨lead, width, announced, fits, rfl⟩
  · left
    rw [writeLenenc, if_pos small]
  · rcases writeLenenc_of_announced announced fits with written | shorter
    · exact .inl written.symm
    · right
      rw [List.length_cons, length_writeInt]
      exact Nat.lt_succ_of_le shorter

theorem Lenenc.length_le (lenenc : Lenenc n form) : (writeLenenc n).length ≤ form.length := by
  rcases lenenc.eq_or_longer with rfl | longer
  · exact Nat.le_refl _
  · exact Nat.le_of_lt longer

/-- The written form is told by its length. -/
theorem Lenenc.eq_writeLenenc_iff (lenenc : Lenenc n form) :
    form = writeLenenc n ↔ form.length = (writeLenenc n).length := by
  constructor
  · rintro rfl
    rfl
  · intro length
    exact lenenc.eq_or_longer.resolve_right (Nat.not_lt_of_le (Nat.le_of_eq length))

/-! ## Reading -/

/-- **Shortest forms.** A word is read back from the bytes that are written for it, whatever
follows. The other way round, a number that is read is a word, and the bytes it is read off are no
fewer than those written for it, and they are these if they are as many. So whatever else is read as
a word is longer than what is written for it. -/
theorem written_form_is_the_shortest :
    (∀ (v : UInt64) (rest : Bytes),
      readLenenc (writeLenenc v.toNat ++ rest) = .ok (v.toNat, rest)) ∧
    (∀ (data rest : Bytes) (n : Nat), readLenenc data = .ok (n, rest) →
      n < 2 ^ 64 ∧ ∃ consumed, data = consumed ++ rest ∧
        (writeLenenc n).length ≤ consumed.length ∧
        (consumed = writeLenenc n ↔ consumed.length = (writeLenenc n).length)) ∧
    ∀ (v : UInt64) (form rest : Bytes), readLenenc (form ++ rest) = .ok (v.toNat, rest) →
      form ≠ writeLenenc v.toNat → (writeLenenc v.toNat).length < form.length := by
  refine ⟨?_, ?_, ?_⟩
  · intro v rest
    exact readLenenc_writeLenenc v.toNat_lt rest
  · intro data rest n read
    obtain ⟨form, lenenc, whole⟩ := readLenenc_eq_ok_iff.mp read
    exact ⟨lenenc.lt_word, form, whole, lenenc.length_le, lenenc.eq_writeLenenc_iff⟩
  · intro v form rest read other
    obtain ⟨consumed, lenenc, whole⟩ := readLenenc_eq_ok_iff.mp read
    obtain rfl := List.append_cancel_right whole
    exact lenenc.eq_or_longer.resolve_left other

/-- The case of the largest number that two bytes hold, read off three, and of the smallest one that
is not its own form, read off eight. -/
theorem longer_forms_are_read :
    (readLenenc [0xFD, 0xFF, 0xFF, 0x00, 7] = .ok (0xFFFF, [7]) ∧
      ∃ consumed, [0xFD, 0xFF, 0xFF, 0x00, 7] = consumed ++ [7] ∧
        (writeLenenc 0xFFFF).length ≤ consumed.length ∧
        (consumed = writeLenenc 0xFFFF ↔ consumed.length = (writeLenenc 0xFFFF).length)) ∧
    readLenenc [0xFE, 0xFB, 0, 0, 0, 0, 0, 0, 0] = .ok (0xFB, []) ∧
      [0xFE, 0xFB, 0, 0, 0, 0, 0, 0, 0] ≠ writeLenenc 0xFB ∧ (writeLenenc 0xFB).length < 9 := by
  obtain ⟨-, consumes, others⟩ := written_form_is_the_shortest
  have three : readLenenc [0xFD, 0xFF, 0xFF, 0x00, 7] = .ok (0xFFFF, [7]) := rfl
  have eight : readLenenc [0xFE, 0xFB, 0, 0, 0, 0, 0, 0, 0] = .ok (0xFB, []) := rfl
  have other : [0xFE, 0xFB, 0, 0, 0, 0, 0, 0, 0] ≠ writeLenenc 0xFB := by decide
  exact ⟨⟨three, (consumes _ _ _ three).2⟩, eight, other, others 0xFB _ [] eight other⟩

end AtomicCommit.Wire
