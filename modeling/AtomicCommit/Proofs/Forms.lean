import AtomicCommit.Proofs.Decoding
import AtomicCommit.Wire.Reply

/-!
# The forms of packets in a reply

Where in a reply a link is tells which events can come next (`State.Expects`), and each event has
packets of its own form (`Event.Form`). A packet means an event exactly where that event can come
next and the packet has its form: `State.step_eq_ok_iff`.
-/

namespace AtomicCommit.Wire.Reply

/-- The packets that have the form of an event. -/
def Event.Form : Event → Packet → Prop
  | .ok, p => p.lead? = some okLead
  | .error e, p => e.Words p.payload
  | .resultSet columns, p => ∃ count rest, Lenenc columns count ∧ p.payload = count ++ rest
  | .column, p => p.lead? ≠ some errLead
  | .columnsEnd, p | .rowsEnd, p => p.lead? = some eofLead ∧ p.payload.length < eofLimit
  | .row, p =>
    p.lead? ≠ some errLead ∧ ¬ (p.lead? = some eofLead ∧ p.payload.length < eofLimit)

namespace State

/-- The events that can come next. -/
inductive Expects : State → Event → Prop
  | error (s : State) (e : ServerError) : Expects s (.error e)
  | ok : Expects .idle .ok
  | resultSet {count : Nat} (some : 0 < count) : Expects .idle (.resultSet count)
  | column (remaining : Nat) : Expects (.columns remaining) .column
  | columnsEnd : Expects .columnsEnd .columnsEnd
  | row : Expects .rows .row
  | rowsEnd : Expects .rows .rowsEnd

/-- Where an event leaves the link. -/
def past : State → Event → State
  | _, .resultSet count => .columns count
  | .columns remaining, .column => if remaining ≤ 1 then .columnsEnd else .columns (remaining - 1)
  | _, .columnsEnd | _, .row => .rows
  | _, _ => .idle

/-- An error ends a reply anywhere. -/
theorem past_error (s : State) (e : ServerError) : s.past (.error e) = .idle := by
  cases s <;> rfl

variable {s t : State} {e : Event} {p : Packet}

theorem isError_iff : p.isError = true ↔ p.lead? = some errLead := by
  simp [Packet.isError]

theorem isEof_iff : p.isEof = true ↔ p.lead? = some eofLead ∧ p.payload.length < eofLimit := by
  simp [Packet.isEof]

theorem lead_ne_of_announced {lead : UInt8} {width : Nat} (announced : Announced lead width) :
    lead ≠ okLead ∧ lead ≠ localFileLead ∧ lead ≠ errLead := by
  cases announced <;> decide

/-- A count that is not zero starts with none of the bytes that start the other replies. -/
theorem lead_of_lenenc {n : Nat} {count : Bytes} (lenenc : Lenenc n count) (some : 0 < n)
    (rest : Bytes) :
    ∃ lead, (count ++ rest).head? = Option.some lead ∧ lead ≠ okLead ∧ lead ≠ localFileLead ∧
      lead ≠ errLead := by
  cases lenenc with
  | byte small =>
    rename_i lead
    refine ⟨lead, rfl, ?_, ?_, ?_⟩
    · rintro rfl
      exact absurd some (by decide)
    · rintro rfl
      exact absurd small (by decide)
    · rintro rfl
      exact absurd small (by decide)
  | wide announced =>
    exact ⟨_, rfl, lead_ne_of_announced announced⟩

/-- A packet of the form of an event that can come next means that event. -/
theorem step_of_form (expects : s.Expects e) (form : e.Form p) : s.step p = (s.past e, .ok e) := by
  -- only an error starts with the byte that starts one
  have plain (other : p.lead? ≠ some errLead) : ¬ p.isError = true := mt isError_iff.mp other
  have eof (ends : p.lead? = some eofLead ∧ p.payload.length < eofLimit) :
      p.lead? ≠ some errLead := by
    rw [ends.1]
    decide
  unfold step
  cases expects with
  | error s e =>
    have lead : p.lead? = some errLead := by
      obtain ⟨low, high, rest, payload⟩ := ServerError.exists_of_parse
        (ServerError.parse_eq_ok_iff.mpr form)
      rw [Packet.lead?, payload]
      rfl
    rw [if_pos (isError_iff.mpr lead), ServerError.parse_eq_ok_iff.mpr form]
    rw [past_error]
    rfl
  | ok =>
    have lead : p.lead? = some okLead := form
    rw [if_neg (plain (by rw [lead]; decide))]
    simp only [start, lead, if_pos]
    rfl
  | resultSet some =>
    rename_i count
    obtain ⟨bytes, rest, lenenc, payload⟩ := form
    obtain ⟨byte, lead, notOk, notFile, notErr⟩ := lead_of_lenenc lenenc some rest
    rw [← payload] at lead
    have read := readLenenc_eq_ok_iff.mpr ⟨bytes, lenenc, payload⟩
    rw [if_neg (plain (by rw [Packet.lead?, lead]; simpa using notErr))]
    simp only [start, Packet.lead?, lead, if_neg notOk, if_neg notFile, read]
    cases count with
    | zero => exact absurd some (Nat.lt_irrefl 0)
    | succ n => rfl
  | column remaining =>
    rw [if_neg (plain form)]
    rfl
  | columnsEnd =>
    rw [if_neg (plain (eof form))]
    exact if_pos (isEof_iff.mpr form)
  | row =>
    rw [if_neg (plain form.1)]
    exact if_neg (mt isEof_iff.mp form.2)
  | rowsEnd =>
    rw [if_neg (plain (eof form))]
    exact if_pos (isEof_iff.mpr form)

/-- The first packet of a reply that is not an error is an OK packet or a count of columns. -/
theorem form_of_start (h : start p = (t, .ok e)) : idle.Expects e ∧ e.Form p := by
  unfold start at h
  cases lead : p.lead? with
  | none => simp [lead] at h
  | some byte =>
    simp only [lead] at h
    by_cases isOk : byte = okLead
    · rw [if_pos isOk] at h
      obtain rfl := Except.ok.inj (Prod.mk.inj h).2
      exact ⟨.ok, by rw [Event.Form, lead, isOk]⟩
    rw [if_neg isOk] at h
    by_cases isFile : byte = localFileLead
    · simp [isFile] at h
    rw [if_neg isFile] at h
    cases read : readLenenc p.payload with
    | error cause => simp [read] at h
    | ok out =>
      obtain ⟨count, rest⟩ := out
      cases count with
      | zero => simp [read] at h
      | succ n =>
        simp only [read] at h
        obtain rfl := Except.ok.inj (Prod.mk.inj h).2
        obtain ⟨bytes, lenenc, payload⟩ := readLenenc_eq_ok_iff.mp read
        exact ⟨.resultSet (Nat.succ_pos n), bytes, rest, lenenc, payload⟩

/-- What a packet means can come next, and the packet has the form of it. -/
theorem form_of_step (h : s.step p = (t, .ok e)) : s.Expects e ∧ e.Form p := by
  unfold step at h
  -- an error may come at any time, whatever else is expected
  by_cases isError : p.isError = true
  · rw [if_pos isError] at h
    cases read : ServerError.parse p.payload with
    | error cause => simp [read, Except.map] at h
    | ok error =>
      rw [read] at h
      obtain rfl := Except.ok.inj (Prod.mk.inj h).2
      exact ⟨.error s error, ServerError.parse_eq_ok_iff.mp read⟩
  · rw [if_neg isError] at h
    have plain : p.lead? ≠ some errLead := mt isError_iff.mpr isError
    cases s with
    | idle => exact form_of_start h
    | columns remaining =>
      obtain rfl := Except.ok.inj (Prod.mk.inj h).2
      exact ⟨.column remaining, plain⟩
    | columnsEnd =>
      by_cases isEof : p.isEof = true
      · simp only [if_pos isEof] at h
        obtain rfl := Except.ok.inj (Prod.mk.inj h).2
        exact ⟨.columnsEnd, isEof_iff.mp isEof⟩
      · simp [isEof] at h
    | rows =>
      by_cases isEof : p.isEof = true
      · simp only [if_pos isEof] at h
        obtain rfl := Except.ok.inj (Prod.mk.inj h).2
        exact ⟨.rowsEnd, isEof_iff.mp isEof⟩
      · simp only [if_neg isEof] at h
        obtain rfl := Except.ok.inj (Prod.mk.inj h).2
        exact ⟨.row, plain, mt isEof_iff.mpr isEof⟩

theorem step_eq_ok_iff :
    s.step p = (t, .ok e) ↔ s.Expects e ∧ e.Form p ∧ t = s.past e := by
  constructor
  · intro h
    obtain ⟨expects, form⟩ := form_of_step h
    have same := h.symm.trans (step_of_form expects form)
    exact ⟨expects, form, (Prod.mk.inj same).1⟩
  · rintro ⟨expects, form, rfl⟩
    exact step_of_form expects form

end State

end AtomicCommit.Wire.Reply
