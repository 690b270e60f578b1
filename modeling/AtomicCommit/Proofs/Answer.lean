import AtomicCommit.Notice
import AtomicCommit.Proofs.Forms

/-!
# Answers to commands

A backend answers a command with one complete `Answer`: an OK or an ERR packet, or a result set,
which an ERR packet may cut short anywhere. Its frames are heard one by one, and each of them may
say something to the coordinator.

* **frame** — what a frame says, and where it leaves the link, at each place of an answer: `hear_ok`
  to `hear_rowsEnd`.
* **answer** — `Answer.shape`: a complete answer says something once, at its OK packet, at its ERR
  packet or at the end of its columns. Only one that is cut short behind its columns says something
  twice. Behind a complete answer a link is between replies.
-/

namespace AtomicCommit

open Wire

/-! ## Complete answers -/

namespace Wire

/-- The frame holds a packet of this kind. -/
def frames? (kind : Packet → Bool) (frame : Bytes) : Bool :=
  match Packet.parse frame with
  | .ok packet => kind packet
  | .error _ => false

/-- An ERR packet that can be read. -/
def Packet.isServerError (p : Packet) : Bool :=
  p.isError && (ServerError.parse p.payload).isOk

/-- The packet that starts a result set with so many columns, at least one. -/
def Packet.announces (columns : Nat) (p : Packet) : Bool :=
  !p.isError && !p.isOk && p.lead? != some localFileLead && 0 < columns &&
    match readLenenc p.payload with
    | .ok (count, _) => count == columns
    | .error _ => false

/-- The frames of a result set. -/
structure ResultSet where
  head : Bytes
  columns : List Bytes
  columnsEnd : Bytes
  rows : List Bytes
  rowsEnd : Bytes

namespace ResultSet

def opening (r : ResultSet) : List Bytes :=
  r.head :: r.columns

def frames (r : ResultSet) : List Bytes :=
  r.opening ++ r.columnsEnd :: (r.rows ++ [r.rowsEnd])

structure WellFormed (r : ResultSet) : Prop where
  head : frames? (Packet.announces r.columns.length) r.head = true
  columns : ∀ f ∈ r.columns, frames? (fun p => !p.isError) f = true
  columnsEnd : frames? Packet.isEof r.columnsEnd = true
  rows : ∀ f ∈ r.rows, frames? (fun p => !p.isError && !p.isEof) f = true
  rowsEnd : frames? Packet.isEof r.rowsEnd = true

end ResultSet

/-- What a backend answers to one command. -/
inductive Answer where
  | ok (frame : Bytes)
  | error (frame : Bytes)
  | rows (r : ResultSet)
  /-- Only so many frames of a result set, and then an error. -/
  | cut (r : ResultSet) (length : Nat) (last : Bytes)

namespace Answer

def frames : Answer → List Bytes
  | .ok frame | .error frame => [frame]
  | .rows r => r.frames
  | .cut r length last => r.frames.take length ++ [last]

def Complete : Answer → Prop
  | .ok frame => frames? Packet.isOk frame = true
  | .error frame => frames? Packet.isServerError frame = true
  | .rows r => r.WellFormed
  | .cut r length last =>
    r.WellFormed ∧ length < r.frames.length ∧ frames? Packet.isServerError last = true

/-- If the answer is cut short behind the end of its columns, how many frames are in front of
that. -/
def cutBehind? : Answer → Option Nat
  | .cut r length _ => if r.opening.length < length then some r.opening.length else none
  | _ => none

end Answer

/-! ## Speaking -/

namespace Reply.State

variable {s : Reply.State} {frame : Bytes} {fs gs : List Bytes} {link : Link}

/-- Where the frames leave the link. -/
def after (s : Reply.State) : List Bytes → Reply.State
  | [] => s
  | frame :: rest => (s.hear frame).1.after rest

/-- What a frame says to the coordinator. -/
def remark (s : Reply.State) (link : Link) (frame : Bytes) : Option AtomicCommit.Event :=
  (Notice.ofFrame? frame (s.hear frame).2).bind (Notice.event? link)

/-- Frames that say nothing to the coordinator. -/
def Silent (s : Reply.State) (link : Link) : List Bytes → Prop
  | [] => True
  | frame :: rest => s.remark link frame = none ∧ (s.hear frame).1.Silent link rest

theorem after_append (s : Reply.State) (fs gs : List Bytes) :
    s.after (fs ++ gs) = (s.after fs).after gs := by
  induction fs generalizing s with
  | nil => rfl
  | cons f fs ih => exact ih _

theorem silent_append :
    s.Silent link (fs ++ gs) ↔ s.Silent link fs ∧ (s.after fs).Silent link gs := by
  induction fs generalizing s with
  | nil => simp [Silent, after]
  | cons f fs ih => simp [Silent, after, ih, and_assoc]

theorem hear_of_frames {kind : Packet → Bool} (h : frames? kind frame = true) :
    ∃ packet, kind packet = true ∧ ∀ s : Reply.State, s.hear frame = s.step packet := by
  unfold frames? at h
  cases parsed : Packet.parse frame with
  | error cause => simp [parsed] at h
  | ok packet =>
    refine ⟨packet, by simpa [parsed] using h, ?_⟩
    intro s
    simp [hear, parsed]

/-- A frame of the form of an event that can come next. -/
theorem hear_of_form {kind : Packet → Bool} {e : Event} (expects : s.Expects e)
    (forms : ∀ p, kind p = true → e.Form p) (h : frames? kind frame = true) :
    s.hear frame = (s.past e, .ok e) := by
  obtain ⟨packet, kind, hears⟩ := hear_of_frames h
  rw [hears, step_of_form expects (forms packet kind)]

theorem hear_error (s : Reply.State) (link : Link) (h : frames? Packet.isServerError frame = true) :
    (s.hear frame).1 = .idle ∧ (s.remark link frame).isSome = true := by
  obtain ⟨packet, kind, hears⟩ := hear_of_frames h
  unfold Packet.isServerError at kind
  cases parsed : ServerError.parse packet.payload with
  | error cause => simp [parsed, Except.isOk, Except.toBool] at kind
  | ok e =>
    have heard : s.hear frame = (.idle, .ok (.error e)) := by
      rw [hears, step_of_form (.error s e) (ServerError.parse_eq_ok_iff.mp parsed), past_error]
    simp [remark, heard, Notice.ofFrame?, Notice.event?]

theorem hear_ok (link : Link) (h : frames? Packet.isOk frame = true) :
    (idle.hear frame).1 = .idle ∧ (idle.remark link frame).isSome = true := by
  have heard := hear_of_form .ok (fun p isOk => beq_iff_eq.mp isOk) h
  simp [remark, heard, past, Notice.ofFrame?, Notice.event?]

theorem hear_head {columns : Nat} (link : Link)
    (h : frames? (Packet.announces columns) frame = true) :
    (idle.hear frame).1 = .columns columns ∧ idle.remark link frame = none ∧ 0 < columns := by
  obtain ⟨packet, kind, hears⟩ := hear_of_frames h
  simp only [Packet.announces, Bool.and_eq_true, decide_eq_true_eq] at kind
  obtain ⟨⟨-, positive⟩, count⟩ := kind
  cases read : readLenenc packet.payload with
  | error cause => simp [read] at count
  | ok out =>
    obtain ⟨n, rest⟩ := out
    obtain rfl : n = columns := by simpa [read] using count
    obtain ⟨bytes, lenenc, payload⟩ := readLenenc_eq_ok_iff.mp read
    have heard := hears idle
    rw [step_of_form (.resultSet positive) ⟨bytes, rest, lenenc, payload⟩] at heard
    simp [remark, heard, past, Notice.ofFrame?, positive]

theorem hear_column (remaining : Nat) (link : Link)
    (h : frames? (fun p => !p.isError) frame = true) :
    ((columns remaining).hear frame).1 =
        (if remaining ≤ 1 then .columnsEnd else .columns (remaining - 1)) ∧
      (columns remaining).remark link frame = none := by
  have heard := hear_of_form (.column remaining)
    (fun p noError => by simpa [Event.Form, Packet.isError] using noError) h
  unfold remark
  rw [heard]
  exact ⟨rfl, rfl⟩

theorem hear_columnsEnd (link : Link) (h : frames? Packet.isEof frame = true) :
    (columnsEnd.hear frame).1 = .rows ∧ (columnsEnd.remark link frame).isSome = true := by
  have heard := hear_of_form .columnsEnd (fun p isEof => isEof_iff.mp isEof) h
  simp [remark, heard, past, Notice.ofFrame?, Notice.event?]

theorem hear_row (link : Link) (h : frames? (fun p => !p.isError && !p.isEof) frame = true) :
    (rows.hear frame).1 = .rows ∧ rows.remark link frame = none := by
  have forms : ∀ p : Packet, (!p.isError && !p.isEof) = true → Event.row.Form p := by
    intro p plain
    simp only [Bool.and_eq_true, Bool.not_eq_true', ← Bool.not_eq_true] at plain
    exact ⟨mt isError_iff.mpr plain.1, mt isEof_iff.mpr plain.2⟩
  have heard := hear_of_form .row forms h
  simp [remark, heard, past, Notice.ofFrame?, Notice.event?]

theorem hear_rowsEnd (link : Link) (h : frames? Packet.isEof frame = true) :
    (rows.hear frame).1 = .idle ∧ rows.remark link frame = none := by
  have heard := hear_of_form .rowsEnd (fun p isEof => isEof_iff.mp isEof) h
  simp [remark, heard, past, Notice.ofFrame?, Notice.event?]

/-- Column definitions say nothing, and the last of them leads to their end. -/
theorem silent_columns {columns : List Bytes} (link : Link) (some : columns ≠ [])
    (h : ∀ f ∈ columns, frames? (fun p => !p.isError) f = true) :
    (State.columns columns.length).Silent link columns ∧
      (State.columns columns.length).after columns = .columnsEnd := by
  induction columns with
  | nil => exact absurd rfl some
  | cons f rest ih =>
    rw [List.forall_mem_cons] at h
    obtain ⟨next, nothing⟩ := hear_column (f :: rest).length link h.1
    unfold Silent after
    rw [next]
    by_cases last : rest = []
    · subst last
      exact ⟨⟨nothing, trivial⟩, rfl⟩
    · have more : ¬ (f :: rest).length ≤ 1 := by
        have := List.length_pos_iff.mpr last
        rw [List.length_cons]
        omega
      rw [if_neg more]
      obtain ⟨silent, ends⟩ := ih last h.2
      exact ⟨⟨nothing, silent⟩, ends⟩

theorem silent_rows {frames : List Bytes} (link : Link)
    (h : ∀ f ∈ frames, frames? (fun p => !p.isError && !p.isEof) f = true) :
    rows.Silent link frames ∧ rows.after frames = .rows := by
  induction frames with
  | nil => exact ⟨trivial, rfl⟩
  | cons f rest ih =>
    rw [List.forall_mem_cons] at h
    obtain ⟨stays, nothing⟩ := hear_row link h.1
    obtain ⟨silent, ends⟩ := ih h.2
    unfold Silent after
    rw [stays]
    exact ⟨⟨nothing, silent⟩, ends⟩

end Reply.State

namespace ResultSet

variable {r : ResultSet}

theorem silent_opening (link : Link) (wellFormed : r.WellFormed) :
    Reply.State.idle.Silent link r.opening ∧
      Reply.State.idle.after r.opening = .columnsEnd := by
  obtain ⟨starts, nothing, some⟩ := Reply.State.hear_head link wellFormed.head
  obtain ⟨silent, ends⟩ :=
    Reply.State.silent_columns link (List.length_pos_iff.mp some) wellFormed.columns
  unfold opening Reply.State.Silent Reply.State.after
  rw [starts]
  exact ⟨⟨nothing, silent⟩, ends⟩

theorem after_columnsEnd (wellFormed : r.WellFormed) :
    Reply.State.idle.after (r.opening ++ [r.columnsEnd]) = .rows := by
  -- where the link is does not depend on which link it is
  have link : Link := ⟨0, ⟨""⟩, {}⟩
  rw [Reply.State.after_append, (silent_opening link wellFormed).2]
  exact (Reply.State.hear_columnsEnd link wellFormed.columnsEnd).1

/-- Behind the end of the columns a result set is silent. -/
theorem silent_behind (link : Link) (wellFormed : r.WellFormed) :
    Reply.State.rows.Silent link (r.rows ++ [r.rowsEnd]) ∧
      Reply.State.rows.after (r.rows ++ [r.rowsEnd]) = .idle := by
  obtain ⟨silent, stays⟩ := Reply.State.silent_rows link wellFormed.rows
  obtain ⟨ends, nothing⟩ := Reply.State.hear_rowsEnd link wellFormed.rowsEnd
  rw [Reply.State.silent_append, Reply.State.after_append, stays]
  exact ⟨⟨silent, nothing, trivial⟩, ends⟩

/-- A result set that is cut behind the end of its columns. -/
theorem take_frames {n : Nat} (behind : r.opening.length < n) (short : n < r.frames.length) :
    r.frames.take n =
      r.opening ++ r.columnsEnd :: r.rows.take (n - (r.opening.length + 1)) := by
  have length : r.frames.length = r.opening.length + (r.rows.length + 2) := by
    simp [frames]
  obtain ⟨m, rfl⟩ : ∃ m, n = r.opening.length + (m + 1) :=
    ⟨n - (r.opening.length + 1), by omega⟩
  have fewer : m ≤ r.rows.length := by omega
  have rest : r.opening.length + (m + 1) - (r.opening.length + 1) = m := by omega
  unfold frames
  rw [List.take_length_add_append, List.take_succ_cons, List.take_append_of_le_length fewer, rest]

end ResultSet

/-- Where in an answer a frame speaks to the coordinator, if one does. -/
inductive Answer.Shape (link : Link) (a : Answer) : Prop where
  /-- At most one frame does. -/
  | once {fs gs : List Bytes} {f : Bytes} (split : a.frames = fs ++ f :: gs)
      (before : Reply.State.idle.Silent link fs)
      (behind : (Reply.State.idle.after (fs ++ [f])).Silent link gs) (whole : a.cutBehind? = none)
  /-- The end of the columns does, and so does the error. -/
  | twice {fs gs : List Bytes} {f g : Bytes} (split : a.frames = fs ++ f :: (gs ++ [g]))
      (before : Reply.State.idle.Silent link fs)
      (first : ((Reply.State.idle.after fs).remark link f).isSome = true)
      (between : (Reply.State.idle.after (fs ++ [f])).Silent link gs)
      (second : ((Reply.State.idle.after (fs ++ f :: gs)).remark link g).isSome = true)
      (cut : a.cutBehind? = some fs.length)

theorem Answer.shape (link : Link) {a : Answer} (complete : a.Complete) :
    a.Shape link ∧ Reply.State.idle.after a.frames = .idle := by
  cases a with
  | ok frame =>
    obtain ⟨ends, -⟩ := Reply.State.hear_ok link complete
    exact ⟨.once (List.nil_append [frame]).symm trivial trivial rfl, ends⟩
  | error frame =>
    obtain ⟨ends, -⟩ := Reply.State.hear_error .idle link complete
    exact ⟨.once (List.nil_append [frame]).symm trivial trivial rfl, ends⟩
  | rows r =>
    obtain ⟨before, -⟩ := ResultSet.silent_opening link complete
    obtain ⟨behind, ends⟩ := ResultSet.silent_behind link complete
    have rows := ResultSet.after_columnsEnd complete
    constructor
    · refine .once rfl before ?_ rfl
      rw [rows]
      exact behind
    · show Reply.State.idle.after (r.opening ++ r.columnsEnd :: (r.rows ++ [r.rowsEnd])) = .idle
      rw [List.append_cons, Reply.State.after_append, rows, ends]
  | cut r n last =>
    obtain ⟨wellFormed, short, error⟩ := complete
    obtain ⟨before, leads⟩ := ResultSet.silent_opening link wellFormed
    have speaks := fun s => Reply.State.hear_error s link error
    have ends : Reply.State.idle.after (r.frames.take n ++ [last]) = .idle := by
      rw [Reply.State.after_append]
      exact (speaks _).1
    refine ⟨?_, ends⟩
    by_cases behind : r.opening.length < n
    · have split : (Answer.cut r n last).frames =
          r.opening ++ r.columnsEnd :: (r.rows.take (n - (r.opening.length + 1)) ++ [last]) := by
        show r.frames.take n ++ [last] = _
        rw [ResultSet.take_frames behind short, List.append_assoc]
        rfl
      refine .twice split before ?_ ?_ (speaks _).2 (if_pos behind)
      · rw [leads]
        exact (Reply.State.hear_columnsEnd link wellFormed.columnsEnd).2
      · rw [ResultSet.after_columnsEnd wellFormed]
        have rows : ∀ f ∈ r.rows.take (n - (r.opening.length + 1)),
            frames? (fun p => !p.isError && !p.isEof) f = true :=
          fun f mem => wellFormed.rows f (List.mem_of_mem_take mem)
        exact (Reply.State.silent_rows link rows).1
    · -- the error comes before anything was said
      have split : (Answer.cut r n last).frames = r.opening.take n ++ last :: [] := by
        show (r.opening ++ _).take n ++ [last] = _
        rw [List.take_append_of_le_length (Nat.le_of_not_lt behind)]
      refine .once split ?_ trivial (if_neg behind)
      rw [← List.take_append_drop n r.opening, Reply.State.silent_append] at before
      exact before.1

end Wire

end AtomicCommit
