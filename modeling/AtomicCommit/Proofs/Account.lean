import AtomicCommit.Cohort
import Mathlib.Tactic.ByContra

/-!
# Accounts of cohorts

What a cohort has counted, entry by entry. `Cohort.Account ids es c` says that `c` is the cohort
opened over `ids` after the entries `es`, each of which it counted when it came; the lemmas read
the state of the cohort off the entries:

* **pending** — a participant is pending iff it was asked and no entry names it
  (`Account.mem_pending_iff`), and no two entries name one participant (`Account.entry_unique`);
* **failures** — failures, errors, losses and unnamed slots are those of the entries
  (`Account.errorCount_eq` and its neighbours);
* **unanimity** — a cohort that closes without a failure closes with everyone counted as a
  success (`Account.unanimous`).
-/

namespace AtomicCommit

namespace Cohort

/-! ## Entries -/

/-- One event as a cohort counts it. -/
inductive Entry where
  /-- A success, and the OK packet that came with it. -/
  | ok (id : ParticipantId) (packet : Option Bytes)
  /-- An error answer. -/
  | error (id : ParticipantId) (message : String)
  /-- A link that closed while an answer was owed. -/
  | closed (id : ParticipantId) (message : String)
  /-- A slot taken by a failure that names nobody. -/
  | unreachable (message : String)
  deriving DecidableEq, Repr

namespace Entry

/-- The participant that the entry takes out of the pending set. -/
def id? : Entry → Option ParticipantId
  | .ok id _ | .error id _ | .closed id _ => some id
  | .unreachable _ => none

/-- Everything but a success. -/
def isFailure : Entry → Bool
  | .ok .. => false
  | _ => true

/-- A failure that sending the command again cannot mend. -/
def isLoss : Entry → Bool
  | .closed .. | .unreachable _ => true
  | _ => false

def errored? : Entry → Option ParticipantId
  | .error id _ => some id
  | _ => none

def lost? : Entry → Option ParticipantId
  | .closed id _ => some id
  | _ => none

def text? : Entry → Option String
  | .ok .. => none
  | .error _ message | .closed _ message | .unreachable message => some message

theorem isSome_text (e : Entry) : e.text?.isSome = e.isFailure := by
  cases e <;> rfl

theorem isFailure_of_isLoss {e : Entry} (h : e.isLoss = true) : e.isFailure = true := by
  cases e <;> simp_all [isLoss, isFailure]

end Entry

/-! ## Booking -/

/-- The cohort that `begin` opens. -/
def opened (ids : List ParticipantId) : Cohort where
  isOpen := true
  complete := ids.eraseDups.isEmpty
  expected := ids.eraseDups.length
  pending := ids.eraseDups

/-- Put an entry into the books, whether or not the cohort is complete with it. -/
def book (c : Cohort) : Entry → Cohort
  | .ok id packet =>
    { c with
      pending := c.pending.erase id
      firstResponded := true
      successPacket :=
        if !c.firstResponded && c.expected == 1 then packet.or c.successPacket
        else c.successPacket }
  | .error id message =>
    { c.recordError message with
      pending := c.pending.erase id
      firstResponded := true
      errored := c.errored ++ [id] }
  | .closed id message =>
    { c.recordError message with
      pending := c.pending.erase id
      firstResponded := true
      lost := c.lost ++ [id] }
  | .unreachable message =>
    { c.recordError message with unreachable := c.unreachable + 1 }

/-- Opened, and more are pending than slots are taken. -/
structure Waiting (c : Cohort) : Prop where
  isOpen : c.isOpen = true
  incomplete : c.complete = false
  owed : c.unreachable < c.pending.length

theorem begin_eq_opened (c : Cohort) (ids : List ParticipantId)
    (h : (c.isOpen && !c.complete) = false) : c.begin ids = .ok (opened ids) := by
  unfold begin
  rw [h]
  rfl

theorem waiting_opened {ids : List ParticipantId} (h : ids ≠ []) : (opened ids).Waiting := by
  have nonempty : ids.eraseDups ≠ [] := by
    cases ids with
    | nil => exact absurd rfl h
    | cons id rest => simp [List.eraseDups_cons]
  refine ⟨rfl, ?_, ?_⟩
  · simpa [opened] using nonempty
  · exact List.length_pos_iff.mpr nonempty

theorem markComplete_of_owed {c : Cohort} (h : c.unreachable < c.pending.length) :
    c.markComplete = (c, false) := by
  unfold markComplete
  rw [if_neg]
  simp only [Bool.and_eq_true, decide_eq_true_eq, not_and]
  intro _
  omega

theorem markComplete_of_settled {c : Cohort} (isOpen : c.isOpen = true)
    (incomplete : c.complete = false) (h : c.pending.length ≤ c.unreachable) :
    c.markComplete = ({ c with complete := true }, true) := by
  unfold markComplete
  rw [if_pos]
  simp [isOpen, incomplete, h]

@[simp] theorem isOpen_book (c : Cohort) (e : Entry) : (c.book e).isOpen = c.isOpen := by
  cases e <;> rfl

@[simp] theorem complete_book (c : Cohort) (e : Entry) : (c.book e).complete = c.complete := by
  cases e <;> rfl

/-- An entry that names somebody takes no slot. -/
theorem unreachable_book {c : Cohort} {e : Entry} {id : ParticipantId} (named : e.id? = some id) :
    (c.book e).unreachable = c.unreachable := by
  cases e with
  | ok | error | closed => rfl
  | unreachable => exact absurd named (by simp [Entry.id?])

/-! ## Events as entries -/

theorem respondedWith_eq {c : Cohort} {id : ParticipantId} (h : c.isPending id = true)
    (packet : Bytes) :
    c.respondedWith id packet = (c.book (.ok id (some packet))).markComplete := by
  unfold respondedWith settle
  rw [if_pos h]
  dsimp only [book]
  split <;> rfl

theorem responded_eq {c : Cohort} {id : ParticipantId} (h : c.isPending id = true) :
    c.responded id = (c.book (.ok id none)).markComplete := by
  unfold responded settle
  rw [if_pos h]
  dsimp only [book]
  simp

theorem erroredWith_eq {c : Cohort} {id : ParticipantId} (h : c.isPending id = true)
    (message : String) :
    c.erroredWith id message = (c.book (.error id message)).markComplete := by
  unfold erroredWith settle
  rw [if_pos h]
  rfl

theorem linkClosed_eq {c : Cohort} {id : ParticipantId} (h : c.isPending id = true)
    (message : String) :
    c.linkClosed id message =
      ((c.book (.closed id message)).markComplete.1,
        .counted (c.book (.closed id message)).markComplete.2) := by
  unfold linkClosed settle
  rw [if_pos h]
  rfl

theorem linkClosed_of_not_pending {c : Cohort} {id : ParticipantId}
    (h : c.isPending id = false) (message : String) :
    c.linkClosed id message = (c, .betweenStages) := by
  unfold linkClosed settle
  rw [h]
  rfl

theorem connectError_eq {c : Cohort} (isOpen : c.isOpen = true) (incomplete : c.complete = false)
    (message : String) :
    c.connectError message = (c.book (.unreachable message)).markComplete := by
  unfold connectError
  rw [isOpen, incomplete]
  rfl

/-! ## Accounts -/

/-- The cohort opened over `ids` after it counted these entries. -/
inductive Account (ids : List ParticipantId) : List Entry → Cohort → Prop where
  | opened : Account ids [] (opened ids)
  | booked {es : List Entry} {c : Cohort} {e : Entry} (past : Account ids es c)
      (owed : ∀ id, e.id? = some id → id ∈ c.pending) : Account ids (es ++ [e]) (c.book e)

namespace Account

variable {ids : List ParticipantId} {es : List Entry} {c : Cohort}

theorem nodup_eraseDups : ∀ ids : List ParticipantId, ids.eraseDups.Nodup
  | [] => List.nodup_nil
  | id :: rest => by
    rw [List.eraseDups_cons, List.nodup_cons]
    refine ⟨?_, nodup_eraseDups _⟩
    simp [List.mem_eraseDups]
  termination_by ids => ids.length
  decreasing_by
    have := List.length_filter_le (fun b => !b == id) rest
    simp only [List.length_cons]
    omega

theorem eraseDups_of_nodup {ids : List ParticipantId} (distinct : ids.Nodup) :
    ids.eraseDups = ids := by
  induction ids with
  | nil => rfl
  | cons id rest ih =>
    obtain ⟨fresh, others⟩ := List.nodup_cons.mp distinct
    have kept : rest.filter (fun b => !b == id) = rest := by
      apply List.filter_eq_self.mpr
      intro other member
      have different : other ≠ id := ne_of_mem_of_not_mem member fresh
      simp [different]
    rw [List.eraseDups_cons, kept, ih others]

theorem pending_book (c : Cohort) (e : Entry) :
    (c.book e).pending = (e.id?.map c.pending.erase).getD c.pending := by
  cases e <;> rfl

theorem nodup_pending (h : Account ids es c) : c.pending.Nodup := by
  induction h with
  | opened => exact nodup_eraseDups ids
  | booked past owed ih =>
    rename_i es c e
    rw [pending_book]
    cases e.id? with
    | none => exact ih
    | some id => exact ih.erase id

/-- A participant is pending iff it was asked and no entry names it. -/
theorem mem_pending_iff (h : Account ids es c) (id : ParticipantId) :
    id ∈ c.pending ↔ id ∈ ids ∧ ∀ e ∈ es, e.id? ≠ some id := by
  induction h with
  | opened => simp [Cohort.opened, List.mem_eraseDups]
  | booked past owed ih =>
    rename_i es c e
    rw [pending_book]
    cases named : e.id? with
    | none => simp [ih, named, or_imp, forall_and]
    | some other =>
      -- nobody is pending twice, so the entry takes the participant out for good
      simp only [Option.map_some, Option.getD_some]
      rw [past.nodup_pending.mem_erase_iff, ih]
      simp only [List.mem_append, List.mem_singleton, or_imp, forall_and, forall_eq, named,
        ne_eq, Option.some.injEq]
      constructor
      · rintro ⟨different, asked, unnamed⟩
        exact ⟨asked, unnamed, fun same => different same.symm⟩
      · rintro ⟨asked, unnamed, different⟩
        exact ⟨fun same => different same.symm, asked, unnamed⟩

/-- Entries name only who was asked. -/
theorem asked (h : Account ids es c) {e : Entry} (mem : e ∈ es) {id : ParticipantId}
    (named : e.id? = some id) : id ∈ ids := by
  induction h with
  | opened => exact absurd mem List.not_mem_nil
  | booked past owed ih =>
    rcases List.mem_append.mp mem with earlier | last
    · exact ih earlier
    · rw [List.mem_singleton.mp last] at named
      exact ((past.mem_pending_iff id).mp (owed id named)).1

theorem entry_unique (h : Account ids es c) {e f : Entry} (left : e ∈ es) (right : f ∈ es)
    {id : ParticipantId} (names : e.id? = some id) (alsoNames : f.id? = some id) : e = f := by
  induction h with
  | opened => exact absurd left List.not_mem_nil
  | booked past owed ih =>
    rename_i es c last
    -- what the last entry names was pending before, so no earlier one names it
    have fresh : ∀ e ∈ es, last.id? = some id → e.id? ≠ some id := by
      intro e earlier named
      exact ((past.mem_pending_iff id).mp (owed id named)).2 e earlier
    rcases List.mem_append.mp left with leftEarlier | leftLast <;>
      rcases List.mem_append.mp right with rightEarlier | rightLast
    · exact ih leftEarlier rightEarlier
    · obtain rfl := List.mem_singleton.mp rightLast
      exact absurd names (fresh e leftEarlier alsoNames)
    · obtain rfl := List.mem_singleton.mp leftLast
      exact absurd alsoNames (fresh f rightEarlier names)
    · rw [List.mem_singleton.mp leftLast, List.mem_singleton.mp rightLast]

theorem errorCount_eq (h : Account ids es c) : c.errorCount = es.countP Entry.isFailure := by
  induction h with
  | opened => rfl
  | booked past owed ih =>
    rename_i es c e
    rw [List.countP_append, ← ih]
    cases e <;> simp [book, recordError, Entry.isFailure]

theorem errored_eq (h : Account ids es c) : c.errored = es.filterMap Entry.errored? := by
  induction h with
  | opened => rfl
  | booked past owed ih =>
    rename_i es c e
    rw [List.filterMap_append, ← ih]
    cases e <;> simp [book, recordError, Entry.errored?]

theorem lost_eq (h : Account ids es c) : c.lost = es.filterMap Entry.lost? := by
  induction h with
  | opened => rfl
  | booked past owed ih =>
    rename_i es c e
    rw [List.filterMap_append, ← ih]
    cases e <;> simp [book, recordError, Entry.lost?]

/-- The text kept is that of the first failure. -/
theorem firstError_eq (h : Account ids es c) : c.firstError = es.findSome? Entry.text? := by
  induction h with
  | opened => rfl
  | booked past owed ih =>
    rename_i es c e
    rw [List.findSome?_append, ← ih]
    cases e <;> simp [book, recordError, Entry.text?]

theorem noLoss_iff (h : Account ids es c) :
    (c.lost = [] ∧ c.unreachable = 0) ↔ ∀ e ∈ es, e.isLoss = false := by
  induction h with
  | opened => simp [Cohort.opened]
  | booked past owed ih =>
    rename_i es c e
    simp only [List.mem_append, List.mem_singleton, or_imp, forall_and, forall_eq, ← ih]
    cases e <;> simp [book, recordError, Entry.isLoss]

/-- Without a loss, a cohort that closes has nobody pending. -/
theorem pending_eq_nil (h : Account ids es c) (closes : c.pending.length ≤ c.unreachable)
    (noLoss : ∀ e ∈ es, e.isLoss = false) : c.pending = [] := by
  have none := (h.noLoss_iff.mpr noLoss).2
  exact List.length_eq_zero_iff.mp (by omega)

/-- A cohort that closes without a loss has an entry for everyone that was asked. -/
theorem exists_entry (h : Account ids es c) (closes : c.pending.length ≤ c.unreachable)
    (noLoss : ∀ e ∈ es, e.isLoss = false) {id : ParticipantId} (asked : id ∈ ids) :
    ∃ e ∈ es, e.id? = some id := by
  by_contra unnamed
  have pending : id ∈ c.pending := by
    rw [h.mem_pending_iff]
    refine ⟨asked, ?_⟩
    intro e inEntries names
    exact unnamed ⟨e, inEntries, names⟩
  rw [h.pending_eq_nil closes noLoss] at pending
  exact absurd pending List.not_mem_nil

/-- A cohort that closes without a failure has counted everyone as a success. -/
theorem unanimous (h : Account ids es c) (closes : c.pending.length ≤ c.unreachable)
    (noFailure : ∀ e ∈ es, e.isFailure = false) {id : ParticipantId} (asked : id ∈ ids) :
    ∃ packet, Entry.ok id packet ∈ es := by
  have noLoss : ∀ e ∈ es, e.isLoss = false := by
    intro e inEntries
    cases loss : e.isLoss with
    | false => rfl
    | true => exact absurd (Entry.isFailure_of_isLoss loss) (by simp [noFailure e inEntries])
  obtain ⟨e, inEntries, names⟩ := h.exists_entry closes noLoss asked
  have success := noFailure e inEntries
  cases e with
  | ok other packet =>
    obtain rfl : other = id := by simpa [Entry.id?] using names
    exact ⟨packet, inEntries⟩
  | error | closed | unreachable => simp [Entry.isFailure] at success

end Account

end Cohort

end AtomicCommit
