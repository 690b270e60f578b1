import AtomicCommit.Proofs.Account
import Mathlib.Data.Finset.Card
import Mathlib.Data.List.Perm.Basic

/-!
# Tallies

What a cohort makes of any events in any order, also of those from participants that owe it nothing.
An event is effective if fewer participants are pending behind it or one more slot is taken.

* **one event** — `meet_of_not_heeds` and `meet_of_heeds`: an event changes nothing, or it is
  booked and may complete the cohort. `Tally.meet` reads off how many are effective what it reports.
* **a run** — `Tally.after`, by induction on the events.
* **counting** — `completes_once`: the cohort reports its completion at the effective event that
  makes their number the number of participants, and at no other.
* **behind completion** — `outcome_after` and `outcome_after_complete_iff`: participants that are
  still pending, because unnamed failures took their slots, can still change the outcome.
-/

namespace AtomicCommit

/-- The outcomes differ at most by the order of those that failed, and by which of the texts is
kept. -/
structure Outcome.Reordered (texts : List String) (o other : Outcome) : Prop where
  size : o.size = other.size
  failed : o.failed = other.failed
  error : Option.Rel (fun left right => left ∈ texts ∧ right ∈ texts) o.error other.error
  errored : o.errored.Perm other.errored
  lost : o.lost.Perm other.lost
  unreachable : o.unreachable = other.unreachable
  successPacket : o.successPacket = other.successPacket

namespace Cohort

/-! ## Events -/

/-- Call the cohort with an event. The flag says whether the cohort reports to be complete with
it. -/
def meet (c : Cohort) : Entry → Cohort × Bool
  | .ok id none => c.responded id
  | .ok id (some packet) => c.respondedWith id packet
  | .error id message => c.erroredWith id message
  | .closed id message =>
    let (closed, effect) := c.linkClosed id message
    (closed, effect == .counted true)
  | .unreachable message => c.connectError message

def after (c : Cohort) : List Entry → Cohort
  | [] => c
  | e :: es => (c.meet e).1.after es

/-- The event takes a participant out of the pending set, or it takes a slot. -/
def isEffective (c : Cohort) (e : Entry) : Bool :=
  (c.meet e).1.pending.length < c.pending.length || c.unreachable < (c.meet e).1.unreachable

/-- The effective ones of these events. -/
def effectives (c : Cohort) : List Entry → List Entry
  | [] => []
  | e :: es =>
    if c.isEffective e then e :: (c.meet e).1.effectives es else (c.meet e).1.effectives es

/-- What the cohort reports of each of these events. -/
def reports (c : Cohort) : List Entry → List Bool
  | [] => []
  | e :: es => (c.meet e).2 :: (c.meet e).1.reports es

/-- The packet that came with a success. -/
def Entry.packet? : Entry → Option Bytes
  | .ok _ packet => packet
  | _ => none

/-! ## One event -/

/-- The cohort still waits for whom the event names, or for anybody if it names nobody. -/
def heeds (c : Cohort) (e : Entry) : Bool :=
  match e.id? with
  | some id => c.isPending id
  | none => c.isOpen && !c.complete

variable {c : Cohort} {e : Entry}

theorem mem_pending_of_heeds {id : ParticipantId} (h : c.heeds e = true)
    (named : e.id? = some id) : id ∈ c.pending := by
  simpa [heeds, named, isPending] using h

theorem meet_of_heeds (h : c.heeds e = true) : c.meet e = (c.book e).markComplete := by
  cases e with
  | ok id packet =>
    cases packet with
    | none => exact responded_eq h
    | some packet => exact respondedWith_eq h packet
  | error id message => exact erroredWith_eq h message
  | closed id message =>
    rw [meet, linkClosed_eq h]
    cases complete : (c.book (.closed id message)).markComplete.2 with
    | false => exact Prod.ext rfl complete.symm
    | true => exact Prod.ext rfl complete.symm
  | unreachable message =>
    obtain ⟨isOpen, incomplete⟩ : c.isOpen = true ∧ c.complete = false := by
      simpa [heeds, Entry.id?] using h
    exact connectError_eq isOpen incomplete message

theorem meet_of_not_heeds (h : c.heeds e = false) : c.meet e = (c, false) := by
  -- nobody leaves the pending set
  have settle (id : ParticipantId) (named : e.id? = some id) : c.settle id = none := by
    unfold settle
    rw [if_neg]
    simpa [heeds, named] using h
  cases e with
  | ok id packet =>
    cases packet with
    | none => rw [meet, responded, settle id rfl]
    | some packet => rw [meet, respondedWith, settle id rfl]
  | error id message => rw [meet, erroredWith, settle id rfl]
  | closed id message => rw [meet, linkClosed, settle id rfl]; rfl
  | unreachable message =>
    have closed : (!c.isOpen || c.complete) = true := by
      simpa [heeds, Entry.id?, imp_iff_not_or] using h
    rw [meet, connectError, if_pos closed]

/-- An open cohort is complete when no more are pending than slots are taken, and reports it if it
was not complete before. -/
theorem markComplete_eq (isOpen : c.isOpen = true) :
    c.markComplete =
      ({ c with complete := c.complete || decide (c.pending.length ≤ c.unreachable) },
        !c.complete && decide (c.pending.length ≤ c.unreachable)) := by
  obtain ⟨opened, complete, _, pending, _, unreachable, _⟩ := c
  obtain rfl : opened = true := isOpen
  unfold markComplete
  cases complete with
  | true => rfl
  | false => by_cases settled : pending.length ≤ unreachable <;> simp [settled]

/-- A complete cohort stays complete, and reports it no more. -/
theorem meet_of_complete (done : c.complete = true) (h : c.heeds e = true) :
    c.meet e = (c.book e, false) := by
  have complete : (c.book e).complete = true := (complete_book c e).trans done
  rw [meet_of_heeds h, markComplete, complete, if_neg]
  simp

/-- Completion is all that can be marked. -/
theorem markComplete_fst (c : Cohort) :
    ∃ complete, c.markComplete.1 = { c with complete := complete } := by
  unfold markComplete
  split
  · exact ⟨true, rfl⟩
  · exact ⟨c.complete, rfl⟩

theorem isEffective_eq_heeds (c : Cohort) (e : Entry) : c.isEffective e = c.heeds e := by
  cases h : c.heeds e with
  | false => simp [isEffective, meet_of_not_heeds h]
  | true =>
    obtain ⟨complete, marked⟩ := markComplete_fst (c.book e)
    rw [isEffective, meet_of_heeds h, marked]
    cases e with
    | ok id | error id | closed id =>
      have pending : id ∈ c.pending := mem_pending_of_heeds h rfl
      have shorter : (c.pending.erase id).length < c.pending.length := by
        rw [List.length_erase_of_mem pending]
        have := List.length_pos_of_mem pending
        omega
      simp [book, shorter]
    | unreachable message => simp [book, recordError]

/-! ## Balances -/

namespace Account

variable {ids : List ParticipantId} {es : List Entry}

theorem isOpen (account : Account ids es c) : c.isOpen = true := by
  induction account with
  | opened => rfl
  | booked past owed ih => rw [isOpen_book, ih]

theorem length_eraseDups (ids : List ParticipantId) : ids.eraseDups.length = ids.toFinset.card := by
  rw [← List.toFinset_card_of_nodup (nodup_eraseDups ids)]
  congr 1
  ext id
  simp [List.mem_eraseDups]

theorem expected_eq (account : Account ids es c) : c.expected = ids.toFinset.card := by
  induction account with
  | opened => exact length_eraseDups ids
  | booked past owed ih =>
    rename_i es c e
    rw [← ih]
    cases e <;> rfl

/-- Each entry took a participant out of the pending set or took a slot. -/
theorem balance (account : Account ids es c) :
    c.pending.length + es.length = ids.toFinset.card + c.unreachable := by
  induction account with
  | opened => simp [Cohort.opened, length_eraseDups]
  | booked past owed ih =>
    rename_i es c e
    rw [List.length_append, List.length_singleton]
    cases e with
    | ok id | error id | closed id =>
      have pending : id ∈ c.pending := owed id rfl
      have positive := List.length_pos_of_mem pending
      have erased := List.length_erase_of_mem pending
      show (c.pending.erase id).length + (es.length + 1) = _ + c.unreachable
      omega
    | unreachable message =>
      show c.pending.length + (es.length + 1) = _ + (c.unreachable + 1)
      omega

theorem errorCount_eq_add (account : Account ids es c) :
    c.errorCount = c.errored.length + c.lost.length + c.unreachable := by
  induction account with
  | opened => rfl
  | booked past owed ih =>
    rename_i es c e
    cases e <;> simp only [book, recordError, List.length_append, List.length_singleton, ih] <;>
      omega

/-- A participant that is put down elsewhere when it leaves the pending set. -/
theorem perm_move {pending : List ParticipantId} {id : ParticipantId} (mem : id ∈ pending)
    (left right : List ParticipantId) :
    (pending.erase id ++ (left ++ id :: right)).Perm (pending ++ (left ++ right)) := by
  calc (pending.erase id ++ (left ++ id :: right)).Perm
        (pending.erase id ++ id :: (left ++ right)) := List.perm_middle.append_left _
    _ |>.Perm (id :: (pending.erase id ++ (left ++ right))) := List.perm_middle
    _ |>.Perm (pending ++ (left ++ right)) := (List.perm_cons_erase mem).symm.append_right _

/-- Nobody is in two places, or twice in one. -/
theorem nodup (account : Account ids es c) : (c.pending ++ (c.errored ++ c.lost)).Nodup := by
  induction account with
  | opened => simpa [Cohort.opened] using nodup_eraseDups ids
  | booked past owed ih =>
    rename_i es c e
    cases e with
    | ok id packet => exact ih.sublist (List.erase_sublist.append_right _)
    | error id message =>
      have moved := perm_move (owed id rfl) c.errored c.lost
      rw [List.append_cons] at moved
      exact moved.nodup_iff.mpr ih
    | closed id message =>
      have moved := perm_move (owed id rfl) (c.errored ++ c.lost) []
      rw [List.append_nil, List.append_assoc] at moved
      exact moved.nodup_iff.mpr ih
    | unreachable message => exact ih

/-- The entries are all that a cohort is made of. -/
theorem eq_foldl (account : Account ids es c) : c = es.foldl book (Cohort.opened ids) := by
  induction account with
  | opened => rfl
  | booked past owed ih => rw [List.foldl_concat, ← ih]

/-- Only a cohort of one keeps a packet. -/
theorem successPacket_eq_none (account : Account ids es c) (several : ids.toFinset.card ≠ 1) :
    c.successPacket = none := by
  induction account with
  | opened => rfl
  | booked past owed ih =>
    rename_i es c e
    have several : (c.expected == 1) = false := by
      rw [past.expected_eq]
      simpa using several
    cases e with
    | ok => simp [book, several, ih]
    | error | closed | unreachable => exact ih

end Account

/-! ## Runs -/

/-- The cohort opened over `ids` after these effective events. -/
structure Tally (ids : List ParticipantId) (es : List Entry) (c : Cohort) : Prop where
  account : Account ids es { c with complete := (opened ids).complete }
  /-- It is complete when there are as many as participants. -/
  complete : c.complete = decide (ids.toFinset.card ≤ es.length)

namespace Tally

variable {ids : List ParticipantId} {es : List Entry}

theorem opened (ids : List ParticipantId) : Tally ids [] (opened ids) := by
  refine ⟨.opened, ?_⟩
  show ids.eraseDups.isEmpty = _
  rw [← Account.length_eraseDups]
  cases ids.eraseDups <;> rfl

/-- An effective event counts, and the cohort reports it if it is the last that was owed. -/
theorem meet (tally : Tally ids es c) (h : c.heeds e = true) :
    Tally ids (es ++ [e]) (c.meet e).1 ∧
      (c.meet e).2 = decide (es.length + 1 = ids.toFinset.card) := by
  have books : Account ids (es ++ [e])
      { c.book e with complete := (Cohort.opened ids).complete } := by
    have owed : ∀ id, e.id? = some id → id ∈ c.pending := by
      intro id named
      exact mem_pending_of_heeds h named
    have booked := tally.account.booked owed
    cases e <;> exact booked
  have isOpen : (c.book e).isOpen = true := books.isOpen
  have balance : (c.book e).pending.length + (es.length + 1) =
      ids.toFinset.card + (c.book e).unreachable := by
    rw [← List.length_singleton (a := e), ← List.length_append]
    exact books.balance
  rw [meet_of_heeds h, markComplete_eq isOpen]
  refine ⟨⟨books, ?_⟩, ?_⟩
  · show ((c.book e).complete || decide _) = _
    rw [complete_book, tally.complete, List.length_append, List.length_singleton, Bool.eq_iff_iff]
    simp only [Bool.or_eq_true, decide_eq_true_eq]
    omega
  · rw [complete_book, tally.complete, Bool.eq_iff_iff]
    simp only [Bool.and_eq_true, Bool.not_eq_true', decide_eq_false_iff_not, decide_eq_true_eq]
    omega

theorem after (tally : Tally ids es c) (events : List Entry) :
    Tally ids (es ++ c.effectives events) (c.after events) := by
  induction events generalizing es c with
  | nil =>
    rw [effectives, List.append_nil]
    exact tally
  | cons e rest ih =>
    rw [effectives, isEffective_eq_heeds, Cohort.after]
    cases h : c.heeds e with
    | false =>
      rw [meet_of_not_heeds h]
      exact ih tally
    | true =>
      have next := ih (tally.meet h).1
      rw [List.append_assoc] at next
      exact next

/-- Completion is reported once, if the effective events reach the number of participants. -/
theorem count_reports (tally : Tally ids es c) (events : List Entry) :
    (c.reports events).count true =
      if es.length < ids.toFinset.card ∧
          ids.toFinset.card ≤ es.length + (c.effectives events).length then 1 else 0 := by
  induction events generalizing es c with
  | nil =>
    rw [if_neg]
    · rfl
    · rintro ⟨fewer, enough⟩
      exact Nat.not_le_of_lt fewer enough
  | cons e rest ih =>
    rw [reports, effectives, isEffective_eq_heeds, List.count_cons]
    cases h : c.heeds e with
    | false =>
      rw [meet_of_not_heeds h]
      exact ih tally
    | true =>
      obtain ⟨next, report⟩ := tally.meet h
      rw [ih next, report, if_pos rfl, List.length_append, List.length_singleton, List.length_cons]
      simp only [beq_true, decide_eq_true_eq]
      -- the completion is this event, or one behind it, or one before it
      split_ifs <;> omega

end Tally

/-! ## Orders of events -/

namespace Account

variable {c' : Cohort} {ids : List ParticipantId} {es fs : List Entry}

/-- The texts that are kept are texts of entries, and there is one in both orders or in neither. -/
theorem firstError_rel (account : Account ids es c) (account' : Account ids fs c')
    (perm : es.Perm fs) :
    Option.Rel
      (fun left right => left ∈ es.filterMap Entry.text? ∧ right ∈ es.filterMap Entry.text?)
      c.firstError c'.firstError := by
  rw [account.firstError_eq, account'.firstError_eq]
  have texts (fs : List Entry) (perm : es.Perm fs) {text : String}
      (first : fs.findSome? Entry.text? = some text) : text ∈ es.filterMap Entry.text? := by
    obtain ⟨e, member, worded⟩ := List.exists_of_findSome?_eq_some first
    exact List.mem_filterMap.mpr ⟨e, perm.mem_iff.mpr member, worded⟩
  cases first : es.findSome? Entry.text? with
  | none =>
    have silent : fs.findSome? Entry.text? = none := by
      rw [List.findSome?_eq_none_iff] at first ⊢
      intro e member
      exact first e (perm.mem_iff.mpr member)
    rw [silent]
    exact .none
  | some left =>
    cases other : fs.findSome? Entry.text? with
    | none =>
      obtain ⟨e, member, worded⟩ := List.exists_of_findSome?_eq_some first
      have silent := List.findSome?_eq_none_iff.mp other e (perm.mem_iff.mp member)
      exact absurd (worded.symm.trans silent) (by simp)
    | some right => exact .some ⟨texts es (.refl es) first, texts fs perm other⟩

theorem successPacket_eq (account : Account ids es c) (account' : Account ids fs c')
    (perm : es.Perm fs) (within : es.length ≤ ids.toFinset.card) :
    c.successPacket = c'.successPacket := by
  by_cases single : ids.toFinset.card = 1
  · -- one entry has one order
    have same : es = fs := by
      cases es with
      | nil => exact perm.nil_eq
      | cons e rest =>
        obtain rfl : rest = [] := by
          rw [single, List.length_cons] at within
          exact List.length_eq_zero_iff.mp (by omega)
        exact List.singleton_perm.mp perm
    rw [account.eq_foldl, account'.eq_foldl, same]
  · rw [account.successPacket_eq_none single, account'.successPacket_eq_none single]

theorem outcome_reordered (account : Account ids es c) (account' : Account ids fs c')
    (perm : es.Perm fs) (within : es.length ≤ ids.toFinset.card) :
    c.outcome.Reordered (es.filterMap Entry.text?) c'.outcome := by
  have errors : c.errorCount = c'.errorCount := by
    rw [account.errorCount_eq, account'.errorCount_eq, perm.countP_eq]
  have errored : c.errored.Perm c'.errored := by
    rw [account.errored_eq, account'.errored_eq]
    exact perm.filterMap _
  have lost : c.lost.Perm c'.lost := by
    rw [account.lost_eq, account'.lost_eq]
    exact perm.filterMap _
  refine ⟨?_, ?_, account.firstError_rel account' perm, errored, lost, ?_,
    account.successPacket_eq account' perm within⟩
  · exact account.expected_eq.trans account'.expected_eq.symm
  · show decide (0 < c.errorCount) = decide (0 < c'.errorCount)
    rw [errors]
  · have left := account.errorCount_eq_add
    have right := account'.errorCount_eq_add
    have sameErrored := errored.length_eq
    have sameLost := lost.length_eq
    show c.unreachable = c'.unreachable
    omega

end Account

/-! ## Counting -/

theorem eq_opened_of_begin {start : Cohort} {ids : List ParticipantId}
    (begun : c.begin ids = .ok start) : start = opened ids := by
  by_cases busy : (c.isOpen && !c.complete) = true
  · rw [begin, if_pos busy] at begun
    exact absurd begun (by simp)
  · rw [begin_eq_opened c ids (Bool.eq_false_iff.mpr busy)] at begun
    exact (Except.ok.inj begun).symm

/-- **Counting.** Of a cohort opened over some participants, the event that is reported to complete
it is the effective one that makes their number the number of participants; it is reported once if
there are as many, and never if there are fewer. The size stays as it is, each failure is that of an
errored or lost participant or of a slot, nobody is in two places, and in whatever order the
effective events come, the outcome is the same but for the order of its parts. -/
theorem completes_once {start : Cohort} {ids : List ParticipantId} (some : ids ≠ [])
    (begun : c.begin ids = .ok start) (events : List Entry) :
    (∀ e, ((start.after events).meet e).2 = true ↔
      (start.after events).isEffective e = true ∧
        (start.effectives events).length + 1 = ids.toFinset.card) ∧
    (start.reports events).count true =
      (if ids.toFinset.card ≤ (start.effectives events).length then 1 else 0) ∧
    (start.after events).expected = ids.toFinset.card ∧
    (start.after events).errorCount = (start.after events).errored.length +
      (start.after events).lost.length + (start.after events).unreachable ∧
    ((start.after events).pending ++
      ((start.after events).errored ++ (start.after events).lost)).Nodup ∧
    ∀ others, (start.effectives events).Perm (start.effectives others) →
      (start.effectives events).length = ids.toFinset.card →
      (start.after events).outcome.Reordered ((start.effectives events).filterMap Entry.text?)
        (start.after others).outcome := by
  obtain rfl := eq_opened_of_begin begun
  have tally (events : List Entry) := (Tally.opened ids).after events
  have positive : 0 < ids.toFinset.card := by
    rw [Finset.card_pos, List.toFinset_nonempty_iff]
    exact some
  refine ⟨?_, ?_, (tally events).account.expected_eq, (tally events).account.errorCount_eq_add,
    (tally events).account.nodup, ?_⟩
  · intro e
    rw [isEffective_eq_heeds]
    cases h : ((opened ids).after events).heeds e with
    | false => simp [meet_of_not_heeds h]
    | true => simp [((tally events).meet h).2]
  · rw [(Tally.opened ids).count_reports events]
    simp [positive]
  · intro others perm all
    have reordered :=
      (tally events).account.outcome_reordered (tally others).account perm (Nat.le_of_eq all)
    exact reordered

/-- Two participants, one of them named twice. One cannot be reached, the other fails, and a third
that was never asked and a second answer change nothing. -/
theorem two_complete_once :
    let start := opened [⟨"a"⟩, ⟨"b"⟩, ⟨"a"⟩]
    let events := [.closed ⟨"c"⟩ "gone", .unreachable "refused", .error ⟨"b"⟩ "deadlock",
      .ok ⟨"b"⟩ none]
    let others := [.error ⟨"b"⟩ "deadlock", .error ⟨"b"⟩ "again", .unreachable "refused"]
    (start.reports events).count true = 1 ∧ (start.after events).expected = 2 ∧
      (start.after events).outcome.Reordered ["refused", "deadlock"]
        (start.after others).outcome := by
  intro start events others
  have begun : ({} : Cohort).begin [⟨"a"⟩, ⟨"b"⟩, ⟨"a"⟩] = .ok start := rfl
  have asked : [(⟨"a"⟩ : ParticipantId), ⟨"b"⟩, ⟨"a"⟩].toFinset.card = 2 := rfl
  have first : start.effectives events = [.unreachable "refused", .error ⟨"b"⟩ "deadlock"] := rfl
  have second : start.effectives others = [.error ⟨"b"⟩ "deadlock", .unreachable "refused"] := rfl
  obtain ⟨-, count, size, -, -, orders⟩ := completes_once (by simp) begun events
  rw [first, asked] at count orders
  refine ⟨count, size.trans asked, orders others ?_ rfl⟩
  rw [second]
  exact List.Perm.swap _ _ _

end Cohort

/-! ## Behind completion -/

namespace Outcome

open Cohort

/-- The outcome with late events added to it. -/
def late (o : Outcome) (es : List Entry) : Outcome :=
  { o with
    errored := o.errored ++ es.filterMap Entry.errored?
    lost := o.lost ++ es.filterMap Entry.lost?
    successPacket :=
      if o.size = 1 then o.successPacket.or (es.findSome? Entry.packet?) else o.successPacket }

variable {o : Outcome} {es : List Entry}

@[simp] theorem late_nil (o : Outcome) : o.late [] = o := by
  simp [late]

theorem late_cons (o : Outcome) (e : Entry) (es : List Entry) :
    o.late (e :: es) = (o.late [e]).late es := by
  rw [← List.singleton_append]
  simp only [late, List.filterMap_append, List.append_assoc, List.findSome?_append]
  by_cases single : o.size = 1
  · simp only [if_pos single, Option.or_assoc]
  · simp only [if_neg single]

/-- Nothing is added by events that neither fail nor bring a packet that is kept. -/
theorem late_eq_self_iff :
    o.late es = o ↔ es.filterMap Entry.errored? = [] ∧ es.filterMap Entry.lost? = [] ∧
      (o.size = 1 → o.successPacket.or (es.findSome? Entry.packet?) = o.successPacket) := by
  obtain ⟨size, failed, error, errored, lost, unreachable, successPacket⟩ := o
  simp only [late, mk.injEq, true_and, List.append_right_eq_self, ite_eq_right_iff]

end Outcome

namespace Cohort

variable {c : Cohort} {e : Entry}

namespace Account

variable {ids : List ParticipantId} {es : List Entry}

/-- As long as all are pending, nobody was first. -/
theorem length_pending (account : Account ids es c) :
    c.pending.length ≤ ids.toFinset.card ∧
      (c.firstResponded = true → c.pending.length < ids.toFinset.card) := by
  induction account with
  | opened => simp [Cohort.opened, length_eraseDups]
  | booked past owed ih =>
    rename_i es c e
    cases e with
    | ok id | error id | closed id =>
      have pending : id ∈ c.pending := owed id rfl
      have positive := List.length_pos_of_mem pending
      have fewer : (c.pending.erase id).length < ids.toFinset.card := by
        rw [List.length_erase_of_mem pending]
        omega
      exact ⟨Nat.le_of_lt fewer, fun _ => fewer⟩
    | unreachable message => exact ih

theorem successPacket_of_quiet (account : Account ids es c) (quiet : c.firstResponded = false) :
    c.successPacket = none := by
  induction account with
  | opened => rfl
  | booked past owed ih =>
    rename_i es c e
    cases e with
    | ok | error | closed => exact absurd quiet (by simp [book])
    | unreachable message => exact ih quiet

theorem isSome_firstError (account : Account ids es c) :
    c.firstError.isSome = decide (0 < c.errorCount) := by
  induction account with
  | opened => rfl
  | booked past owed ih =>
    rename_i es c e
    cases e with
    | ok => exact ih
    | error | closed | unreachable => simp [book, recordError]

/-- If someone is pending behind as many entries as there are participants, an unnamed failure
took the slot. -/
theorem unreachable_of_pending (account : Account ids es c) (done : ids.toFinset.card ≤ es.length)
    {id : ParticipantId} (pending : id ∈ c.pending) : 0 < c.unreachable := by
  have positive := List.length_pos_of_mem pending
  have balance := account.balance
  omega

/-- One that is pending alone can still be the first. -/
theorem quiet_of_single (account : Account ids es c) (single : ids.toFinset.card = 1)
    {id : ParticipantId} (pending : id ∈ c.pending) : c.firstResponded = false := by
  have positive := List.length_pos_of_mem pending
  rw [Bool.eq_false_iff]
  intro first
  have fewer := account.length_pending.2 first
  omega

end Account

/-- Complete cohorts heed only those that are still pending. -/
theorem exists_pending_of_effective {later : List Entry} (done : c.complete = true)
    (member : e ∈ c.effectives later) : ∃ id, e.id? = some id ∧ id ∈ c.pending := by
  induction later generalizing c with
  | nil => exact absurd member List.not_mem_nil
  | cons first rest ih =>
    rw [effectives, isEffective_eq_heeds] at member
    cases h : c.heeds first with
    | false =>
      rw [meet_of_not_heeds h, h] at member
      exact ih done member
    | true =>
      rw [h, meet_of_complete done h] at member
      rcases List.mem_cons.mp member with here | behind
      · subst here
        cases named : e.id? with
        | none => simp [heeds, named, done] at h
        | some id => exact ⟨id, rfl, mem_pending_of_heeds h named⟩
      · obtain ⟨id, named, pending⟩ := ih ((complete_book c first).trans done) behind
        refine ⟨id, named, ?_⟩
        cases first with
        | ok | error | closed => exact List.mem_of_mem_erase pending
        | unreachable => exact pending

namespace Tally

variable {ids : List ParticipantId} {es : List Entry}

theorem length_of_complete (tally : Tally ids es c) (done : c.complete = true) :
    ids.toFinset.card ≤ es.length := by
  rw [tally.complete] at done
  exact of_decide_eq_true done

/-- Who is pending in a complete cohort has had its slot taken by a failure. -/
theorem failed_of_pending (tally : Tally ids es c) (done : c.complete = true) {id : ParticipantId}
    (pending : id ∈ c.pending) : 0 < c.errorCount ∧ ∃ text, c.firstError = some text := by
  have slot : 0 < c.unreachable :=
    tally.account.unreachable_of_pending (tally.length_of_complete done) pending
  have failed : 0 < c.errorCount := by
    have sum : c.errorCount = c.errored.length + c.lost.length + c.unreachable :=
      tally.account.errorCount_eq_add
    omega
  refine ⟨failed, Option.isSome_iff_exists.mp ?_⟩
  have text : c.firstError.isSome = decide (0 < c.errorCount) := tally.account.isSome_firstError
  rw [text]
  exact decide_eq_true failed

/-- What an effective event does to the outcome of a complete cohort. -/
theorem outcome_meet (tally : Tally ids es c) (done : c.complete = true)
    (h : c.heeds e = true) : (c.meet e).1.outcome = c.outcome.late [e] := by
  have size : c.expected = ids.toFinset.card := tally.account.expected_eq
  have pending {id : ParticipantId} (named : e.id? = some id) : id ∈ c.pending :=
    mem_pending_of_heeds h named
  rw [meet_of_complete done h]
  cases e with
  | ok id packet =>
    by_cases single : ids.toFinset.card = 1
    · have quiet : c.firstResponded = false := tally.account.quiet_of_single single (pending rfl)
      have bare : c.successPacket = none := tally.account.successPacket_of_quiet quiet
      simp [outcome, book, Outcome.late, Entry.errored?, Entry.lost?, Entry.packet?, size, single,
        quiet, bare]
    · simp [outcome, book, Outcome.late, Entry.errored?, Entry.lost?, size, single]
  | error id message | closed id message =>
    obtain ⟨failed, text, first⟩ := tally.failed_of_pending done (pending rfl)
    simp [outcome, book, recordError, Outcome.late, Entry.errored?, Entry.lost?, Entry.packet?,
      failed, first]
  | unreachable message => simp [heeds, Entry.id?, done] at h

theorem outcome_after (tally : Tally ids es c) (done : c.complete = true) (later : List Entry) :
    (c.after later).outcome = c.outcome.late (c.effectives later) := by
  induction later generalizing es c with
  | nil => exact c.outcome.late_nil.symm
  | cons e rest ih =>
    rw [effectives, isEffective_eq_heeds, Cohort.after]
    cases h : c.heeds e with
    | false =>
      rw [meet_of_not_heeds h]
      exact ih tally done
    | true =>
      have stays : (c.meet e).1.complete = true := by
        rw [meet_of_complete done h, complete_book, done]
      rw [ih (tally.meet h).1 stays, tally.outcome_meet done h, if_pos rfl, ← Outcome.late_cons]

/-- Only successes leave the outcome as it is, and a packet of a cohort of one does not. -/
theorem outcome_after_eq_iff (tally : Tally ids es c) (done : c.complete = true)
    (later : List Entry) :
    (c.after later).outcome = c.outcome ↔
      ∀ e ∈ c.effectives later,
        ∃ id packet, e = .ok id packet ∧ (ids.toFinset.card = 1 → packet = none) := by
  have size : c.expected = ids.toFinset.card := tally.account.expected_eq
  rw [tally.outcome_after done later, Outcome.late_eq_self_iff]
  constructor
  · rintro ⟨errored, lost, packets⟩ e member
    obtain ⟨id, named, pending⟩ := exists_pending_of_effective done member
    -- Only a success can come late and leave both the errors and the losses alone.
    cases e with
    | ok id packet =>
      refine ⟨id, packet, rfl, ?_⟩
      intro single
      have bare : c.successPacket = none :=
        tally.account.successPacket_of_quiet (tally.account.quiet_of_single single pending)
      have kept : c.successPacket.or ((c.effectives later).findSome? Entry.packet?) =
          c.successPacket := packets (size.trans single)
      rw [bare, Option.none_or, List.findSome?_eq_none_iff] at kept
      exact kept _ member
    | error id message =>
      have noError := List.filterMap_eq_nil_iff.mp errored _ member
      exact absurd noError (by simp [Entry.errored?])
    | closed id message =>
      have noLoss := List.filterMap_eq_nil_iff.mp lost _ member
      exact absurd noLoss (by simp [Entry.lost?])
    | unreachable message => exact absurd named (by simp [Entry.id?])
  · intro successes
    refine ⟨?_, ?_, ?_⟩
    · rw [List.filterMap_eq_nil_iff]
      intro e member
      obtain ⟨id, packet, rfl, -⟩ := successes e member
      rfl
    · rw [List.filterMap_eq_nil_iff]
      intro e member
      obtain ⟨id, packet, rfl, -⟩ := successes e member
      rfl
    · intro single
      have bare : (c.effectives later).findSome? Entry.packet? = none := by
        rw [List.findSome?_eq_none_iff]
        intro e member
        obtain ⟨id, packet, rfl, noPacket⟩ := successes e member
        exact noPacket (size.symm.trans single)
      rw [bare, Option.or_none]

/-- Without an unnamed failure, nobody is pending behind completion. -/
theorem effectives_of_slotless (tally : Tally ids es c) (done : c.complete = true)
    (slotless : c.unreachable = 0) (later : List Entry) : c.effectives later = [] := by
  apply List.eq_nil_iff_forall_not_mem.mpr
  intro e member
  obtain ⟨id, -, pending⟩ := exists_pending_of_effective done member
  have slot : 0 < c.unreachable :=
    tally.account.unreachable_of_pending (tally.length_of_complete done) pending
  omega

end Tally

/-- **Behind completion.** Late events add to the outcome of a complete cohort, and to nothing of
it but those that errored, those that were lost and the packet of a cohort of one. The outcome stays
as it is just if each of them that is effective is a success, and one without a packet if the
cohort is one of one. If no unnamed failure took a slot, none of them is effective. -/
theorem outcome_after_complete_iff {start : Cohort} {ids : List ParticipantId}
    (begun : c.begin ids = .ok start) {events : List Entry}
    (done : (start.after events).complete = true) (later : List Entry) :
    ((start.after events).after later).outcome =
      (start.after events).outcome.late ((start.after events).effectives later) ∧
    (((start.after events).after later).outcome = (start.after events).outcome ↔
      ∀ e ∈ (start.after events).effectives later,
        ∃ id packet, e = .ok id packet ∧ (ids.toFinset.card = 1 → packet = none)) ∧
    ((start.after events).unreachable = 0 → (start.after events).effectives later = []) := by
  obtain rfl := eq_opened_of_begin begun
  have tally := (Tally.opened ids).after events
  refine ⟨tally.outcome_after done later, tally.outcome_after_eq_iff done later, ?_⟩
  intro slotless
  exact tally.effectives_of_slotless done slotless later

/-- The slot of `a` is taken, and the cohort has failed. Then `a` answers, and the failed outcome
has its packet. -/
theorem packet_of_failed_outcome :
    let start := opened [⟨"a"⟩]
    let done := start.after [.unreachable "refused"]
    let late := done.after [.ok ⟨"a"⟩ (some [0x6F, 0x6B])]
    ({} : Cohort).begin [⟨"a"⟩] = .ok start ∧ start.reports [.unreachable "refused"] = [true] ∧
      done.outcome = { size := 1, failed := true, error := some "refused", unreachable := 1 } ∧
      late.outcome = { done.outcome with successPacket := some [0x6F, 0x6B] } ∧
      late.outcome ≠ done.outcome := by
  refine ⟨rfl, rfl, rfl, rfl, ?_⟩
  intro same
  have packets : (some [0x6F, 0x6B] : Option Bytes) = none := congrArg Outcome.successPacket same
  exact absurd packets (Option.some_ne_none _)

/-- The slot of `b` is taken and `a` has answered. A late answer of `b` that is a success leaves the
outcome as it is, and one that is an error does not. -/
theorem late_error_changes_outcome :
    let start := opened [⟨"a"⟩, ⟨"b"⟩]
    let done := start.after [.unreachable "refused", .ok ⟨"a"⟩ none]
    done.complete = true ∧ (done.after [.ok ⟨"b"⟩ (some [0x6F, 0x6B])]).outcome = done.outcome ∧
      (done.after [.error ⟨"b"⟩ "deadlock"]).outcome ≠ done.outcome := by
  intro start done
  have begun : ({} : Cohort).begin [⟨"a"⟩, ⟨"b"⟩] = .ok start := rfl
  have complete : done.complete = true := rfl
  have iffs (later : List Entry) := (outcome_after_complete_iff begun complete later).2.1
  refine ⟨complete, (iffs _).mpr ?_, ?_⟩
  · intro e member
    obtain rfl : e = .ok ⟨"b"⟩ (some [0x6F, 0x6B]) := List.mem_singleton.mp member
    refine ⟨_, _, rfl, ?_⟩
    intro single
    exact absurd single (by decide)
  · intro same
    obtain ⟨id, packet, success, -⟩ := (iffs _).mp same (.error ⟨"b"⟩ "deadlock") (.head _)
    exact absurd success (by simp)

end Cohort

end AtomicCommit
