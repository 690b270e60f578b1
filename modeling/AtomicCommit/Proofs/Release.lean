import AtomicCommit.Proofs.Promptness

/-!
# Releases

An operation that concludes releases its transaction and then tells the client. A `Workshop` is a
rehearsal with the tasks that are still to be carried out, which threads may take in any order, and
the deeds done so far.

* **one task** — `Rehearsal.Deed.shape`: a task hands the coordinator an event, begins an operation,
  or leaves the operation in flight as it is.
* **conservation** — `Rehearsal.Workshop.balanced_after`: every operation that has begun is in
  flight, is to be released by a task that waits, or has been released.
* **rehearsals** — `Rehearsal.Workshop.plays`: what `Rehearsal.play` does is one order of tasks.
-/

namespace AtomicCommit

open Wire

/-- What a release takes from a session: who is bound, savepoints, and the XA flag. -/
def Session.holdings (s : Session) : List Link × List String × Bool :=
  (s.participants, s.savepoints, s.xa)

@[simp] theorem Session.holdings_clearTransaction (s : Session) :
    s.clearTransaction.holdings = ([], [], false) := rfl

@[simp] theorem Session.holdings_discardIf (s : Session) (on : Bool) :
    (s.discardIf on).holdings = s.holdings := rfl

namespace Coordinator

/-! ## Operations in flight -/

def flight (c : Coordinator) : Nat :=
  c.inFlight.toNat

theorem Running.flight {c : Coordinator} {s : Stage} (busy : c.Running s) : c.flight = 1 := by
  simp [Coordinator.flight, inFlight, busy.stage]

theorem AtRest.flight {c : Coordinator} (rest : c.AtRest) : c.flight = 0 := by
  simp [Coordinator.flight, inFlight, show c.operation = {} from rest]

/-- An event leaves the operation in flight, or concludes it. -/
theorem flight_handle {c : Coordinator} (settled : c.Settled) (e : Event) :
    c.flight = (c.handle e).1.flight + (c.handle e).2.verdicts.length := by
  let d : Docket := ⟨c, []⟩
  rcases settled with ⟨s, busy⟩ | rest
  · rcases d.step_lands busy (.event e) with ⟨effect, stays⟩ | ⟨t, -, -, effect, next⟩ |
      ⟨⟨verdict, effect⟩, rests⟩
    · have quiet : (c.handle e).2 = .idle := effect
      rw [busy.flight, quiet, show (c.handle e).1.flight = 1 from stays.flight]
      rfl
    · have sends : (c.handle e).2 = _ := effect
      rw [busy.flight, sends, show (c.handle e).1.flight = 1 from next.flight]
      rfl
    · have concludes : (c.handle e).2 = .conclude verdict := effect
      rw [busy.flight, concludes, show (c.handle e).1.flight = 0 from rests.flight]
      rfl
  · rw [handle_of_atRest rest, rest.flight]
    exact (AtRest.flight (c := { c with session := c.unbind e }) rest).symm

/-- An operation that begins is in flight, or concluded at once. -/
theorem flight_begin {c begun : Coordinator} {s : Stage} {effect : Effect}
    (h : c.begin s = (begun, .ok effect)) :
    c.flight = 0 ∧ begun.flight + effect.verdicts.length = 1 := by
  constructor
  · cases inFlight : c.operation.stage with
    | some current =>
      rw [begin_of_inFlight inFlight] at h
      exact absurd h (by simp)
    | none => simp [flight, Coordinator.inFlight, inFlight]
  · rcases Docket.begun_lands h with ⟨-, rfl, busy⟩ | ⟨rfl, rest⟩
    · rw [busy.flight]
      rfl
    · rw [rest.flight]
      rfl

theorem holdings_handle {c : Coordinator} (settled : c.Settled) (e : Event) :
    (c.handle e).1.session.holdings = (c.unbind e).holdings := by
  obtain ⟨on, same⟩ := session_handle settled e
  rw [same, Session.holdings_discardIf]

theorem holdings_begin {c begun : Coordinator} {s : Stage} {effect : Effect}
    (h : c.begin s = (begun, .ok effect)) : begun.session.holdings = c.session.holdings := by
  cases inFlight : c.operation.stage with
  | some current =>
    rw [begin_of_inFlight inFlight] at h
    exact absurd h (by simp)
  | none =>
    rw [begin_eq_follow inFlight, Prod.mk.injEq] at h
    obtain ⟨on, same⟩ := (c.fresh s).session_follow (.enter s) none
    rw [← h.1, same, Session.holdings_discardIf]
    unfold fresh
    split <;> rfl

theorem interrupt_spares {c c' : Coordinator} {reason : String} {packet : Option Bytes}
    (h : c.interrupt reason = .ok (c', packet)) :
    c'.inFlight = c.inFlight ∧ c'.session.holdings = c.session.holdings := by
  simp only [interrupt] at h
  repeat' split at h
  all_goals cases h
  all_goals exact ⟨rfl, rfl⟩

/-! ## The two halves of a conclusion -/

def release (c : Coordinator) : Coordinator :=
  { c with session := c.session.clearTransaction }

/-- Tell the client a verdict. -/
def announce (c : Coordinator) (verdict : Verdict) : Coordinator × Option Bytes × Bool :=
  if verdict.interrupted || c.session.isClosed then (c, none, false)
  else
    let (sequenceId, session) := c.session.nextPacketId
    ({ c with session := session }, some (verdictPacket sequenceId verdict),
      verdict.conclusion.isSuccess && session.multiStatement)

/-- The release comes first. -/
theorem conclude_eq_announce (c : Coordinator) (verdict : Verdict) :
    c.conclude verdict = c.release.announce verdict := rfl

theorem announce_spares (c : Coordinator) (verdict : Verdict) :
    (c.announce verdict).1.session.holdings = c.session.holdings ∧
      (c.announce verdict).1.operation = c.operation := by
  unfold announce
  split <;> exact ⟨rfl, rfl⟩

end Coordinator

namespace Rehearsal

/-! ## Tasks -/

/-- Whether a task concludes an operation, which releases the transaction. -/
def Task.concludes : Task → Bool
  | .conclude _ => true
  | _ => false

def conclusions (tasks : List Task) : Nat :=
  tasks.countP Task.concludes

@[simp] theorem conclusions_nil : conclusions [] = 0 := rfl

@[simp] theorem conclusions_append (xs ys : List Task) :
    conclusions (xs ++ ys) = conclusions xs + conclusions ys :=
  List.countP_append

theorem conclusions_tasksOf (effect : Effect) :
    conclusions (tasksOf effect) = effect.verdicts.length := by
  cases effect with
  | idle | conclude => rfl
  | send commands =>
    apply List.countP_eq_zero.mpr
    intro task sends
    obtain ⟨command, -, rfl⟩ := List.mem_map.mp sends
    exact Bool.false_ne_true

/-- The text with which the stand-in of a link refuses its next command, if it does. -/
def refusal? (r : Rehearsal) (link : Link) : Option String :=
  (r.cast[link.handle]?).bind fun standIn =>
    match standIn.reactions.head?.getD .nothing with
    | .refuse text => some text
    | _ => standIn.refusal

/-- The event that an instruction hands to the coordinator. -/
def eventOf? (r : Rehearsal) : Instruction → Option Event
  | .say key notice => (r.find? key).bind fun standIn =>
    if standIn.handled then notice.event? standIn.link else none
  | .ok id packet => some (.ok id packet)
  | .error id code message => some (.error id code message)
  | .closed key reason => (r.find? key).map fun standIn => .closed standIn.link reason
  | .connectError id fault => some (.connectError id fault)
  | _ => none

/-- The event that a task hands to the coordinator, if there is still a session. -/
def event? (r : Rehearsal) (task : Task) : Option Event :=
  if r.gone then none
  else
    match task with
    | .send link _ => (r.refusal? link).map fun text =>
      .error link.id none (Fault.connectionClosed text).message
    | .hear link notice => notice.event? link
    | .instruct i => r.eventOf? i
    | _ => none

end Rehearsal

/-- Whether the owner of the session changes with this what a release would take. -/
def Instruction.edits : Instruction → Bool
  | .attach .. | .reattach _ | .detach _ | .setXa _ | .savepoint _ | .clearSavepoints
  | .clearTransaction => true
  | _ => false

namespace Rehearsal

def Task.edits : Task → Bool
  | .instruct i => i.edits
  | _ => false

/-- Whether a task can pass the client a packet. -/
def Task.speaks : Task → Bool
  | .conclude _ | .instruct (.interrupt _) | .instruct (.writeClient _) => true
  | .note observation => observation.isPacket
  | _ => false

def release (r : Rehearsal) : Rehearsal :=
  { r with coordinator := r.coordinator.release }

/-- Tell the client a verdict. -/
def announce (r : Rehearsal) (verdict : Verdict) : Rehearsal × List Task :=
  let (coordinator, packet, continues) := r.coordinator.announce verdict
  let r := { r with coordinator := coordinator }
  let r := match packet with
    | some packet => r.writeClient packet
    | none => r
  (r, if continues then [.nextStatement] else [])

/-- The release comes first. -/
theorem conclude_eq_announce (r : Rehearsal) (verdict : Verdict) :
    r.conclude verdict = r.release.announce verdict := rfl

theorem announce_spec (r : Rehearsal) (verdict : Verdict) :
    (r.announce verdict).1.coordinator = (r.coordinator.announce verdict).1 ∧
      conclusions (r.announce verdict).2 = 0 := by
  unfold announce
  generalize r.coordinator.announce verdict = out
  obtain ⟨c, packet, continues⟩ := out
  constructor
  · cases packet with
    | none => rfl
    | some packet => exact coordinator_writeClient _ _
  · cases continues <;> rfl

/-! ## Deeds -/

/-- A task as it was carried out. -/
structure Deed where
  found : Rehearsal
  task : Task

namespace Deed

def after (m : Deed) : Rehearsal := (m.found.perform m.task).1

def left (m : Deed) : List Task := (m.found.perform m.task).2

/-- The event that the coordinator was handed. -/
def event? (m : Deed) : Option Event := m.found.event? m.task

/-- Whether an operation was begun, with success. -/
def begins (m : Deed) : Bool :=
  match m.task with
  | .instruct i => i.needs? = some false ∧ (m.found.instruct i).2.1 = .done
  | _ => false

def releases (m : Deed) : Bool := m.task.concludes

/-- What a task does to the operation in flight. -/
inductive Shape (m : Deed) : Prop where
  /-- It hands the coordinator an event. -/
  | hears {e : Event} (heard : m.event? = some e) (other : m.begins = false)
      (after : m.after.coordinator = (m.found.coordinator.handle e).1)
      (left : conclusions m.left = (m.found.coordinator.handle e).2.verdicts.length)
  /-- It begins one. -/
  | begins {s : Stage} {effect : Effect} (silent : m.event? = none) (accepted : m.begins = true)
      (begun : m.found.coordinator.begin s = (m.after.coordinator, .ok effect))
      (left : conclusions m.left = effect.verdicts.length)
  /-- Nothing. -/
  | passes (silent : m.event? = none) (other : m.begins = false)
      (operation : m.after.coordinator.inFlight = m.found.coordinator.inFlight)
      (left : conclusions m.left = 0)
      (spares : m.releases = false → m.task.edits = false →
        m.after.coordinator.session.holdings = m.found.coordinator.session.holdings)

theorem event?_of_gone {m : Deed} (gone : m.found.gone = true) : m.event? = none := by
  unfold event? Rehearsal.event?
  rw [if_pos gone]

/-- A task that passes an event on, before which it changed nothing of the coordinator. -/
theorem shape_of_handle {m : Deed} (other : m.begins = false) {r : Rehearsal} {e : Event}
    (gone : r.gone = m.found.gone) (coordinator : r.coordinator = m.found.coordinator)
    (heard : m.found.gone = false → m.event? = some e)
    (after : m.after.coordinator = (r.handle e).1.coordinator)
    (left : conclusions m.left = conclusions (r.handle e).2) : m.Shape := by
  unfold handle at after left
  rw [gone, coordinator] at after left
  cases dropped : m.found.gone with
  | true =>
    rw [dropped, if_pos rfl] at after left
    rw [coordinator] at after
    exact .passes (event?_of_gone dropped) other (by rw [after]) left fun _ _ => by rw [after]
  | false =>
    rw [dropped, if_neg Bool.false_ne_true] at after left
    exact .hears (heard dropped) other after (left.trans (conclusions_tasksOf _))

variable (r : Rehearsal)

/-- A command is refused, which hands the coordinator an event, or taken. -/
theorem send_cases (link : Link) (command : Command) :
    (∃ text o, r.refusal? link = some text ∧ o.isPacket = false ∧ r.send link command =
        (r.prompted link o).handle (.error link.id none (Fault.connectionClosed text).message)) ∨
      r.refusal? link = none ∧ ∃ r' : Rehearsal, ∃ tasks, r.send link command = (r', tasks) ∧
        r'.coordinator = r.coordinator ∧ r'.packets = r.packets ∧ conclusions tasks = 0 := by
  cases found : r.cast[link.handle]? with
  | none =>
    refine .inr ⟨by simp [refusal?, found], r, [], ?_, rfl, rfl, rfl⟩
    simp only [send, found]
  | some standIn =>
    simp only [send, refusal?, found, Option.bind_some]
    cases standIn.reactions.head?.getD .nothing with
    | refuse text => exact .inl ⟨text, _, rfl, rfl, rfl⟩
    | nothing | answer =>
      cases standIn.refusal with
      | some text => exact .inl ⟨text, _, rfl, rfl, rfl⟩
      | none => exact .inr ⟨rfl, _, _, rfl, rfl, packets_prompted link rfl, rfl⟩

theorem shape_send (link : Link) (command : Command) : Shape ⟨r, .send link command⟩ := by
  rcases send_cases r link command with ⟨text, o, refuses, -, sent⟩ |
    ⟨takes, r', tasks, sent, same, -, none⟩
  · refine shape_of_handle (r := r.prompted link o)
      (e := .error link.id none (Fault.connectionClosed text).message) rfl rfl rfl ?_ ?_ ?_
    · intro here
      have here : r.gone = false := here
      simp only [event?, Rehearsal.event?, here, refuses]
      rfl
    · exact congrArg (·.1.coordinator) sent
    · exact congrArg (conclusions ·.2) sent
  · have after : (after ⟨r, .send link command⟩).coordinator = r.coordinator :=
      (congrArg (·.1.coordinator) sent).trans same
    refine .passes ?_ rfl (by rw [after]) ((congrArg (conclusions ·.2) sent).trans none)
      fun _ _ => by rw [after]
    simp [event?, Rehearsal.event?, takes]

theorem shape_hear (link : Link) (notice : Notice) : Shape ⟨r, .hear link notice⟩ := by
  cases heard : notice.event? link with
  | some e =>
    have hears : r.hear link notice = r.handle e := by simp only [hear, heard]
    refine shape_of_handle (r := r) (e := e) rfl rfl rfl ?_ ?_ ?_
    · intro here
      have here : r.gone = false := here
      simp only [event?, Rehearsal.event?, here, heard]
      rfl
    · exact congrArg (·.1.coordinator) hears
    · exact congrArg (conclusions ·.2) hears
  | none =>
    have passes : r.hear link notice = (r, []) := by simp only [hear, heard]
    have after : (after ⟨r, .hear link notice⟩).coordinator = r.coordinator :=
      congrArg (·.1.coordinator) passes
    refine .passes ?_ rfl (by rw [after]) (congrArg (conclusions ·.2) passes)
      fun _ _ => by rw [after]
    simp [event?, Rehearsal.event?, heard]

theorem shape_conclude (verdict : Verdict) : Shape ⟨r, .conclude verdict⟩ := by
  obtain ⟨after, left⟩ := announce_spec r.release verdict
  refine .passes ?_ rfl ?_ left fun other => absurd other (by simp [releases, Task.concludes])
  · simp [event?, Rehearsal.event?]
  · show (r.release.announce verdict).1.coordinator.inFlight = _
    rw [after, Coordinator.inFlight, (Coordinator.announce_spares _ _).2]
    rfl

/-- The note of its answer is all that an instruction leaves besides its tasks. -/
theorem left_instruct (i : Instruction) :
    conclusions (Deed.left ⟨r, .instruct i⟩) = conclusions (r.instruct i).2.2 := by
  show conclusions ((r.instruct i).2.2 ++ [.note _]) = _
  rw [conclusions_append]
  rfl

theorem shape_call (s : Stage) {i : Instruction} (needs : i.needs? = some false)
    (silent : r.eventOf? i = none)
    (calls : r.instruct i = r.call fun c => c.begin s) : Shape ⟨r, .instruct i⟩ := by
  have unheard : event? ⟨r, .instruct i⟩ = none := by
    simp [event?, Rehearsal.event?, silent]
  have refusable := refusable_of_needs (r := r) needs
  by_cases accepted : (r.instruct i).2.1 = .done
  · obtain ⟨here, idle⟩ := refusable.accepted.mp accepted
    have idle : r.coordinator.operation.stage = none := by
      simpa [Coordinator.inFlight] using idle
    have begun := Coordinator.begin_eq_follow idle s
    rw [call_of_idle here idle] at calls
    have after : (after ⟨r, .instruct i⟩).coordinator = _ := congrArg (·.1.coordinator) calls
    refine .begins unheard ?_ (begun.trans (by rw [after])) ?_
    · simp [begins, needs, accepted]
    · rw [left_instruct, calls]
      exact conclusions_tasksOf _
  · obtain ⟨same, nothing⟩ := refusable.refused accepted
    have after : (after ⟨r, .instruct i⟩).coordinator = r.coordinator :=
      congrArg Rehearsal.coordinator same
    refine .passes unheard ?_ (by rw [after]) ?_ fun _ _ => by rw [after]
    · simp [begins, accepted]
    · rw [left_instruct, nothing, conclusions_nil]

/-- An instruction that hands the coordinator an event. -/
theorem shape_event {i : Instruction} {e : Event} (needs : i.needs? = none)
    (heard : r.eventOf? i = some e) (after : (r.instruct i).1 = (r.handle e).1)
    (left : (r.instruct i).2.2 = (r.handle e).2) : Shape ⟨r, .instruct i⟩ := by
  refine shape_of_handle (r := r) (e := e) ?_ rfl rfl ?_ (congrArg Rehearsal.coordinator after) ?_
  · simp [begins, needs]
  · intro here
    have here : r.gone = false := here
    simp only [event?, Rehearsal.event?, here, heard]
    rfl
  · rw [left_instruct, left]

/-- An instruction that neither hands the coordinator an event nor begins an operation. -/
theorem shape_quiet {i : Instruction} (needs : i.needs? ≠ some false)
    (silent : r.eventOf? i = none)
    (operation : (r.instruct i).1.coordinator.inFlight = r.coordinator.inFlight)
    (left : conclusions (r.instruct i).2.2 = 0)
    (spares : i.edits = false →
      (r.instruct i).1.coordinator.session.holdings = r.coordinator.session.holdings) :
    Shape ⟨r, .instruct i⟩ := by
  refine .passes ?_ ?_ operation ((left_instruct r i).trans left) fun _ => spares
  · simp [event?, Rehearsal.event?, silent]
  · simp [begins, needs]

theorem shape_say (key : String) (notice : Notice) : Shape ⟨r, .instruct (.say key notice)⟩ := by
  have needs : (Instruction.say key notice).needs? = none := rfl
  cases found : r.find? key with
  | none =>
    refine shape_quiet r (by simp [needs]) ?_ ?_ ?_ ?_
    all_goals simp [eventOf?, instruct, found]
  | some standIn =>
    cases handled : standIn.handled with
    | false =>
      refine shape_quiet r (by simp [needs]) ?_ ?_ ?_ ?_
      all_goals simp [eventOf?, instruct, found, handled]
    | true =>
      cases heard : notice.event? standIn.link with
      | none =>
        refine shape_quiet r (by simp [needs]) ?_ ?_ ?_ ?_
        all_goals simp [eventOf?, instruct, found, handled, hear, heard]
      | some e =>
        refine shape_event r (e := e) needs ?_ ?_ ?_
        all_goals simp [eventOf?, instruct, found, handled, hear, heard]

/-- An interrupt, accepted or refused, releases nothing. -/
theorem interrupt_spares (reason : String) :
    ((r.instruct (.interrupt reason)).1.coordinator.inFlight = r.coordinator.inFlight ∧
        (r.instruct (.interrupt reason)).1.coordinator.session.holdings =
          r.coordinator.session.holdings) ∧
      conclusions (r.instruct (.interrupt reason)).2.2 = 0 := by
  simp only [instruct]
  split
  · exact ⟨⟨rfl, rfl⟩, rfl⟩
  · cases out : r.coordinator.interrupt reason with
    | error fault => exact ⟨⟨rfl, rfl⟩, rfl⟩
    | ok accepted =>
      obtain ⟨c, packet⟩ := accepted
      have same := Coordinator.interrupt_spares out
      cases packet with
      | none => exact ⟨same, rfl⟩
      | some packet =>
        simp only [coordinator_writeClient]
        exact ⟨same, rfl⟩

theorem shape_instruct (i : Instruction) : Shape ⟨r, .instruct i⟩ := by
  cases i with
  | say key notice => exact shape_say r key notice
  | commit => exact shape_call r (Stage.initial r.coordinator.session.xa .commit) rfl rfl rfl
  | rollback => exact shape_call r (Stage.initial r.coordinator.session.xa .rollback) rfl rfl rfl
  | beginStage stage => exact shape_call r stage rfl rfl rfl
  | ok id packet => exact shape_event r (e := .ok id packet) rfl rfl rfl rfl
  | error id code message => exact shape_event r (e := .error id code message) rfl rfl rfl rfl
  | connectError id fault => exact shape_event r (e := .connectError id fault) rfl rfl rfl rfl
  | closed key reason =>
    cases found : r.find? key with
    | some standIn =>
      refine shape_event r (e := .closed standIn.link reason) rfl ?_ ?_ ?_
      all_goals simp only [eventOf?, instruct, found, Option.map_some]
    | none =>
      refine shape_quiet r (by simp [Instruction.needs?]) ?_ ?_ ?_ ?_
      all_goals simp [eventOf?, instruct, found]
  | interrupt reason =>
    obtain ⟨same, none⟩ := interrupt_spares r reason
    exact shape_quiet r (by simp [Instruction.needs?]) rfl same.1 none fun _ => same.2
  | refuseAll | react =>
    refine shape_quiet r (by simp [Instruction.needs?]) rfl ?_ rfl ?_
    all_goals simp only [instruct]
    all_goals split
    all_goals simp [update]
  | reattach key =>
    refine shape_quiet r (by simp [Instruction.needs?]) rfl ?_ rfl (by simp [Instruction.edits])
    simp only [instruct]
    split <;> rfl
  | writeClient data =>
    refine shape_quiet r (by simp [Instruction.needs?]) rfl ?_ rfl ?_
    all_goals simp [instruct, coordinator_writeClient]
  | nextStatement => exact shape_quiet r (by simp [Instruction.needs?]) rfl rfl rfl fun _ => rfl
  | attach | detach | setXa | savepoint | clearSavepoints | clearTransaction =>
    exact shape_quiet r (by simp [Instruction.needs?]) rfl rfl rfl (by simp [Instruction.edits])
  | _ => exact shape_quiet r (by simp [Instruction.needs?]) rfl rfl rfl fun _ => rfl

/-- **One task.** A task hands the coordinator an event, begins an operation, or leaves the one in
flight as it is. -/
theorem shape (m : Deed) : m.Shape := by
  obtain ⟨r, task⟩ := m
  cases task with
  | send link command => exact shape_send r link command
  | hear link notice => exact shape_hear r link notice
  | conclude verdict => exact shape_conclude r verdict
  | instruct i => exact shape_instruct r i
  | nextStatement =>
    have same : r.runHook.1.coordinator = r.coordinator := by
      unfold runHook
      split <;> rfl
    have after : (after ⟨r, .nextStatement⟩).coordinator = r.coordinator := same
    refine .passes ?_ rfl (by rw [after]) ?_ fun _ _ => by rw [after]
    · simp [event?, Rehearsal.event?]
    show conclusions r.runHook.2 = 0
    unfold runHook
    split
    · rfl
    · rfl
    · apply List.countP_eq_zero.mpr
      intro task follows
      obtain ⟨i, -, rfl⟩ := List.mem_map.mp follows
      exact Bool.false_ne_true
  | note observation =>
    exact .passes (by simp [event?, Rehearsal.event?]) rfl rfl rfl fun _ _ => rfl

variable {m : Deed}

/-- **Balance.** What begins stays in flight or leaves a conclusion to be carried out. -/
theorem balance (settled : m.found.coordinator.Settled) :
    [m].countP Deed.begins + m.found.coordinator.flight =
      m.after.coordinator.flight + conclusions m.left := by
  rw [List.countP_singleton]
  cases m.shape with
  | hears heard other after left =>
    have kept := Coordinator.flight_handle settled ‹Event›
    rw [other, after, left, ← kept, if_neg Bool.false_ne_true, Nat.zero_add]
  | begins silent accepted begun left =>
    obtain ⟨idle, once⟩ := Coordinator.flight_begin begun
    rw [accepted, idle, left, once, if_pos rfl]
  | passes silent other operation left spares =>
    unfold Coordinator.flight
    rw [other, operation, left, if_neg Bool.false_ne_true, Nat.zero_add, Nat.add_zero]

theorem settled_after (m : Deed) (settled : m.found.coordinator.Settled) :
    m.after.coordinator.Settled := by
  obtain ⟨untold, acts, leads⟩ := m.found.leadsTo_perform m.task
  have lived := Docket.settled_live (d := ⟨m.found.coordinator, untold⟩) settled acts
  rw [leads] at lived
  exact lived

/-- Only an operation that begins, and an event that its cohort counts, lead to a conclusion. -/
theorem concludes_of_left (concludes : 0 < conclusions m.left) :
    m.begins = true ∨
      ∃ e entry, m.event? = some e ∧ m.found.coordinator.entryOf e = some entry := by
  cases m.shape with
  | hears heard other after left =>
    rename_i e
    cases entered : m.found.coordinator.entryOf e with
    | some entry => exact .inr ⟨e, entry, heard, entered⟩
    | none =>
      rw [left, Coordinator.handle_of_uncounted entered] at concludes
      exact absurd concludes (by simp [Effect.verdicts])
  | begins silent accepted begun left => exact .inl accepted
  | passes silent other operation left spares => omega

/-- What neither releases the transaction nor edits it takes no more from the session than a closed
participant. -/
theorem holdings_after (settled : m.found.coordinator.Settled) (other : m.releases = false)
    (unedited : m.task.edits = false) : m.after.coordinator.session.holdings =
      ((m.event?.map m.found.coordinator.unbind).getD m.found.coordinator.session).holdings := by
  cases m.shape with
  | hears heard unbegun after left =>
    rw [heard, after]
    exact Coordinator.holdings_handle settled _
  | begins silent accepted begun left =>
    rw [silent]
    exact Coordinator.holdings_begin begun
  | passes silent unbegun operation left spares =>
    rw [silent]
    exact spares other unedited

theorem packets_hear (r : Rehearsal) (link : Link) (notice : Notice) :
    (r.hear link notice).1.packets = r.packets := by
  unfold hear
  split
  · exact packets_handle _
  · rfl

theorem packets_instruct (r : Rehearsal) (i : Instruction)
    (silent : (Task.instruct i).speaks = false) : (r.instruct i).1.packets = r.packets := by
  have calls : ∀ f, (r.call f).1.packets = r.packets := by
    intro f
    unfold call started
    split
    · rfl
    · split <;> rfl
  cases i with
  | interrupt | writeClient => exact absurd silent (by simp [Task.speaks])
  | commit | rollback | beginStage => exact calls _
  | ok id packet => exact packets_handle (.ok id packet)
  | error id code message => exact packets_handle (.error id code message)
  | connectError id fault => exact packets_handle (.connectError id fault)
  | say key notice =>
    simp only [instruct]
    split
    · split
      · exact packets_hear r _ notice
      · rfl
    · rfl
  | closed key reason =>
    simp only [instruct]
    split
    · exact packets_handle _
    · rfl
  | refuseAll | react | reattach =>
    simp only [instruct]
    split <;> rfl
  | _ => rfl

/-- What passes the client a packet is a release, an interrupt, or the owner of the session. -/
theorem packets_after (silent : m.task.speaks = false) : m.after.packets = m.found.packets := by
  obtain ⟨r, task⟩ := m
  cases task with
  | conclude verdict => exact absurd silent (by simp [Task.speaks])
  | send link command =>
    show (r.send link command).1.packets = r.packets
    rcases send_cases r link command with ⟨text, o, -, other, sent⟩ |
      ⟨-, r', tasks, sent, -, same, -⟩
    · rw [sent, packets_handle, packets_prompted link other]
    · rw [sent, same]
  | hear link notice => exact packets_hear r link notice
  | nextStatement =>
    show r.runHook.1.packets = r.packets
    unfold runHook
    split <;> rfl
  | note observation =>
    exact List.countP_cons_of_neg (by rw [show observation.isPacket = false from silent]; simp)
  | instruct i => exact packets_instruct r i silent

end Deed

/-! ## Workshops -/

/-- A rehearsal with the tasks that wait to be carried out and the deeds done so far. -/
structure Workshop where
  rehearsal : Rehearsal
  pool : List Task := []
  past : List Deed := []

/-- What can go on in a workshop. -/
inductive Move where
  /-- A call from outside. -/
  | call (i : Instruction)
  /-- The task at this place of the pool is carried out. -/
  | perform (place : Nat)
  /-- The session goes, or is held again. -/
  | letGo (gone : Bool)

namespace Workshop

/-- Carry out a task, and put what it leads to between the tasks around it. -/
def perform (w : Workshop) (before : List Task) (task : Task) (behind : List Task) : Workshop where
  rehearsal := (w.rehearsal.perform task).1
  pool := before ++ (w.rehearsal.perform task).2 ++ behind
  past := w.past ++ [⟨w.rehearsal, task⟩]

def move (w : Workshop) : Move → Workshop
  | .call i =>
    { rehearsal := (w.rehearsal.instruct i).1
      pool := (w.rehearsal.instruct i).2.2 ++ w.pool
      past := w.past ++ [⟨w.rehearsal, .instruct i⟩] }
  | .perform place =>
    match w.pool[place]? with
    | some task => w.perform (w.pool.take place) task (w.pool.drop (place + 1))
    | none => w
  | .letGo gone => { w with rehearsal := { w.rehearsal with gone := gone } }

def after (w : Workshop) (moves : List Move) : Workshop :=
  moves.foldl move w

def new (id : UInt64) (issuer : String) : Workshop where
  rehearsal := .new id issuer

variable {w : Workshop}

/-! ## Moves -/

/-- A task that is carried out stood between others, and what it leads to takes its place. -/
theorem move_perform (w : Workshop) (place : Nat) :
    w.move (.perform place) = w ∨
      ∃ before task behind, w.pool[place]? = some task ∧ w.pool = before ++ task :: behind ∧
        w.move (.perform place) = w.perform before task behind := by
  cases taken : w.pool[place]? with
  | none =>
    left
    simp only [move, taken]
  | some task =>
    obtain ⟨bound, here⟩ := List.getElem?_eq_some_iff.mp taken
    refine .inr ⟨w.pool.take place, task, w.pool.drop (place + 1), rfl, ?_, ?_⟩
    · rw [← here, ← List.drop_eq_getElem_cons, List.take_append_drop]
    · simp only [move, taken]

/-- The books of a workshop: the coordinator is settled before and after each deed, and every
operation that has begun is in flight, is to be released by a task that waits, or has been
released. -/
structure Balanced (w : Workshop) : Prop where
  settled : w.rehearsal.coordinator.Settled
  found : ∀ m ∈ w.past, m.found.coordinator.Settled
  begun : w.past.countP Deed.begins =
    w.past.countP Deed.releases + conclusions w.pool + w.rehearsal.coordinator.flight

/-- A deed that takes its task out of the pool and puts in what it leads to keeps the books. -/
theorem Balanced.deed {pool : List Task} {m : Deed} (balanced : w.Balanced)
    (here : m.found = w.rehearsal)
    (counted : conclusions pool + [m].countP Deed.releases =
      conclusions w.pool + conclusions m.left) :
    Balanced ⟨m.after, pool, w.past ++ [m]⟩ := by
  have settled : m.found.coordinator.Settled := here ▸ balanced.settled
  refine ⟨m.settled_after settled, ?_, ?_⟩
  · intro other done
    rcases List.mem_append.mp done with earlier | last
    · exact balanced.found other earlier
    · rw [List.mem_singleton.mp last]
      exact settled
  · have begun := balanced.begun
    have kept := m.balance settled
    rw [← here] at begun
    rw [List.countP_append, List.countP_append]
    dsimp only
    omega

theorem Balanced.move (balanced : w.Balanced) (move : Move) : (w.move move).Balanced := by
  cases move with
  | call i =>
    refine balanced.deed (m := ⟨w.rehearsal, .instruct i⟩) rfl ?_
    rw [Deed.left_instruct, conclusions_append, Nat.add_comm (conclusions w.pool)]
    rfl
  | perform place =>
    rcases w.move_perform place with same | ⟨before, task, behind, -, around, carried⟩
    · rw [same]
      exact balanced
    · rw [carried]
      refine balanced.deed (m := ⟨w.rehearsal, task⟩) rfl ?_
      have released : [(⟨w.rehearsal, task⟩ : Deed)].countP Deed.releases =
          conclusions [task] := rfl
      have led : Deed.left ⟨w.rehearsal, task⟩ = (w.rehearsal.perform task).2 := rfl
      have whole : conclusions w.pool =
          conclusions before + (conclusions [task] + conclusions behind) := by
        rw [around, ← conclusions_append, ← conclusions_append]
        rfl
      rw [whole, conclusions_append, conclusions_append, released, led]
      omega
  | letGo gone => exact ⟨balanced.settled, balanced.found, balanced.begun⟩

/-- **Conservation.** The books are kept whatever is done in whatever order. -/
theorem Balanced.after (balanced : w.Balanced) (moves : List Move) : (w.after moves).Balanced := by
  induction moves generalizing w with
  | nil => exact balanced
  | cons move rest ih => exact ih (balanced.move move)

theorem balanced_new (id : UInt64) (issuer : String) : (new id issuer).Balanced :=
  ⟨.inr rfl, fun _ done => absurd done List.not_mem_nil, rfl⟩

/-! ## Rehearsals -/

theorem after_append (w : Workshop) (xs ys : List Move) :
    w.after (xs ++ ys) = (w.after xs).after ys :=
  List.foldl_append

/-- What a rehearsal works off are moves. -/
theorem runs (r : Rehearsal) (tasks pool : List Task) (past : List Deed) :
    ∃ moves deeds,
      Workshop.after ⟨r, tasks ++ pool, past⟩ moves = ⟨r.run tasks, pool, past ++ deeds⟩ := by
  fun_induction run r tasks generalizing past with
  | case1 r => exact ⟨[], [], by simp [after]⟩
  | case2 r task rest out ih =>
    obtain ⟨moves, deeds, ran⟩ := ih (past ++ [⟨r, task⟩])
    refine ⟨.perform 0 :: moves, ⟨r, task⟩ :: deeds, ?_⟩
    show Workshop.after ⟨out.1, [] ++ out.2 ++ (rest ++ pool), past ++ [⟨r, task⟩]⟩ moves = _
    rw [List.nil_append, ← List.append_assoc, ran, List.append_assoc]
    rfl

/-- What a rehearsal plays are moves, and when it is over none of its tasks waits. -/
theorem plays (r : Rehearsal) (i : Instruction) (pool : List Task) (past : List Deed) :
    ∃ moves deeds,
      Workshop.after ⟨r, pool, past⟩ moves = ⟨(r.play i).1, pool, past ++ deeds⟩ := by
  obtain ⟨moves, deeds, ran⟩ :=
    runs (r.instruct i).1 (r.instruct i).2.2 pool (past ++ [⟨r, .instruct i⟩])
  let held := ((r.instruct i).1.run (r.instruct i).2.2).held
  refine ⟨.call i :: moves ++ [.letGo !held], ⟨r, .instruct i⟩ :: deeds, ?_⟩
  rw [after_append]
  show Workshop.after (Workshop.after ⟨(r.instruct i).1, _, _⟩ moves) _ = _
  rw [ran, List.append_assoc]
  rfl

end Workshop

/-- What a deed that releases the transaction does: first nothing but that, and then it tells the
client. -/
structure Deed.Releases (m : Deed) (verdict : Verdict) : Prop where
  released : m.found.release.coordinator.session.holdings = ([], [], false)
  silent : m.found.release.observed = m.found.observed
  told : m.found.perform m.task = m.found.release.announce verdict
  stays : m.after.coordinator.session.holdings = ([], [], false)

theorem Deed.releases_of_conclude (r : Rehearsal) (verdict : Verdict) :
    Deed.Releases ⟨r, .conclude verdict⟩ verdict where
  released := rfl
  silent := rfl
  told := rfl
  stays := by
    show (r.release.announce verdict).1.coordinator.session.holdings = _
    rw [(announce_spec _ _).1, (Coordinator.announce_spares _ _).1]
    rfl

end Rehearsal

open Rehearsal in
/-- **Released once.** Whatever is called and whatever backends do, in whatever order callbacks and
the tasks that follow are carried out: the transaction is released once for every operation that has
concluded, which is every operation begun but the one in flight, and those whose release is still to
be carried out. A release leaves nobody bound, no savepoints and no XA flag, and the client is told
after it; otherwise the client hears only of interrupts and from the owner of the session. Nothing
else takes anything from the session, besides its owner and the closes that unbind their
participant, and only an operation that begins or an event that the open cohort counts leads to a
release: no interrupt, no refused call, no stray event and none of an operation that is over. -/
theorem released_once_at_conclusion (id : UInt64) (issuer : String) (moves : List Move) :
    let w := (Workshop.new id issuer).after moves
    w.past.countP Deed.begins = w.past.countP Deed.releases + conclusions w.pool +
        w.rehearsal.coordinator.flight ∧
      ∀ m ∈ w.past,
        (∀ verdict, m.task = .conclude verdict → m.Releases verdict) ∧
        (m.task.speaks = false → m.after.packets = m.found.packets) ∧
        (m.releases = false → m.task.edits = false → m.after.coordinator.session.holdings =
          ((m.event?.map m.found.coordinator.unbind).getD m.found.coordinator.session).holdings) ∧
        (0 < conclusions m.left → m.begins = true ∨
          ∃ e entry, m.event? = some e ∧ m.found.coordinator.entryOf e = some entry) := by
  intro w
  have balanced := (Workshop.balanced_new id issuer).after moves
  refine ⟨balanced.begun, ?_⟩
  intro m done
  have settled := balanced.found m done
  refine ⟨?_, m.packets_after, m.holdings_after settled, m.concludes_of_left⟩
  obtain ⟨r, task⟩ := m
  rintro verdict rfl
  exact Deed.releases_of_conclude r verdict

open Rehearsal in
/-- The case of a transaction with a savepoint whose commit is answered. -/
example : ((Workshop.new 7 "x").after [.call (.attach "a" ⟨"a"⟩ {}), .call (.savepoint "s"),
    .call .commit, .perform 0, .call (.ok ⟨"a"⟩ Sample.okFrame), .perform 0]).past.countP
      Deed.releases = 1 := by
  decide +kernel

end AtomicCommit
