import AtomicCommit.Proofs.Scene
import AtomicCommit.Simulation.Rehearsal.Run

/-!
# Stage and cohort in step

A task of a rehearsal enters the coordinator's lock once at most, so the states between tasks are
those that can be seen while the lock is free. `Rehearsal.Reached` takes tasks in any order, which
is more than the orders in which threads can have them done.

* **acts** — `Rehearsal.leadsTo_perform`: to the coordinator a task is a short life of its session.
* **invariant** — `Rehearsal.Reached.sound`, and `Coordinator.Sound.inStep` for what it says about
  the operation in flight.
* **no way into a refusal** — `Coordinator.enters_of_completed`: whatever moves on finds a stage in
  flight, and the stage after it is entered.
* **calls** — `Rehearsal.refusable_of_needs`: a call is refused for want of a session, or because of
  an operation in flight or none, and then does nothing.
-/

namespace AtomicCommit

open Wire

/-! ## What holds of a settled coordinator -/

/-- Stage and cohort agree about whether an operation is in flight, and nothing is left of one that
is not. -/
structure Operation.InStep (o : Operation) : Prop where
  flight : o.stage.isSome = true ↔ o.cohort.isOpen = true ∧ o.cohort.complete = false
  owed : ∀ s, o.stage = some s → o.cohort.unreachable < o.cohort.pending.length
  distinct : o.cohort.pending.Nodup
  numbered : ∀ s, o.stage = some s → (o.xid.isSome = true ↔ s.command.isXa = true)
  rest : o.stage = none → o = {}

namespace Coordinator

/-- What holds of a coordinator between any two sections. -/
structure Sound (c : Coordinator) : Prop where
  settled : c.Settled
  bound : c.session.participantIds.Nodup
  owing : c.operation.cohort.pending.Nodup

theorem Sound.inStep {c : Coordinator} (sound : c.Sound) : c.operation.InStep := by
  rcases sound.settled with ⟨s, running⟩ | rest
  · have waiting := running.waiting
    refine ⟨?_, ?_, sound.owing, ?_, ?_⟩
    · simp [running.stage, waiting.isOpen, waiting.incomplete]
    · intro t stage
      exact waiting.owed
    · intro t stage
      obtain rfl : s = t := Option.some.inj (running.stage.symm.trans stage)
      rw [running.fits]
    · intro idle
      rw [running.stage] at idle
      exact absurd idle (by simp)
  · rw [show c.operation = {} from rest]
    exact ⟨by simp, by simp, List.nodup_nil, by simp, fun _ => rfl⟩

/-! ## Moving on -/

/-- The coordinator as it moves on from a cohort that an event completes, if it completes it. -/
def completed? (c : Coordinator) (e : Event) : Option Coordinator :=
  (c.entryOf e).bind fun entry =>
    let counted := (c.operation.cohort.book entry).markComplete
    if counted.2 then
      some { session := c.unbind e, operation := { c.operation with cohort := counted.1 } }
    else none

theorem complete_of_markComplete {c : Cohort} (h : c.markComplete.2 = true) :
    c.markComplete.1.complete = true := by
  unfold Cohort.markComplete at *
  split at h
  · rename_i waits
    rw [if_pos waits]
  · exact absurd h (by simp)

/-- An event moves the coordinator on iff it completes the cohort. -/
theorem handle_eq_advance (c : Coordinator) (e : Event) :
    (∀ moved, c.completed? e = some moved → c.handle e = moved.advance) ∧
      (c.completed? e = none → (c.handle e).2 = .idle) := by
  cases entered : c.entryOf e with
  | none =>
    have uncounted : c.completed? e = none := by simp [completed?, entered]
    rw [uncounted, handle_of_uncounted entered]
    exact ⟨by simp, fun _ => rfl⟩
  | some entry =>
    rw [handle_of_counted entered]
    unfold completed? count
    rw [entered, Option.bind_some]
    cases (c.operation.cohort.book entry).markComplete with
    | mk cohort complete => cases complete <;> simp

/-- The coordinator between two stages. -/
def between (c : Coordinator) : Coordinator :=
  { c with operation := { c.operation with stage := none } }

/-- Whoever moves on finds a stage in flight, and the stage after it is entered. -/
theorem enters_of_completed {c moved : Coordinator} {e : Event} (settled : c.Settled)
    (h : c.completed? e = some moved) :
    ∃ s, moved.operation.stage = some s ∧ ∀ t, s.next (moved.result s) = .enter t →
      ∃ effect, (moved.between.enter t).2 = .ok effect := by
  obtain ⟨entry, entered, counted⟩ := Option.bind_eq_some_iff.mp h
  rcases settled with ⟨s, running⟩ | rest
  · dsimp only at counted
    split at counted
    · rename_i complete
      obtain rfl := Option.some.inj counted
      refine ⟨s, running.stage, ?_⟩
      intro t next
      have fits : c.operation.xid.isSome = t.command.isXa := by
        rw [Stage.isXa_of_next next]
        exact running.fits
      have closed := complete_of_markComplete complete
      let moved : Coordinator :=
        { session := c.unbind e
          operation := { c.operation with
            cohort := (c.operation.cohort.book entry).markComplete.1 } }
      have ready : (moved.between.operation.cohort.isOpen &&
          !moved.between.operation.cohort.complete) = false := by
        rw [show moved.between.operation.cohort.complete = true from closed]
        simp
      exact ⟨_, congrArg Prod.snd (enter_eq_follow moved.between t none ready fits)⟩
    · exact absurd counted (by simp)
  · -- at rest nothing is counted
    rw [entryOf_of_atRest rest] at entered
    exact absurd entered (by simp)

/-! ## Acts -/

/-- One coordinator comes from another by acts on its session. -/
def LeadsTo (c c' : Coordinator) : Prop :=
  ∃ untold acts, ((Docket.mk c untold).live acts).coordinator = c'

theorem LeadsTo.refl (c : Coordinator) : c.LeadsTo c :=
  ⟨[], [], rfl⟩

theorem Sound.of_leadsTo {c c' : Coordinator} (sound : c.Sound) (leads : c.LeadsTo c') :
    c'.Sound := by
  obtain ⟨untold, acts, rfl⟩ := leads
  let d : Docket := ⟨c, untold⟩
  exact ⟨d.settled_live sound.settled acts, d.nodup_live sound.settled sound.bound acts,
    d.nodup_owing_live sound.settled sound.owing acts⟩

end Coordinator

/-! ## Tasks as acts -/

namespace Rehearsal

variable (r : Rehearsal)

theorem leadsTo_handle (e : Event) : r.coordinator.LeadsTo (r.handle e).1.coordinator := by
  unfold handle
  split
  · exact .refl _
  · exact ⟨[], [.input (.event e)], rfl⟩

theorem leadsTo_hear (link : Link) (notice : Notice) :
    r.coordinator.LeadsTo (r.hear link notice).1.coordinator := by
  unfold hear
  split
  · exact r.leadsTo_handle _
  · exact .refl _

theorem leadsTo_send (link : Link) (command : Command) :
    r.coordinator.LeadsTo (r.send link command).1.coordinator := by
  unfold send
  split
  · exact .refl _
  · rename_i standIn found
    dsimp only
    split
    · exact leadsTo_handle ((r.update link.handle _).observe _) _
    · exact .refl _
    · exact .refl _

theorem leadsTo_conclude (verdict : Verdict) :
    r.coordinator.LeadsTo (r.conclude verdict).1.coordinator := by
  refine ⟨[verdict], [.input .tell], ?_⟩
  have told : ((Docket.mk r.coordinator [verdict]).live [.input .tell]).coordinator =
      (r.coordinator.conclude verdict).1 := rfl
  rw [told]
  unfold conclude
  generalize r.coordinator.conclude verdict = out
  obtain ⟨c, packet, continues⟩ := out
  cases packet <;> simp

theorem leadsTo_runHook : r.coordinator.LeadsTo r.runHook.1.coordinator := by
  unfold runHook
  split <;> exact .refl _

/-- A call that begins an operation is an act, or nothing without a session. -/
theorem leadsTo_call (s : Coordinator → Stage) :
    r.coordinator.LeadsTo (r.call fun c => c.begin (s c)).1.coordinator := by
  unfold call
  split
  · exact .refl _
  · refine ⟨[], [.begin (s r.coordinator)], ?_⟩
    unfold started
    cases out : r.coordinator.begin (s r.coordinator) with
    | mk c result => cases result <;> simp [Docket.live, Docket.act, Docket.begun, Docket.file, out]

theorem leadsTo_interrupt (reason : String) :
    r.coordinator.LeadsTo (r.instruct (.interrupt reason)).1.coordinator := by
  simp only [instruct]
  split
  · exact .refl _
  · refine ⟨[], [.input (.interrupt reason)], ?_⟩
    simp only [Docket.live, Docket.act, Docket.step]
    cases r.coordinator.interrupt reason with
    | error fault => rfl
    | ok accepted =>
      obtain ⟨c, packet⟩ := accepted
      cases packet <;> simp

theorem leadsTo_instruct (i : Instruction) :
    r.coordinator.LeadsTo (r.instruct i).1.coordinator := by
  -- what a script plays is an act of the session, or leaves the coordinator to itself
  cases i with
  | say key notice =>
    simp only [instruct]
    split
    · split
      · exact r.leadsTo_hear _ _
      · exact .refl _
    · exact .refl _
  | commit => exact r.leadsTo_call fun c => Stage.initial c.session.xa .commit
  | rollback => exact r.leadsTo_call fun c => Stage.initial c.session.xa .rollback
  | beginStage stage => exact r.leadsTo_call fun _ => stage
  | interrupt reason => exact r.leadsTo_interrupt reason
  | ok id packet => exact r.leadsTo_handle (.ok id packet)
  | error id code message => exact r.leadsTo_handle (.error id code message)
  | connectError id fault => exact r.leadsTo_handle (.connectError id fault)
  | closed key reason =>
    simp only [instruct]
    split
    · exact r.leadsTo_handle _
    · exact .refl _
  | refuseAll | react =>
    simp only [instruct]
    split <;> exact .refl _
  | clientClosed on => exact ⟨[], [.input (.clientClosed on)], rfl⟩
  | attach key id info => exact ⟨[], [.attach ⟨r.cast.length, id, info⟩], rfl⟩
  | reattach key =>
    simp only [instruct]
    split
    · exact ⟨[], [.attach ‹StandIn›.link], rfl⟩
    · exact .refl _
  | detach id => exact ⟨[], [.detach id], rfl⟩
  | setXa on => exact ⟨[], [.setXa on], rfl⟩
  | setPacketId n => exact ⟨[], [.setPacketId n], rfl⟩
  | setMultiStatement on => exact ⟨[], [.setMultiStatement on], rfl⟩
  | savepoint name => exact ⟨[], [.pushSavepoint name], rfl⟩
  | clearSavepoints => exact ⟨[], [.clearSavepoints], rfl⟩
  | clearTransaction => exact ⟨[], [.clearTransaction], rfl⟩
  | markDiscarding => exact ⟨[], [.markDiscarding], rfl⟩
  | closeSession => exact ⟨[], [.input .closeSession], rfl⟩
  | setInterruptReason reason => exact ⟨[], [.setInterruptReason reason], rfl⟩
  | writeClient data => exact ⟨[], [], (coordinator_writeClient r data).symm⟩
  | nextPacketId => exact ⟨[], [.takePacketId], rfl⟩
  | nextXaSequence => exact ⟨[], [.takeXaSequence], rfl⟩
  | clientFails | sessionId | nextStatement | dropSession | setHook => exact .refl _

/-- **Acts.** What a task does to the coordinator is what acts on its session do. -/
theorem leadsTo_perform (task : Task) : r.coordinator.LeadsTo (r.perform task).1.coordinator := by
  cases task with
  | send link command => exact r.leadsTo_send link command
  | hear link notice => exact r.leadsTo_hear link notice
  | conclude verdict => exact r.leadsTo_conclude verdict
  | nextStatement => exact r.leadsTo_runHook
  | instruct i => exact r.leadsTo_instruct i
  | note observation => exact .refl _

/-! ## Reached rehearsals -/

/-- A new session with nobody bound. -/
def new (id : UInt64) (issuer : String) : Rehearsal where
  coordinator := { session := { id := id, xidIssuer := issuer } }

/-- What tasks lead to, in any order, while the session may go. -/
inductive Reached : Rehearsal → Prop where
  | new (id : UInt64) (issuer : String) : Reached (new id issuer)
  | perform {r : Rehearsal} (task : Task) (earlier : Reached r) : Reached (r.perform task).1
  | letGo {r : Rehearsal} (gone : Bool) (earlier : Reached r) : Reached { r with gone := gone }

variable {r}

/-- **Invariant.** Whatever was done in whatever order, the coordinator is sound. -/
theorem Reached.sound (reached : r.Reached) : r.coordinator.Sound := by
  induction reached with
  | new id issuer => exact ⟨.inr rfl, List.nodup_nil, List.nodup_nil⟩
  | perform task earlier ih => exact ih.of_leadsTo (leadsTo_perform _ task)
  | letGo gone earlier ih => exact ih

theorem Reached.run {r : Rehearsal} (reached : r.Reached) (tasks : List Task) :
    (r.run tasks).Reached := by
  fun_induction Rehearsal.run r tasks with
  | case1 r => exact reached
  | case2 r task rest out ih => exact ih (reached.perform task)

/-- What a script plays is reached. -/
theorem Reached.play (reached : r.Reached) (i : Instruction) : (r.play i).1.Reached :=
  -- the instruction is performed as a task would be, but for the note of its answer
  ((reached.perform (.instruct i)).run (r.instruct i).2.2).letGo _

/-! ## Calls -/

end Rehearsal

/-- Whether a call needs an operation in flight, or none, if it is one that can be refused. -/
def Instruction.needs? : Instruction → Option Bool
  | .commit | .rollback | .beginStage _ => some false
  | .interrupt _ => some true
  | _ => none

namespace Rehearsal

/-- What a call that can be refused is called for, and that it does nothing if it is refused. -/
structure Refusable (r : Rehearsal) (i : Instruction) (flight : Bool) : Prop where
  accepted : (r.instruct i).2.1 = .done ↔ r.gone = false ∧ r.coordinator.inFlight = flight
  refused : (r.instruct i).2.1 ≠ .done → (r.instruct i).1 = r ∧ (r.instruct i).2.2 = []

variable {r : Rehearsal}

theorem call_of_gone (gone : r.gone = true)
    (f : Coordinator → Coordinator × Except Fault Effect) :
    r.call f = (r, .fault (.invalidState .sessionGone), []) := by
  unfold call
  rw [if_pos gone]

theorem call_of_inFlight (here : r.gone = false) {current : Stage}
    (inFlight : r.coordinator.operation.stage = some current) (s : Stage) :
    r.call (fun c => c.begin s) =
      (r, .fault (.invalidState (.inFlight s.name current.name)), []) := by
  have refused := Coordinator.begin_of_inFlight inFlight s
  unfold call
  rw [if_neg (by simp [here])]
  dsimp only
  rw [refused]
  rfl

theorem call_of_idle (here : r.gone = false) (idle : r.coordinator.operation.stage = none)
    (s : Stage) :
    r.call (fun c => c.begin s) =
      ({ r with coordinator := ((r.coordinator.fresh s).follow (.enter s) none).1 }, .done,
        tasksOf ((r.coordinator.fresh s).follow (.enter s) none).2) := by
  have begun := Coordinator.begin_eq_follow idle s
  unfold call
  rw [if_neg (by simp [here])]
  dsimp only
  rw [begun]
  rfl

theorem refusable_call (s : Stage) {i : Instruction}
    (calls : r.instruct i = r.call fun c => c.begin s) : r.Refusable i false := by
  cases here : r.gone with
  | true =>
    rw [call_of_gone here] at calls
    exact ⟨by simp [calls, here], by simp [calls]⟩
  | false =>
    cases stage : r.coordinator.operation.stage with
    | some current =>
      rw [call_of_inFlight here stage] at calls
      exact ⟨by simp [calls, Coordinator.inFlight, stage], by simp [calls]⟩
    | none =>
      rw [call_of_idle here stage] at calls
      exact ⟨by simp [calls, here, Coordinator.inFlight, stage], by simp [calls]⟩

theorem refusable_interrupt (reason : String) : r.Refusable (.interrupt reason) true := by
  cases here : r.gone with
  | true =>
    have refused : r.instruct (.interrupt reason) =
        (r, .fault (.invalidState .sessionGone), []) := by
      simp only [instruct]
      rw [if_pos here]
    exact ⟨by simp [refused, here], by simp [refused]⟩
  | false =>
    cases flight : r.coordinator.inFlight with
    | false =>
      have refused : r.instruct (.interrupt reason) =
          (r, .fault (.invalidState .nothingInFlight), []) := by
        simp only [instruct, Coordinator.interrupt, flight, Bool.not_false, if_true]
        rw [if_neg (by simp [here])]
      exact ⟨by simp [refused, flight], by simp [refused]⟩
    | true =>
      -- a second interrupt is accepted as the first is, and tells nobody
      have accepted : (r.instruct (.interrupt reason)).2.1 = .done := by
        simp only [instruct, Coordinator.interrupt, flight, here, Bool.not_true,
          Bool.false_eq_true, if_false]
        split
        · rename_i fault refused
          repeat' split at refused
          all_goals exact absurd refused (by simp)
        · rfl
      exact ⟨by simp [accepted, here, flight], by simp [accepted]⟩

/-- A call is refused for want of a session, or because of an operation in flight or none, and then
does nothing. -/
theorem refusable_of_needs {i : Instruction} {flight : Bool} (h : i.needs? = some flight) :
    r.Refusable i flight := by
  cases i with
  | commit =>
    obtain rfl := Option.some.inj h
    exact refusable_call (Stage.initial r.coordinator.session.xa .commit) rfl
  | rollback =>
    obtain rfl := Option.some.inj h
    exact refusable_call (Stage.initial r.coordinator.session.xa .rollback) rfl
  | beginStage stage =>
    obtain rfl := Option.some.inj h
    exact refusable_call stage rfl
  | interrupt reason =>
    obtain rfl := Option.some.inj h
    exact refusable_interrupt reason
  | _ => exact absurd h (by simp [Instruction.needs?])

end Rehearsal

/-- **Stage and cohort in step.** Whatever was done in whatever order, a stage is in flight iff the
cohort is open and not complete, more participants are pending then than slots are taken, the
operation has a transaction id iff its stage sends XA commands, and nothing is left when no stage is
in flight. So an event that moves the coordinator on finds a stage in flight, and the stage after it
is entered without a refusal; a call is refused only without a session or because of an operation
in flight or none, and a refused call changes nothing. -/
theorem stage_and_cohort_in_step {r : Rehearsal} (reached : r.Reached) :
    r.coordinator.operation.InStep ∧
      (∀ e, (r.coordinator.completed? e = none → (r.coordinator.handle e).2 = .idle) ∧
        ∀ moved, r.coordinator.completed? e = some moved →
          r.coordinator.handle e = moved.advance ∧
            ∃ s, moved.operation.stage = some s ∧ ∀ t, s.next (moved.result s) = .enter t →
              ∃ effect, (moved.between.enter t).2 = .ok effect) ∧
      ∀ i flight, i.needs? = some flight → r.Refusable i flight := by
  have sound := reached.sound
  refine ⟨sound.inStep, ?_, ?_⟩
  · intro e
    have moves := r.coordinator.handle_eq_advance e
    refine ⟨moves.2, ?_⟩
    intro moved completed
    exact ⟨moves.1 moved completed, Coordinator.enters_of_completed sound.settled completed⟩
  · intro i flight needs
    exact Rehearsal.refusable_of_needs needs

namespace Sample

/-- A new session after these instructions, with what they lead to left undone. -/
def rehearsed (script : List Instruction) : Rehearsal :=
  script.foldl (fun r i => (r.perform (.instruct i)).1) (Rehearsal.new 7 "x")

theorem reached_rehearsed (script : List Instruction) : (rehearsed script).Reached := by
  unfold rehearsed
  have start := Rehearsal.Reached.new 7 "x"
  generalize Rehearsal.new 7 "x" = r at start
  induction script generalizing r with
  | nil => exact start
  | cons i rest ih => exact ih _ (start.perform (.instruct i))

/-- Two stand-ins bound to a transaction, in a commit that has begun and whose first commands still
wait to be sent. -/
def curtain : Rehearsal :=
  rehearsed [.attach "a" ⟨"a"⟩ {}, .attach "b" ⟨"b"⟩ {}, .setXa true, .commit]

end Sample

open Sample in
/-- The case of a commit of two that is in flight: no other can begin, and it can be interrupted. -/
theorem in_step_of_curtain :
    curtain.coordinator.inFlight = true ∧ curtain.coordinator.operation.InStep ∧
      (curtain.instruct .rollback).1 = curtain ∧
      (curtain.instruct (.interrupt "late")).2.1 = .done := by
  have reached : curtain.Reached := reached_rehearsed _
  obtain ⟨inStep, -, calls⟩ := stage_and_cohort_in_step reached
  have flight : curtain.coordinator.inFlight = true := by decide +kernel
  refine ⟨flight, inStep, ?_, ?_⟩
  · have refusable := calls .rollback false rfl
    refine (refusable.refused ?_).1
    rw [ne_eq, refusable.accepted, flight]
    simp
  · exact (calls (.interrupt "late") true rfl).accepted.mpr ⟨by decide +kernel, flight⟩

end AtomicCommit
