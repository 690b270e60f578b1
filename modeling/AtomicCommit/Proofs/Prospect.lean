import AtomicCommit.Proofs.Passage

/-!
# What an operation can still come to

A stage in flight is *promising* if the operation would go on towards success should its cohort
close as it stands. A step keeps a promising stage promising unless it *spoils* it, and nothing
mends a stage that is not. So an operation concludes with success iff it was promising when it
began and no step of its run spoiled it.

* **step** — `promising_absorb`, for one input within a stage.
* **succession** — `Coordinator.promising_landed`, from a stage to the next.
* **run** — `Docket.success_iff`, and `Docket.operation_success_iff` from the beginning.
-/

namespace AtomicCommit

/-! ## Outcomes in favour of success -/

/-- Whether a stage that comes to this outcome goes on towards success. -/
def Stage.favours : Stage → Outcome → Bool
  | .start .rollback, _ => true
  | .start .commit, o | .prepare, o | .plainCommit, o | .plainRollback, o => !o.failed
  | .commitAll, o => o.lostText.isNone
  | .rollbackAll cause, o => cause.isNone && o.lostText.isNone
  | .cleanup _ _ cause lost, o => cause.isNone && lost.isNone && !o.failed

namespace Stage

theorem favours_of_concludes {s : Stage} {o : Outcome} {conclusion : Conclusion}
    (h : s.next o = .conclude conclusion) :
    conclusion = .success ↔ s.favours o = true := by
  cases s with
  | start intent => cases intent <;> simp [next] at h
  | prepare | commitAll | rollbackAll => simp [next] at h
  | cleanup decision retry cause lost =>
    cases cause with
    | some cause =>
      simp only [next, Transition.conclude.injEq] at h
      simp [← h, favours]
    | none =>
      simp only [next, Transition.conclude.injEq] at h
      subst h
      cases failed : o.failed <;> cases lost <;> simp [favours, failed]
  | plainCommit | plainRollback =>
    simp only [next, Transition.conclude.injEq] at h
    subst h
    cases failed : o.failed <;> simp [favours, failed]

/-- A stage favours the outcome of a cohort without members iff it was entered in favour. -/
theorem favours_of_enters {s t : Stage} {o : Outcome} (h : s.next o = .enter t) :
    t.favours {} = true ↔ s.favours o = true := by
  cases s with
  | start intent =>
    cases intent with
    | commit =>
      simp only [next, Transition.enter.injEq] at h
      subst h
      cases failed : o.failed <;> simp [favours, failed]
    | rollback =>
      simp only [next, Transition.enter.injEq] at h
      subst h
      simp [favours, Outcome.lostText]
  | prepare =>
    simp only [next, Transition.enter.injEq] at h
    subst h
    cases failed : o.failed <;> simp [favours, failed, Outcome.lostText]
  | commitAll | rollbackAll =>
    simp only [next, Transition.enter.injEq] at h
    subst h
    simp [favours]
  | cleanup decision retry cause lost => cases cause <;> simp [next] at h
  | plainCommit | plainRollback => simp [next] at h

theorem ifNobody_success_iff (s : Stage) : s.ifNobody = .success ↔ s.favours {} = true := by
  cases s with
  | start intent => cases intent <;> simp [ifNobody, favours]
  | rollbackAll cause => cases cause <;> simp [ifNobody, favours, Outcome.lostText]
  | cleanup decision retry cause lost => cases cause <;> cases lost <;> simp [ifNobody, favours]
  | prepare | commitAll | plainCommit | plainRollback => simp [ifNobody, favours, Outcome.lostText]

/-- Before the decision success is all that counts. -/
theorem favours_eq_of_precedes {s : Stage} (h : s.precedesDecision = true) (o : Outcome) :
    s.favours o = !o.failed := by
  cases s with
  | start intent =>
    cases intent with
    | commit => rfl
    | rollback => exact absurd h (by simp [precedesDecision])
  | prepare => rfl
  | commitAll | rollbackAll | cleanup | plainCommit | plainRollback =>
    exact absurd h (by simp [precedesDecision])

/-- A stage that precedes the decision is not entered with a failure. -/
theorem favours_of_precedes {s t : Stage} {o : Outcome} (h : s.next o = .enter t)
    (precedes : t.precedesDecision = true) : s.precedesDecision = true ∧ o.failed = false := by
  cases s with
  | start intent =>
    cases intent with
    | commit =>
      simp only [next, Transition.enter.injEq] at h
      subst h
      -- a failure turns to the rollback, which is a decision
      cases failed : o.failed with
      | false => exact ⟨rfl, rfl⟩
      | true => simp [failed, precedesDecision] at precedes
    | rollback =>
      simp only [next, Transition.enter.injEq] at h
      subst h
      simp [precedesDecision] at precedes
  | prepare =>
    simp only [next, Transition.enter.injEq] at h
    subst h
    split at precedes <;> simp [precedesDecision] at precedes
  | commitAll | rollbackAll =>
    simp only [next, Transition.enter.injEq] at h
    subst h
    simp [precedesDecision] at precedes
  | cleanup decision retry cause lost => cases cause <;> simp [next] at h
  | plainCommit | plainRollback => simp [next] at h

end Stage

/-! ## Promising stages -/

namespace Coordinator

/-- Should the cohort close as it stands, the operation would go on towards success. -/
def promising (c : Coordinator) (s : Stage) : Prop :=
  s.favours (c.result s) = true

/-- Nothing from outside has turned the decision. -/
def Unforced (c : Coordinator) : Prop :=
  c.operation.interrupted = none ∧ c.operation.departed = none

theorem result_of_not_precedes {s : Stage} (h : s.precedesDecision = false) (c : Coordinator) :
    c.result s = c.operation.cohort.outcome := by
  unfold result Operation.withForced
  rw [h]
  rfl

/-- Before the decision an interrupt or a departure is a failure too. -/
theorem failed_result_iff {s : Stage} (h : s.precedesDecision = true) (c : Coordinator) :
    (c.result s).failed = false ↔ c.operation.cohort.errorCount = 0 ∧ c.Unforced := by
  unfold result Operation.withForced Unforced
  rw [if_pos h]
  cases interrupted : c.operation.interrupted <;> cases departed : c.operation.departed <;>
    simp [Cohort.outcome]

theorem promising_iff (c : Coordinator) (s : Stage) :
    c.promising s ↔
      s.favours c.operation.cohort.outcome = true ∧ (s.precedesDecision = true → c.Unforced) := by
  unfold promising
  by_cases precedes : s.precedesDecision = true
  · rw [Stage.favours_eq_of_precedes precedes, Stage.favours_eq_of_precedes precedes,
      Bool.not_eq_true', failed_result_iff precedes]
    simp [precedes, Cohort.outcome]
  · rw [result_of_not_precedes (by simpa using precedes)]
    simp [precedes]

end Coordinator

/-! ## Spoiling -/

/-- The entries after which the stage no longer goes on towards success. An error at a decision is
mended by the cleanup, and a loss is not. -/
def Stage.spoiledByEntry : Stage → Cohort.Entry → Bool
  | .start .rollback, _ => false
  | .commitAll, e | .rollbackAll _, e => e.isLoss
  | .start .commit, e | .prepare, e | .cleanup .., e | .plainCommit, e | .plainRollback, e =>
    e.isFailure

/-- Before the decision any failure spoils a stage. -/
theorem Stage.spoiledByEntry_of_precedes {s : Stage} (h : s.precedesDecision = true) :
    s.spoiledByEntry = Cohort.Entry.isFailure := by
  cases s with
  | start intent =>
    cases intent with
    | commit => rfl
    | rollback => exact absurd h (by simp [precedesDecision])
  | prepare => rfl
  | commitAll | rollbackAll | cleanup | plainCommit | plainRollback =>
    exact absurd h (by simp [precedesDecision])

theorem Outcome.isNone_lostText (o : Outcome) :
    o.lostText.isNone = (o.lost.isEmpty && o.unreachable == 0) := by
  unfold lostText
  cases o.lost <;> cases o.unreachable <;> simp

theorem Stage.favours_book (s : Stage) (c : Cohort) (e : Cohort.Entry) :
    s.favours (c.book e).outcome = (s.favours c.outcome && !s.spoiledByEntry e) := by
  have errors : (c.book e).errorCount = c.errorCount + if e.isFailure then 1 else 0 := by
    cases e <;> rfl
  have losses : (c.book e).outcome.lostText.isNone = (c.outcome.lostText.isNone && !e.isLoss) := by
    rw [Outcome.isNone_lostText, Outcome.isNone_lostText]
    cases e <;> simp [Cohort.book, Cohort.recordError, Cohort.outcome, Cohort.Entry.isLoss]
  have failed : (!(c.book e).outcome.failed) = (!c.outcome.failed && !e.isFailure) := by
    show (!decide (0 < (c.book e).errorCount)) = (!decide (0 < c.errorCount) && !e.isFailure)
    rw [errors]
    cases e.isFailure <;> simp
  rcases s with (_ | _) | _ | _ | _ | _ | _ | _ <;>
    simp only [favours, spoiledByEntry, failed, losses, Bool.and_assoc, Bool.not_false,
      Bool.and_true]

namespace Coordinator

/-- Whether an input counts against success while stage `s` is in flight. Before the decision an
interrupt does, and any close. -/
def spoiledBy (c : Coordinator) (s : Stage) (i : Input) : Bool :=
  (c.inputEntryOf i).any s.spoiledByEntry ||
    s.precedesDecision && (i.closed?.isSome || i.reason?.isSome)

end Coordinator

namespace Docket

section Absorb

open Coordinator

variable {d : Docket} {s : Stage} (running : d.coordinator.Running s) (i : Input)

include running

theorem favours_absorb : s.favours (d.absorb i).operation.cohort.outcome = true ↔
    s.favours d.coordinator.operation.cohort.outcome = true ∧
      (d.coordinator.inputEntryOf i).any s.spoiledByEntry = false := by
  rw [cohort_absorb running]
  cases d.coordinator.inputEntryOf i with
  | none => simp
  | some e =>
    rw [Option.map_some, Option.getD_some, Stage.favours_book, Bool.and_eq_true,
      Bool.not_eq_true']
    rfl

/-- Before the decision, a close that the cohort does not count is remembered as a departure. -/
theorem departed_absorb (precedes : s.precedesDecision = true) :
    (d.absorb i).operation.departed = none ↔
      d.coordinator.operation.departed = none ∧
        (d.coordinator.inputEntryOf i = none → i.closed? = none) := by
  cases i with
  | event e =>
    dsimp only [absorb, inputEntryOf]
    cases entered : d.coordinator.entryOf e with
    | some entry => simp [booked]
    | none =>
      cases e with
      | closed link reason =>
        simp [Coordinator.pass, departure, Input.closed?, running.stage, precedes]
      | ok | error | connectError => simp [Coordinator.pass, departure, Input.closed?]
  | interrupt reason =>
    obtain ⟨session, packet, -, accepted⟩ := step_interrupt_of_running running reason
    simp [absorb, accepted, Input.closed?]
  | tell =>
    rw [show (d.absorb .tell).operation = d.coordinator.operation from d.operation_step_tell]
    simp [Input.closed?]
  | closeSession | clientClosed => simp [absorb, step, onSession, Input.closed?]

/-- **Step.** Taking an input in keeps a promising stage promising unless the input spoils it, and
mends nothing. -/
theorem promising_absorb :
    (d.absorb i).promising s ↔ d.coordinator.promising s ∧ d.coordinator.spoiledBy s i = false := by
  rw [promising_iff, promising_iff, favours_absorb running]
  unfold spoiledBy Unforced
  rw [Bool.or_eq_false_iff]
  by_cases precedes : s.precedesDecision = true
  · rw [interrupted_absorb running, departed_absorb running i precedes]
    -- a close that the cohort does count is a failure, and spoils the stage as such
    have counted : (d.coordinator.inputEntryOf i).any s.spoiledByEntry = false →
        (d.coordinator.inputEntryOf i = none → i.closed? = none) → i.closed? = none := by
      intro unspoiled uncounted
      by_contra closed
      cases i with
      | event e =>
        cases e with
        | closed link reason =>
          by_cases pending : d.coordinator.operation.cohort.isPending link.id = true
          · have failure : s.spoiledByEntry
                (.closed link.id (link.info.closedMessage reason)) = true := by
              rw [Stage.spoiledByEntry_of_precedes precedes]
              rfl
            simp [inputEntryOf, entryOf, pending, failure] at unspoiled
          · exact closed (uncounted (by simp [inputEntryOf, entryOf, pending]))
        | ok | error | connectError => simp [Input.closed?] at closed
      | interrupt | tell | closeSession | clientClosed => simp [Input.closed?] at closed
    simp only [precedes, Bool.true_and, Bool.or_eq_false_iff, Option.isSome_eq_false_iff,
      Option.isNone_iff_eq_none, Option.or_eq_none_iff, forall_const]
    constructor
    · rintro ⟨⟨favours, unspoiled⟩, ⟨quiet, noReason⟩, noDeparture, uncounted⟩
      exact ⟨⟨favours, quiet, noDeparture⟩, unspoiled, counted unspoiled uncounted, noReason⟩
    · rintro ⟨⟨favours, quiet, noDeparture⟩, unspoiled, noClose, noReason⟩
      exact ⟨⟨favours, unspoiled⟩, ⟨quiet, noReason⟩, noDeparture, fun _ => noClose⟩
  · simp [precedes]

end Absorb

end Docket

namespace Coordinator

/-! ## Succession -/

/-- A stage is as promising when it is entered as the one before it was when it closed. -/
theorem promising_landed {c : Coordinator} {s t : Stage} (next : s.next (c.result s) = .enter t) :
    (c.settled.landed t).promising t ↔ c.promising s := by
  have opened : t.favours (c.settled.landed t).operation.cohort.outcome = t.favours {} := by
    rcases t with (_ | _) | _ | _ | _ | _ | _ | _ <;> rfl
  rw [promising_iff, opened, Stage.favours_of_enters next]
  constructor
  · exact And.left
  · intro promising
    refine ⟨promising, ?_⟩
    intro precedes
    -- an interrupt or a departure would have been a failure of the stage before
    obtain ⟨before, succeeded⟩ := Stage.favours_of_precedes next precedes
    exact ((failed_result_iff before c).mp succeeded).2

theorem success_of_proceed {c : Coordinator} {s : Stage} {verdict : Verdict}
    (h : (c.proceed s).2 = .conclude verdict) :
    verdict.conclusion = .success ↔ c.promising s := by
  rcases proceed_concludes h with ⟨conclusion, next, rfl⟩ | ⟨t, next, rfl⟩
  · exact Stage.favours_of_concludes next
  · exact (Stage.ifNobody_success_iff t).trans (Stage.favours_of_enters next)

end Coordinator

/-! ## Runs -/

/-- Whether a step counts against the success of the operation in flight. -/
def Moment.spoils (m : Moment) : Bool :=
  match m.stage with
  | some s => m.docket.coordinator.spoiledBy s m.input
  | none => false

namespace Docket

theorem spoils_of_busy {d : Docket} {s : Stage} (busy : d.coordinator.Running s) (i : Input) :
    (Moment.mk d i).spoils = d.coordinator.spoiledBy s i := by
  show (match d.coordinator.operation.stage with | some s => _ | none => _) = _
  rw [busy.stage]

/-- A stage that stays in flight over a run stays promising unless something in the run spoils
it. -/
theorem Keeps.promising {d : Docket} {s : Stage} {xs : List Input} (keeps : Keeps s d xs) :
    (d.run xs).coordinator.promising s ↔
      d.coordinator.promising s ∧ ∀ m ∈ d.moments xs, m.spoils = false := by
  induction keeps with
  | nil busy => simp [run, moments]
  | cons busy stays keeps ih =>
    rename_i d i rest
    rw [run, ih, stays.after, promising_absorb busy i, moments,
      List.forall_mem_cons, spoils_of_busy busy, and_assoc]

theorem Round.promising {d : Docket} {s : Stage} {xs : List Input} {i : Input}
    (round : d.Round s xs i) :
    (d.atClose xs i).promising s ↔
      d.coordinator.promising s ∧ ∀ m ∈ d.moments (xs ++ [i]), m.spoils = false := by
  unfold atClose
  rw [promising_absorb round.busy i, round.keeps.promising, moments_append,
    List.forall_mem_append, ← spoils_of_busy round.busy, and_assoc]
  simp [moments]

def verdicts (d : Docket) (inputs : List Input) : List Verdict :=
  (d.moments inputs).flatMap fun m => m.report.effect.verdicts

theorem verdicts_cons (d : Docket) (i : Input) (rest : List Input) :
    d.verdicts (i :: rest) =
      (d.step i).2.effect.verdicts ++ (d.step i).1.verdicts rest := rfl

theorem verdicts_of_atRest {d : Docket} (rest : d.coordinator.AtRest) (inputs : List Input) :
    d.verdicts inputs = [] := by
  unfold verdicts
  rw [List.flatMap_eq_nil_iff]
  intro m h
  rw [(idle_of_atRest rest h).1]
  rfl

theorem spoils_of_atRest {d : Docket} {inputs : List Input} (rest : d.coordinator.AtRest)
    {m : Moment} (h : m ∈ d.moments inputs) : m.spoils = false := by
  unfold Moment.spoils
  rw [stage_of_atRest rest h]

theorem Keeps.verdicts_eq_nil {d : Docket} {s : Stage} {xs : List Input} (keeps : Keeps s d xs) :
    d.verdicts xs = [] := by
  unfold verdicts
  rw [List.flatMap_eq_nil_iff]
  intro m h
  rw [show m.report.effect = .idle from (keeps.of_mem h).2.effect]
  rfl

/-- A verdict is reached at the end of a round or after it. -/
theorem exists_round_of_verdict {d : Docket} {s : Stage} {inputs : List Input} {verdict : Verdict}
    (busy : d.coordinator.Running s) (reached : verdict ∈ d.verdicts inputs) :
    ∃ xs i ys, inputs = xs ++ i :: ys ∧ d.Round s xs i ∧
      verdict ∈ ((d.run xs).step i).2.effect.verdicts ++ (d.after xs i).verdicts ys := by
  rcases keeps_or_round busy inputs with keeps | ⟨xs, i, ys, rfl, round⟩
  · rw [keeps.verdicts_eq_nil] at reached
    exact absurd reached List.not_mem_nil
  · refine ⟨xs, i, ys, rfl, round, ?_⟩
    unfold verdicts at reached
    rw [moments_append, List.flatMap_append, List.mem_append] at reached
    rcases reached with earlier | later
    · rw [show (d.moments xs).flatMap _ = [] from round.keeps.verdicts_eq_nil] at earlier
      exact absurd earlier List.not_mem_nil
    · exact later

/-- **Run.** From a stage in flight, an operation concludes with success iff the stage is promising
and nothing in the run spoils it. -/
theorem success_iff {d : Docket} {s : Stage} {inputs : List Input} {verdict : Verdict}
    (busy : d.coordinator.Running s) (reached : verdict ∈ d.verdicts inputs) :
    verdict.conclusion = .success ↔
      d.coordinator.promising s ∧ ∀ m ∈ d.moments inputs, m.spoils = false := by
  induction inputs generalizing d s with
  | nil => exact absurd reached List.not_mem_nil
  | cons i rest ih =>
    have absorbed := promising_absorb busy i
    rw [verdicts_cons, List.mem_append] at reached
    simp only [moments, List.forall_mem_cons, spoils_of_busy busy, ← and_assoc, ← absorbed]
    rcases step_turn busy i with stays | leaves
    · -- nothing is concluded by this step
      rw [stays.effect] at reached
      rcases reached with now | later
      · exact absurd now List.not_mem_nil
      · rw [ih stays.running later, stays.after]
    · rcases leaves.lands busy with ⟨t, next, after, effect, nextBusy⟩ | ⟨⟨v, effect⟩, rests, -⟩
      · rw [effect] at reached
        rcases reached with now | later
        · exact absurd now List.not_mem_nil
        · rw [ih nextBusy later, after, Coordinator.promising_landed next]
      · -- the verdict is reached here, and nothing after it spoils
        rw [verdicts_of_atRest rests, effect] at reached
        obtain rfl : verdict = v := by simpa [Effect.verdicts] using reached
        rw [Coordinator.success_of_proceed (leaves.effect ▸ effect)]
        exact ⟨fun h => ⟨h, fun m hm => spoils_of_atRest rests hm⟩, And.left⟩

/-- **Operation.** An operation that a client asks for concludes with success iff nothing in its
run spoils it. -/
theorem operation_success_iff {c : Coordinator} {d : Docket} {xa : Bool} {intent : Intent}
    {effect : Effect} {inputs : List Input} {verdict : Verdict}
    (h : c.begin (Stage.initial xa intent) = (d.coordinator, .ok effect))
    (reached : verdict ∈ effect.verdicts ++ d.verdicts inputs) :
    verdict.conclusion = .success ↔ ∀ m ∈ d.moments inputs, m.spoils = false := by
  have favours : (Stage.initial xa intent).favours {} = true := by
    cases xa <;> cases intent <;> rfl
  rw [List.mem_append] at reached
  rcases begun_lands h with ⟨landed, rfl, busy⟩ | ⟨rfl, rests⟩
  · rcases reached with now | later
    · exact absurd now List.not_mem_nil
    · rw [success_iff busy later]
      have promising : d.coordinator.promising (Stage.initial xa intent) := by
        rw [landed, Coordinator.promising_iff]
        refine ⟨?_, fun _ => ⟨Coordinator.interrupted_fresh .., Coordinator.departed_fresh ..⟩⟩
        cases xa <;> cases intent <;> rfl
      exact ⟨And.right, fun unspoiled => ⟨promising, unspoiled⟩⟩
  · rw [verdicts_of_atRest rests] at reached
    obtain rfl : verdict = _ := by simpa [Effect.verdicts] using reached
    rw [Stage.ifNobody_success_iff]
    exact ⟨fun _ m hm => spoils_of_atRest rests hm, fun _ => favours⟩

end Docket

end AtomicCommit
