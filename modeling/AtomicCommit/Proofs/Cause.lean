import AtomicCommit.Proofs.Atomicity
import AtomicCommit.Proofs.Chronicle
import AtomicCommit.Proofs.LateInterrupt
import AtomicCommit.Proofs.Severance

/-!
# Why a commit was given up

A stage before the decision that fails turns a commit into a rollback, and hands its text to
`XA ROLLBACK` as the cause: the text of the first failure that its cohort counted or, if it counted
none, the message of the departure that was recorded first. The cause is passed on from stage to
stage, whatever the rollback and its cleanup count, and is what the operation concludes with.

* **succession** — `Stage.cause_of_next`, `Stage.failure_of_cause`, `Stage.ifNobody_of_cause`.
* **the failed stage** — `Docket.Stay.error_eq_firstCause`: what the rollback is given.
* **run** — `abort_tells_first_cause`.
-/

namespace AtomicCommit

open Wire

/-! ## Passing a cause on -/

namespace Stage

/-- Why the operation was given up, as far as the stage knows. -/
def cause? : Stage → Option String
  | .rollbackAll cause | .cleanup _ _ cause _ => cause
  | _ => none

variable {s t : Stage} {o : Outcome} {cause : String}

theorem cause_of_next (given : s.cause? = some cause) (h : s.next o = .enter t) :
    t.cause? = some cause := by
  cases s with
  | rollbackAll known =>
    obtain rfl : known = some cause := given
    simp only [next, Transition.enter.injEq] at h
    subst h
    rfl
  | cleanup decision retry known lost => cases known <;> simp [next] at h
  | start | prepare | commitAll | plainCommit | plainRollback =>
    exact absurd given (by simp [cause?])

theorem failure_of_cause {conclusion : Conclusion} (given : s.cause? = some cause)
    (h : s.next o = .conclude conclusion) : conclusion = .failure cause := by
  cases s with
  | rollbackAll known => simp [next] at h
  | cleanup decision retry known lost =>
    obtain rfl : known = some cause := given
    simp only [next, Transition.conclude.injEq] at h
    exact h.symm
  | start | prepare | commitAll | plainCommit | plainRollback =>
    exact absurd given (by simp [cause?])

theorem ifNobody_of_cause (given : s.cause? = some cause) : s.ifNobody = .failure cause := by
  cases s with
  | rollbackAll known | cleanup decision retry known lost =>
    obtain rfl : known = some cause := given
    rfl
  | start | prepare | commitAll | plainCommit | plainRollback =>
    exact absurd given (by simp [cause?])

end Stage

namespace Docket

variable {d : Docket} {s t : Stage}

/-- An operation that knows why it was given up fails with that cause. -/
theorem conclusion_of_cause {inputs : List Input} {verdict : Verdict} {cause : String}
    (busy : d.coordinator.Running s) (given : s.cause? = some cause)
    (reached : verdict ∈ d.verdicts inputs) : verdict.conclusion = .failure cause := by
  induction inputs generalizing d s with
  | nil => exact absurd reached List.not_mem_nil
  | cons i rest ih =>
    rw [verdicts_cons, List.mem_append] at reached
    rcases step_turn busy i with stays | leaves
    · rw [stays.effect] at reached
      exact ih stays.running given (reached.resolve_left List.not_mem_nil)
    · rcases leaves.lands busy with ⟨t, next, -, effect, busyNext⟩ | ⟨⟨v, effect⟩, rests, -⟩
      · rw [effect] at reached
        exact ih busyNext (Stage.cause_of_next given next) (reached.resolve_left List.not_mem_nil)
      · rw [effect, verdicts_of_atRest rests] at reached
        obtain rfl : verdict = v := by simpa [Effect.verdicts] using reached
        rcases Coordinator.proceed_concludes (leaves.effect ▸ effect) with
          ⟨conclusion, next, rfl⟩ | ⟨t, next, rfl⟩
        · exact Stage.failure_of_cause given next
        · exact Stage.ifNobody_of_cause (Stage.cause_of_next given next)

end Docket

/-! ## Departures -/

/-- The message about the link that an input reports closed. -/
def Input.closedMessage? : Input → Option String
  | .event (.closed link reason) => some (link.info.closedMessage reason)
  | _ => none

/-- The departure that a step records: a link closes that owes no answer, and the decision is
open. -/
def Moment.departs? (m : Moment) : Option String :=
  if m.stage.any Stage.precedesDecision && m.entryOf.isNone then m.input.closedMessage? else none

namespace Docket

variable {d : Docket} {s t : Stage}

/-- The departure that a run records first. -/
def firstDeparture (d : Docket) (inputs : List Input) : Option String :=
  (d.moments inputs).findSome? Moment.departs?

theorem firstDeparture_cons (d : Docket) (i : Input) (rest : List Input) :
    d.firstDeparture (i :: rest) =
      (Moment.mk d i).departs?.or ((d.step i).1.firstDeparture rest) := by
  unfold firstDeparture
  rw [moments, List.findSome?_cons]
  cases (Moment.mk d i).departs? <;> rfl

theorem firstDeparture_append (d : Docket) (xs ys : List Input) :
    d.firstDeparture (xs ++ ys) = (d.firstDeparture xs).or ((d.run xs).firstDeparture ys) := by
  unfold firstDeparture
  rw [moments_append, List.findSome?_append]

theorem departs_of_decided {m : Moment} (decided : m.stage.any Stage.precedesDecision = false) :
    m.departs? = none := by
  simp [Moment.departs?, decided]

theorem departs_of_running (busy : d.coordinator.Running s) (i : Input) :
    (Moment.mk d i).departs? =
      if s.precedesDecision && (d.coordinator.inputEntryOf i).isNone then i.closedMessage?
      else none := by
  have stage : (Moment.mk d i).stage = some s := busy.stage
  unfold Moment.departs?
  rw [stage]
  rfl

/-- A step keeps the departure recorded first. -/
theorem departed_absorb_eq (busy : d.coordinator.Running s) (i : Input) :
    (d.absorb i).operation.departed =
      d.coordinator.operation.departed.or (Moment.mk d i).departs? := by
  rw [departs_of_running busy]
  cases i with
  | event e =>
    -- an event that is counted is no departure; a close that is not counted is one, in time
    cases entered : d.coordinator.entryOf e with
    | some entry =>
      have counted : d.coordinator.inputEntryOf (.event e) = some entry := entered
      have booked : d.absorb (.event e) = d.coordinator.booked e entry := by simp [absorb, entered]
      rw [booked, counted]
      simp [Coordinator.booked]
    | none =>
      have uncounted : d.coordinator.inputEntryOf (.event e) = none := entered
      have passed : d.absorb (.event e) = d.coordinator.pass e := by simp [absorb, entered]
      rw [passed, uncounted]
      cases e with
      | closed link reason =>
        cases precedes : s.precedesDecision <;>
          simp [Coordinator.pass, Coordinator.departure, busy.stage, precedes,
            Input.closedMessage?]
      | ok | error | connectError =>
        simp [Coordinator.pass, Coordinator.departure, Input.closedMessage?]
  | interrupt reason =>
    obtain ⟨session, packet, -, accepted⟩ := step_interrupt_of_running busy reason
    simp [absorb, accepted, Input.closedMessage?]
  | tell =>
    rw [show (d.absorb .tell).operation = d.coordinator.operation from d.operation_step_tell]
    simp [Input.closedMessage?]
  | closeSession | clientClosed => simp [absorb, step, onSession, Input.closedMessage?]

/-- As long as a stage is in flight, the departure recorded first is kept. -/
theorem departed_run {inputs : List Input} (busy : d.coordinator.Running s)
    (there : (d.run inputs).coordinator.Running t) :
    (d.run inputs).coordinator.operation.departed =
      d.coordinator.operation.departed.or (d.firstDeparture inputs) := by
  induction inputs generalizing d s with
  | nil => exact Option.or_none.symm
  | cons i rest ih =>
    rw [run, firstDeparture_cons, ← Option.or_assoc, ← departed_absorb_eq busy]
    rcases step_turn busy i with stays | leaves
    · rw [ih stays.running there, stays.after]
    · rcases leaves.lands busy with ⟨u, -, after, -, next⟩ | ⟨-, rests, -⟩
      · rw [ih next there, after]
        rfl
      · exact absurd there (atRest_run rests rest).not_running

end Docket

/-! ## The failed stage -/

namespace Coordinator

variable {c : Coordinator} {s : Stage}

/-- Before the decision, and without an interrupt, the first text counted comes before the departure
recorded first. -/
theorem error_result (precedes : s.precedesDecision = true)
    (uninterrupted : c.operation.interrupted = none) :
    (c.result s).error = c.operation.cohort.firstError.or c.operation.departed := by
  unfold result Operation.withForced
  rw [if_pos precedes, uninterrupted]
  cases departed : c.operation.departed with
  | none => exact Option.or_none.symm
  | some message => rfl

end Coordinator

namespace Docket

variable {d : Docket} {first s : Stage} {xs ys zs : List Input} {i : Input}
  {ids : List ParticipantId}

/-- What a run says about why stage `s` failed: the first text that its cohort counted or else the
departure recorded first. -/
def firstCause (d : Docket) (s : Stage) (inputs : List Input) : Option String :=
  ((d.countedIn (· == s) inputs).findSome? Cohort.Entry.text?).or (d.firstDeparture inputs)

/-- Nothing departs before the decision once a stage before the decision has failed. -/
theorem Round.decided_after {d : Docket} (round : d.Round s xs i)
    (precedes : s.precedesDecision = true) (failed : ((d.atClose xs i).result s).failed = true)
    {m : Moment} (h : m ∈ (d.after xs i).moments ys) :
    m.stage.any Stage.precedesDecision = false := by
  rcases round.lands with ⟨t, next, -, -, busy⟩ | ⟨-, rests, -⟩
  · obtain rfl : _ = t := Transition.enter.inj ((Stage.next_of_failed precedes failed).symm.trans next)
    have leads : ∀ {u v : Stage} {o : Outcome}, u.precedesDecision = false →
        u.next o = .enter v → v.precedesDecision = false := Stage.decided_of_next
    rcases stage_of_mem (K := fun u => u.precedesDecision = false) leads busy rfl h with
      none | ⟨u, decided, stage⟩
    · rw [none]
      rfl
    · rw [stage]
      exact decided
  · rw [stage_of_atRest rests h]
    rfl

/-- **The failed stage.** What a stage before the decision hands to the rollback is the first cause
that the run gives. -/
theorem Stay.error_eq_firstCause (zs : List Input) (stay : d.Stay s xs ys i ids)
    (busy : d.coordinator.Running first)
    (undeparted : d.coordinator.operation.departed = none)
    (precedes : s.precedesDecision = true)
    (uninterrupted : ((d.run xs).atClose ys i).operation.interrupted = none)
    (failed : (((d.run xs).atClose ys i).result s).failed = true) :
    (((d.run xs).atClose ys i).result s).error = d.firstCause s (xs ++ (ys ++ i :: zs)) := by
  have account := stay.round.account stay.enters.opened
  have counted : ((d.run xs).atClose ys i).operation.cohort.firstError =
      (d.countedIn (· == s) (xs ++ (ys ++ i :: zs))).findSome? Cohort.Entry.text? := by
    rw [stay.countedIn_eq, account.firstError_eq]
  -- once the operation has failed, a departure is no cause any more
  have later : ((d.run xs).after ys i).firstDeparture zs = none := by
    unfold firstDeparture
    rw [List.findSome?_eq_none_iff]
    intro m h
    exact departs_of_decided (stay.round.decided_after precedes failed h)
  have departed : ((d.run xs).atClose ys i).operation.departed =
      d.firstDeparture (xs ++ (ys ++ i :: zs)) := by
    have before := departed_run busy stay.enters.busy
    have within := departed_run stay.enters.busy stay.round.busy
    have last := departed_absorb_eq stay.round.busy i
    rw [firstDeparture_append, firstDeparture_append, firstDeparture_cons,
      show (((d.run xs).run ys).step i).1 = (d.run xs).after ys i from rfl, later, Option.or_none]
    unfold atClose
    rw [last, within, before, undeparted, Option.none_or, Option.or_assoc]
  rw [Coordinator.error_result precedes uninterrupted, counted, departed]
  rfl

/-- A stage before the decision that fails has a cause. -/
theorem Stay.exists_cause (stay : d.Stay s xs ys i ids)
    (precedes : s.precedesDecision = true)
    (uninterrupted : ((d.run xs).atClose ys i).operation.interrupted = none)
    (failed : (((d.run xs).atClose ys i).result s).failed = true) :
    ∃ cause, (((d.run xs).atClose ys i).result s).error = some cause := by
  have account := stay.round.account stay.enters.opened
  rw [Coordinator.error_result precedes uninterrupted]
  by_cases counted : ((d.run xs).atClose ys i).operation.cohort.errorCount = 0
  · cases departed : ((d.run xs).atClose ys i).operation.departed with
    | some message =>
      rw [Option.or_some]
      exact ⟨_, rfl⟩
    | none =>
      -- neither an error nor a departure, so the stage has not failed
      have unfailed : (((d.run xs).atClose ys i).result s).failed = false :=
        (Coordinator.failed_result_iff precedes _).mpr ⟨counted, uninterrupted, departed⟩
      rw [unfailed] at failed
      exact absurd failed Bool.false_ne_true
  · obtain ⟨e, member, worded⟩ := account.exists_text (decide_eq_true (Nat.pos_of_ne_zero counted))
    cases kept : ((d.run xs).atClose ys i).operation.cohort.firstError with
    | some message => exact ⟨message, rfl⟩
    | none =>
      rw [account.firstError_eq, List.findSome?_eq_none_iff] at kept
      rw [kept e member] at worded
      exact absurd worded (by simp)

/-- What is concluded after a stage before the decision has failed is a failure with its cause. -/
theorem Stay.conclusion_of_failed {cause : String} {verdict : Verdict}
    (stay : d.Stay s xs ys i ids) (busy : d.coordinator.Running first)
    (precedes : s.precedesDecision = true)
    (failed : (((d.run xs).atClose ys i).result s).failed = true)
    (handed : (((d.run xs).atClose ys i).result s).error = some cause)
    (reached : verdict ∈ d.verdicts (xs ++ (ys ++ i :: zs))) :
    verdict.conclusion = .failure cause := by
  have turns : s.next (((d.run xs).atClose ys i).result s) =
      .enter (.rollbackAll (some cause)) := by
    rw [Stage.next_of_failed precedes failed, Outcome.errorText, handed]
    rfl
  have known : (Stage.rollbackAll (some cause)).cause? = some cause := rfl
  rw [verdicts_append, verdicts_eq_nil_of_running busy stay.enters.busy, verdicts_round,
    stay.round.keeps.verdicts_eq_nil, List.nil_append, List.nil_append, List.mem_append] at reached
  -- either the rollback is sent, or nobody is left to send it to
  rcases stay.round.lands with ⟨t, next, -, effect, busyNext⟩ | ⟨⟨v, effect⟩, rests, -⟩
  · obtain rfl : _ = t := Transition.enter.inj (turns.symm.trans next)
    rw [effect] at reached
    exact conclusion_of_cause busyNext known (reached.resolve_left List.not_mem_nil)
  · rw [effect, verdicts_of_atRest rests] at reached
    obtain rfl : verdict = v := by simpa [Effect.verdicts] using reached
    rcases Coordinator.proceed_concludes (stay.round.leaves.effect ▸ effect) with
      ⟨conclusion, next, rfl⟩ | ⟨t, next, rfl⟩
    · exact absurd (turns.symm.trans next) (by simp)
    · obtain rfl : _ = t := Transition.enter.inj (turns.symm.trans next)
      exact Stage.ifNobody_of_cause known

end Docket

/-! ## Giving up -/

/-- The step turns a commit into a rollback: a stage before the decision is in flight, and then
`XA ROLLBACK` is or, if nobody is left to be sent it, the operation has failed. -/
def Moment.abandons (m : Moment) : Bool :=
  m.stage.any Stage.precedesDecision &&
    (m.after.coordinator.operation.stage.any Stage.isRollback ||
      m.report.effect.verdicts.any fun verdict => !verdict.conclusion.isSuccess)

namespace Docket

variable {d : Docket} {s : Stage}

/-- A commit is turned into a rollback by the end of a stage that has failed. -/
theorem leaves_of_abandons {m : Moment} (busy : m.docket.coordinator.Running s)
    (abandons : m.abandons = true) :
    s.precedesDecision = true ∧ m.docket.Leaves s m.input ∧
      ((m.docket.absorb m.input).result s).failed = true := by
  have stage : m.stage = some s := busy.stage
  simp only [Moment.abandons, stage, Option.any_some, Bool.and_eq_true, Bool.or_eq_true] at abandons
  obtain ⟨precedes, turns⟩ := abandons
  have forward : s.isRollback = false := by
    cases s with
    | start | prepare => rfl
    | commitAll | rollbackAll | cleanup | plainCommit | plainRollback =>
      simp [Stage.precedesDecision] at precedes
  refine ⟨precedes, ?_⟩
  rcases step_turn busy m.input with stays | leaves
  · -- a stage that stays in flight is no rollback, and nothing is concluded
    exfalso
    rcases turns with rollback | failure
    · rw [show m.after.coordinator.operation.stage = some s from stays.running.stage] at rollback
      simp [forward] at rollback
    · rw [show m.report.effect = .idle from stays.effect] at failure
      simp [Effect.verdicts] at failure
  · refine ⟨leaves, ?_⟩
    by_contra succeeded
    have favours : s.favours ((m.docket.absorb m.input).result s) = true := by
      rw [Stage.favours_eq_of_precedes precedes]
      simpa using succeeded
    rcases turns with rollback | failure
    · rcases leaves.lands busy with ⟨t, next, -, -, busyNext⟩ | ⟨-, rests, -⟩
      · rw [show m.after.coordinator.operation.stage = some t from busyNext.stage] at rollback
        rcases Stage.next_of_favours precedes favours with ⟨-, onward⟩ | ⟨-, onward⟩
        · rw [← Transition.enter.inj (onward.symm.trans next)] at rollback
          simp [Stage.isRollback] at rollback
        · rw [← Transition.enter.inj (onward.symm.trans next)] at rollback
          simp [Stage.isRollback] at rollback
      · rw [show m.after.coordinator.operation = {} from rests] at rollback
        simp at rollback
    · rcases leaves.lands busy with ⟨t, -, -, effect, -⟩ | ⟨⟨verdict, effect⟩, -, -⟩
      · rw [show m.report.effect = _ from effect] at failure
        simp [Effect.verdicts] at failure
      · rw [show m.report.effect = _ from effect] at failure
        have success : verdict.conclusion = .success :=
          (Coordinator.success_of_proceed (leaves.effect ▸ effect)).mpr favours
        simp [Effect.verdicts, success, Conclusion.isSuccess] at failure

end Docket

/-- **The cause of an abort reaches the client.** If a commit is turned into a rollback by the end of
stage `s`, and is not interrupted, then whatever happens in the rollback and its cleanup, the
operation concludes with a failure as soon as everybody it asks has been heard of, and the message is
the first text that the cohort of `s` counted or, if it counted none, that of the departure recorded
first. On an open session that message is what the client is sent. -/
theorem abort_tells_first_cause {c begun : Coordinator} {first s : Stage} {effect : Effect}
    {d : Docket} {inputs : List Input} {m : Moment} (h : c.begin first = (begun, .ok effect))
    (start : d = Docket.ofBegun begun effect) (inRun : m ∈ d.moments inputs)
    (stage : m.stage = some s) (abandons : m.abandons = true) (quiet : ¬ d.Interrupted inputs) :
    ∃ cause, d.firstCause s inputs = some cause ∧
      ((∃ packet, d.verdicts inputs = [⟨.failure cause, packet, false⟩]) ∨
        d.verdicts inputs = [] ∧ d.Awaits inputs) ∧
      (c.session.isClosed = false → (∀ i ∈ inputs, i.closes = false) →
        d.verdicts inputs ≠ [] → (d.run inputs).untold = [] →
        d.packets inputs = [Coordinator.errorPacket (c.session.packetId + 1) cause]) := by
  subst start
  rcases Docket.fresh_or_atRest h with ⟨ids, fresh⟩ | rests
  case inr =>
    rw [Docket.stage_of_atRest rests inRun] at stage
    exact absurd stage (by simp)
  obtain ⟨numbered, sameClosed⟩ := Coordinator.session_begin h
  -- the step that gives the commit up ends a stay of stage `s`
  have running := Docket.running_of_mem fresh.busy inRun stage
  obtain ⟨precedes, ends, failed⟩ := Docket.leaves_of_abandons running abandons
  obtain ⟨xs, ys, zs, asked, rfl, there, stay⟩ :=
    Docket.exists_stay fresh.busy fresh.opened inRun stage ends
  rw [there] at failed
  have uninterrupted := stay.uninterrupted fresh.busy fresh.uninterrupted quiet
  obtain ⟨cause, handed⟩ := stay.exists_cause precedes uninterrupted failed
  have first := stay.error_eq_firstCause zs fresh.busy fresh.undeparted precedes uninterrupted failed
  have concludes : ∀ verdict ∈ (Docket.ofBegun begun effect).verdicts (xs ++ (ys ++ m.input :: zs)),
      verdict.conclusion = .failure cause :=
    fun verdict => stay.conclusion_of_failed fresh.busy precedes failed handed
  refine ⟨cause, first.symm.trans handed, ?_, ?_⟩
  · rcases Docket.concludes_or_awaits fresh.busy fresh.nodup_owing (xs ++ (ys ++ m.input :: zs)) with
      ⟨verdict, one⟩ | awaits
    · have reached : verdict ∈ (Docket.ofBegun begun effect).verdicts _ :=
        one ▸ List.mem_singleton_self verdict
      have loud := Docket.loud_of_running fresh.busy fresh.uninterrupted quiet reached
      obtain ⟨conclusion, packet, interrupted⟩ := verdict
      obtain rfl : conclusion = .failure cause := concludes _ reached
      obtain rfl : interrupted = false := loud
      exact .inl ⟨packet, one⟩
    · exact .inr awaits
  · intro reachable stays concluded told
    obtain ⟨verdict, reached⟩ := List.exists_mem_of_ne_nil _ concluded
    rw [Docket.packets_of_running fresh.busy fresh.uninterrupted fresh.untold quiet
      (sameClosed.trans reachable) stays reached told]
    show [Coordinator.verdictPacket (begun.session.packetId + 1) verdict] = _
    rw [numbered, Coordinator.verdictPacket, concludes verdict reached]

namespace Sample

/-- The first shard cannot prepare its branch, and the second is lost in the cleanup. -/
def aborted : List Input :=
  [ok shardA, ok shardB, .event (.error shardA.id (some 1213) "deadlock"), ok shardB, ok shardA,
    .event (.error shardB.id (some 1205) "busy"), .event (.closed shardB "gone"), .tell]

end Sample

open Sample in
/-- The case of two shards, of which the first cannot prepare and the second is lost in the
cleanup. -/
theorem abort_of_two_tells_first_cause :
    (coordinator true).beginCommit = (started.1, .ok started.2) ∧
      outset.firstCause .prepare aborted = some "deadlock" ∧
      outset.packets aborted = [Coordinator.errorPacket 1 "deadlock"] := by
  have last : (⟨outset.run (aborted.take 3), ok shardB⟩ : Moment) ∈ outset.moments aborted := by
    decide +kernel
  obtain ⟨cause, first, -, told⟩ :=
    abort_tells_first_cause begins (d := outset) rfl last
      (show _ = some Stage.prepare by decide +kernel) (by decide +kernel) (by decide +kernel)
  have deadlock : outset.firstCause .prepare aborted = some "deadlock" := by
    decide +kernel
  obtain rfl : cause = "deadlock" := Option.some.inj (first.symm.trans deadlock)
  exact ⟨begins, deadlock, told rfl (by decide +kernel) (by decide +kernel) (by decide +kernel)⟩

end AtomicCommit
