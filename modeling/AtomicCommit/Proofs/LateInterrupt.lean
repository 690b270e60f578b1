import AtomicCommit.Proofs.ArrivalOrder
import AtomicCommit.Proofs.Outsider

/-!
# Interrupts after the decision

Before the decision an interrupt turns a commit into a rollback. After it an interrupt is between
the session and its client alone. `Docket.muted` is a docket without what only the client sees: the
sequence id of its packets, and why and whether it was told that the operation is off.

* **interrupt** — `muted_step_interrupt`: an interrupt leaves the muted docket alone.
* **step** — `muted_step`: once the decision is made, what a step does to the muted docket can be
  told from the muted docket.
* **two runs** — `sameWork_of_muted`, by induction on the inputs.
-/

namespace AtomicCommit

open Wire

/-! ## Muting -/

def Verdict.muted (v : Verdict) : Verdict :=
  { v with interrupted := false }

def Effect.muted : Effect → Effect
  | .conclude verdict => .conclude verdict.muted
  | effect => effect

def Session.muted (s : Session) : Session :=
  { s with packetId := 0, interruptReason := none }

def Operation.muted (o : Operation) : Operation :=
  { o with interrupted := none }

def Coordinator.muted (c : Coordinator) : Coordinator :=
  ⟨c.session.muted, c.operation.muted⟩

/-- The docket without what only the client sees. -/
def Docket.muted (d : Docket) : Docket :=
  ⟨d.coordinator.muted, d.untold.map Verdict.muted⟩

theorem Effect.verdicts_muted (effect : Effect) :
    effect.muted.verdicts = effect.verdicts.map Verdict.muted := by
  cases effect <;> rfl

theorem Effect.muted_eq_idle_iff (effect : Effect) : effect.muted = .idle ↔ effect = .idle := by
  cases effect <;> simp [muted]

theorem Effect.commands_muted (effect : Effect) : effect.muted.commands = effect.commands := by
  cases effect <;> rfl

theorem Docket.muted_file (d : Docket) (out : Coordinator × Effect) :
    (d.file out).muted = d.muted.file (out.1.muted, out.2.muted) := by
  simp only [file, muted, List.map_append, Effect.verdicts_muted]

/-! ## The decision -/

/-- Once the decision is made, it stays so. -/
theorem Stage.decided_of_next {s t : Stage} {o : Outcome} (decided : s.precedesDecision = false)
    (h : s.next o = .enter t) : t.precedesDecision = false := by
  rw [Bool.eq_false_iff]
  intro precedes
  rw [(favours_of_precedes h precedes).1] at decided
  exact Bool.noConfusion decided

namespace Coordinator

variable {c : Coordinator} {s : Stage}

theorem Running.deciding_eq (busy : c.Running s) : c.deciding = s.precedesDecision := by
  unfold deciding
  rw [busy.stage]
  rfl

theorem Running.decided (busy : c.Running s) (decided : c.deciding = false) :
    s.precedesDecision = false :=
  busy.deciding_eq.symm.trans decided

theorem AtRest.deciding_eq (rest : c.AtRest) : c.deciding = false := by
  unfold deciding
  rw [show c.operation = {} from rest]
  rfl

theorem Running.muted (busy : c.Running s) : c.muted.Running s :=
  ⟨busy.stage, busy.waiting, busy.fits⟩

/-! ## Steps of a muted coordinator -/

theorem entryOf_muted (c : Coordinator) (e : Event) : c.muted.entryOf e = c.entryOf e := by
  cases e with
  | connectError id fault => cases id <;> rfl
  | ok | error | closed => rfl

theorem pass_muted (c : Coordinator) (e : Event) : c.muted.pass e = (c.pass e).muted := by
  cases e <;> rfl

theorem booked_muted (c : Coordinator) (e : Event) (entry : Cohort.Entry) :
    c.muted.booked e entry = (c.booked e entry).muted := by
  cases e <;> rfl

theorem result_muted (decided : s.precedesDecision = false) (c : Coordinator) :
    c.muted.result s = c.result s := by
  rw [result_of_not_precedes decided, result_of_not_precedes decided]
  rfl

theorem follow_muted (c : Coordinator) (t : Transition) (packet : Option Bytes) :
    (c.muted.follow t packet).1.muted = (c.follow t packet).1.muted ∧
      (c.muted.follow t packet).2.muted = (c.follow t packet).2.muted := by
  cases t with
  | conclude conclusion => exact ⟨rfl, rfl⟩
  | enter t =>
    by_cases nobody : t.targets c.session.participantIds = []
    · rw [follow_of_nobody nobody, follow_of_nobody (c := c.muted) nobody]
      exact ⟨rfl, rfl⟩
    · rw [follow_of_somebody nobody, follow_of_somebody (c := c.muted) nobody]
      exact ⟨rfl, rfl⟩

theorem proceed_muted (decided : s.precedesDecision = false) (c : Coordinator) :
    (c.muted.proceed s).1.muted = (c.proceed s).1.muted ∧
      (c.muted.proceed s).2.muted = (c.proceed s).2.muted := by
  unfold proceed
  rw [result_muted decided]
  exact follow_muted c.settled _ _

theorem handle_muted (busy : c.Running s) (decided : s.precedesDecision = false) (e : Event) :
    (c.muted.handle e).1.muted = (c.handle e).1.muted ∧
      (c.muted.handle e).2.muted = (c.handle e).2.muted := by
  cases entered : c.entryOf e with
  | none =>
    rw [handle_of_uncounted entered, handle_of_uncounted ((entryOf_muted c e).trans entered)]
    rw [pass_muted]
    exact ⟨rfl, rfl⟩
  | some entry =>
    have enteredMuted := (entryOf_muted c e).trans entered
    by_cases owed : (c.operation.cohort.book entry).unreachable <
        (c.operation.cohort.book entry).pending.length
    · rw [handle_of_owed entered owed, handle_of_owed enteredMuted owed, booked_muted]
      exact ⟨rfl, rfl⟩
    · have closes := Nat.le_of_not_lt owed
      rw [handle_of_closes busy entered closes, handle_of_closes busy.muted enteredMuted closes,
        booked_muted]
      exact proceed_muted decided _

theorem muted_conclude (c : Coordinator) (v : Verdict) :
    (c.conclude v).1.muted =
      ⟨c.session.clearTransaction.muted, c.operation.muted⟩ := by
  unfold conclude
  dsimp only
  split <;> rfl

end Coordinator

namespace Docket

variable {d d' : Docket} {s : Stage} {inputs : List Input}

/-- **Interrupt.** An interrupt, accepted or refused, is between the session and its client. -/
theorem muted_step_interrupt (d : Docket) (reason : String) :
    (d.step (.interrupt reason)).1.muted = d.muted ∧
      (d.step (.interrupt reason)).2.effect = .idle := by
  simp only [step, Coordinator.interrupt]
  split
  · rename_i accepted
    repeat' split at accepted
    all_goals cases accepted
    all_goals exact ⟨rfl, rfl⟩
  · exact ⟨rfl, rfl⟩

theorem absorb_muted (d : Docket) (e : Event) :
    d.muted.absorb (.event e) = (d.absorb (.event e)).muted := by
  have entered : d.muted.coordinator.entryOf e = d.coordinator.entryOf e :=
    Coordinator.entryOf_muted d.coordinator e
  dsimp only [absorb]
  rw [entered]
  cases d.coordinator.entryOf e with
  | none => exact Coordinator.pass_muted d.coordinator e
  | some entry => exact Coordinator.booked_muted d.coordinator e entry

theorem effect_step_tell (d : Docket) : (d.step .tell).2.effect = .idle := by
  simp only [step]
  split <;> rfl

theorem muted_muted (d : Docket) : d.muted.muted = d.muted := by
  simp only [muted, List.map_map]
  rfl

/-- **Step.** Once the decision is made, a step does the same to a docket and to what is left of it
without what the client sees. -/
theorem muted_step (settled : d.coordinator.Settled) (decided : d.coordinator.deciding = false)
    (i : Input) :
    (d.muted.step i).1.muted = (d.step i).1.muted ∧
      (d.muted.step i).2.effect.muted = (d.step i).2.effect.muted := by
  cases i with
  | event e =>
    have handled : (d.coordinator.muted.handle e).1.muted = (d.coordinator.handle e).1.muted ∧
        (d.coordinator.muted.handle e).2.muted = (d.coordinator.handle e).2.muted := by
      -- a decided stage does not look at the interrupt, and at rest there is none
      rcases settled with ⟨s, busy⟩ | rest
      · exact Coordinator.handle_muted busy (busy.decided decided) e
      · have restMuted : d.coordinator.muted.AtRest := congrArg Operation.muted rest
        rw [Coordinator.handle_of_atRest rest, Coordinator.handle_of_atRest restMuted]
        exact ⟨by cases e <;> rfl, rfl⟩
    refine ⟨?_, handled.2⟩
    show (d.muted.file (d.coordinator.muted.handle e)).muted =
      (d.file (d.coordinator.handle e)).muted
    rw [muted_file, muted_file, muted_muted, handled.1, handled.2]
  | interrupt reason =>
    obtain ⟨same, quiet⟩ := muted_step_interrupt d reason
    obtain ⟨sameMuted, quietMuted⟩ := muted_step_interrupt d.muted reason
    rw [same, quiet, sameMuted, quietMuted]
    exact ⟨muted_muted d, rfl⟩
  | tell =>
    obtain ⟨c, untold⟩ := d
    cases untold with
    | nil => exact ⟨muted_muted _, rfl⟩
    | cons v rest =>
      refine ⟨?_, rfl⟩
      have told : (c.muted.conclude v.muted).1.muted = (c.conclude v).1.muted := by
        rw [Coordinator.muted_conclude, Coordinator.muted_conclude]
        rfl
      have left := congrArg Docket.untold (muted_muted ⟨c, rest⟩)
      show Docket.mk (c.muted.conclude v.muted).1.muted
          ((rest.map Verdict.muted).map Verdict.muted) =
        ⟨(c.conclude v).1.muted, rest.map Verdict.muted⟩
      rw [Docket.mk.injEq]
      exact ⟨told, left⟩
  | closeSession | clientClosed =>
    refine ⟨?_, rfl⟩
    simp only [step, onSession, muted, List.map_map]
    rfl

/-- Once the decision is made, it stays so. -/
theorem deciding_step (settled : d.coordinator.Settled) (decided : d.coordinator.deciding = false)
    (i : Input) : (d.step i).1.coordinator.deciding = false := by
  rcases settled with ⟨s, busy⟩ | rest
  · rcases step_lands busy i with ⟨-, stays⟩ | ⟨t, next, -, -, nextBusy⟩ | ⟨-, rests⟩
    · rw [stays.deciding_eq, busy.decided decided]
    · rw [nextBusy.deciding_eq, Stage.decided_of_next (busy.decided decided) next]
    · exact rests.deciding_eq
  · exact (step_of_atRest rest i).2.deciding_eq

end Docket

/-- The stages that a step enters can be told without what the client sees. -/
theorem Moment.entered_muted {d : Docket} (settled : d.coordinator.Settled)
    (decided : d.coordinator.deciding = false) (i : Input) :
    Moment.entered ⟨d.muted, i⟩ = Moment.entered ⟨d, i⟩ := by
  have effects := (Docket.muted_step settled decided i).2
  have quietly : (d.muted.step i).2.effect = .idle ↔ (d.step i).2.effect = .idle := by
    rw [← Effect.muted_eq_idle_iff, effects, Effect.muted_eq_idle_iff]
  unfold Moment.entered Moment.report Moment.stage
  dsimp only
  by_cases quiet : (d.step i).2.effect = .idle
  · rw [if_pos quiet, if_pos (quietly.mpr quiet)]
  · rw [if_neg quiet, if_neg (fun quietMuted => quiet (quietly.mp quietMuted))]
    rcases settled with ⟨s, busy⟩ | rest
    · -- only an event moves the operation on
      have absorbed : d.muted.absorb i = (d.absorb i).muted := by
        cases i with
        | event e => exact Docket.absorb_muted d e
        | interrupt reason => exact absurd (Docket.muted_step_interrupt d reason).2 quiet
        | tell => exact absurd (Docket.effect_step_tell d) quiet
        | closeSession | clientClosed => exact absurd rfl quiet
      have stage : d.muted.coordinator.operation.stage = some s := busy.stage
      rw [absorbed, stage, busy.stage, Option.map_some, Option.map_some,
        Coordinator.result_muted (busy.decided decided)]
      rfl
    · exact absurd (Docket.step_of_atRest rest i).1 quiet

/-! ## Two runs -/

namespace Docket

/-- Two dockets do the same work on these inputs: each input leads them into the same stages and
leaves the same to be done, and they end the same but for what the client sees. -/
structure SameWork (d d' : Docket) (inputs : List Input) : Prop where
  entered : (d'.moments inputs).map Moment.entered = (d.moments inputs).map Moment.entered
  effects : (d'.moments inputs).map (·.report.effect.muted) =
    (d.moments inputs).map (·.report.effect.muted)
  muted : (d'.run inputs).muted = (d.run inputs).muted

variable {d d' : Docket}

theorem deciding_muted (d : Docket) : d.muted.coordinator.deciding = d.coordinator.deciding := rfl

/-- **Two runs.** Past the decision, dockets that are the same but for what the client sees do the
same work on the same inputs. -/
theorem sameWork_of_muted (settled : d.coordinator.Settled) (settled' : d'.coordinator.Settled)
    (decided : d.coordinator.deciding = false) (same : d'.muted = d.muted) (inputs : List Input) :
    d.SameWork d' inputs := by
  induction inputs generalizing d d' with
  | nil => exact ⟨rfl, rfl, same⟩
  | cons i rest ih =>
    have decided' : d'.coordinator.deciding = false := by
      rw [← deciding_muted, same, deciding_muted, decided]
    obtain ⟨after, effect⟩ := muted_step settled decided i
    obtain ⟨after', effect'⟩ := muted_step settled' decided' i
    rw [same] at after' effect'
    have later := ih (settled_step settled i) (settled_step settled' i)
      (deciding_step settled decided i) (after'.symm.trans after)
    have entered : Moment.entered ⟨d', i⟩ = Moment.entered ⟨d, i⟩ := by
      rw [← Moment.entered_muted settled' decided', same, Moment.entered_muted settled decided]
    refine ⟨?_, ?_, later.muted⟩
    · exact List.cons_eq_cons.mpr ⟨entered, later.entered⟩
    · exact List.cons_eq_cons.mpr ⟨effect'.symm.trans effect, later.effects⟩

/-- Who does the same work sends the same commands to the same participants. -/
theorem SameWork.sent {inputs : List Input} (same : d.SameWork d' inputs) :
    d'.sent inputs = d.sent inputs := by
  have commands := congrArg (List.flatMap Effect.commands) same.effects
  simpa [Docket.sent, List.flatMap_map, Effect.commands_muted] using commands

end Docket

/-- **Interrupts after the decision.** Take any life of a session that leaves a stage in flight
which does not precede the decision. An interrupt then sends nothing, and whatever happens
afterwards, with the interrupt and without it: every input leads into the same stages, sends the
same commands to the same participants and reaches the same conclusion, and after every input the
sessions are the same, with the same participants, savepoints, XA and discard flags, but for the
sequence id of the client's packets and the recorded interrupt. So they release the transaction at
the same input, and only the packet to the client and whether its next statement follows can
differ. -/
theorem interrupt_inert_of_decided {id : UInt64} {issuer : String} {history : List Act} {d : Docket}
    (past : d = (Docket.born id issuer).live history) {s : Stage}
    (inFlight : d.coordinator.operation.stage = some s) (decided : s.precedesDecision = false)
    (reason : String) :
    (d.step (.interrupt reason)).2.effect = .idle ∧
      ∀ inputs, d.SameWork (d.step (.interrupt reason)).1 inputs ∧
        (d.step (.interrupt reason)).1.sent inputs = d.sent inputs := by
  have settled : d.coordinator.Settled := past ▸ Docket.settled_live (Docket.settled_born ..) _
  obtain ⟨same, quiet⟩ := Docket.muted_step_interrupt d reason
  refine ⟨quiet, ?_⟩
  intro inputs
  have made : d.coordinator.deciding = false := by
    unfold Coordinator.deciding
    rw [inFlight]
    exact decided
  have work := Docket.sameWork_of_muted settled (Docket.settled_step settled (.interrupt reason))
    made same inputs
  exact ⟨work, work.sent⟩

namespace Sample

/-- Two prepared shards that are told to commit. -/
def committing : Docket :=
  (Docket.born 7 "x").live
    ([.attach shardA, .attach shardB, .setXa true, .commit] ++ votes.map .input)

/-- Both shards commit, and the client is told. -/
def settling : List Input := [ok shardA, ok shardB, .tell]

end Sample

open Sample in
/-- The case of a commit that is interrupted when its decision is on the way: the client is told of
the interrupt at once and of nothing later, and the participants are released all the same. -/
theorem interrupt_inert_of_committing :
    committing.coordinator.operation.stage = some .commitAll ∧
      (committing.step (.interrupt "late")).2.packet.isSome = true ∧
      committing.SameWork (committing.step (.interrupt "late")).1 settling ∧
      (committing.run settling).coordinator.session.participants = [] := by
  have inert := interrupt_inert_of_decided (show committing = (Docket.born 7 "x").live _ from rfl)
    (show committing.coordinator.operation.stage = some .commitAll by decide +kernel) rfl "late"
  exact ⟨by decide +kernel, by decide +kernel, (inert.2 settling).1, by decide +kernel⟩

end AtomicCommit
