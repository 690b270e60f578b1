import AtomicCommit.Proofs.ArrivalOrder
import AtomicCommit.Proofs.Identity
import AtomicCommit.Proofs.Roster

/-!
# The discard flag over a session's life

A session is marked as discarding when its coordinator enters a stage that undoes work, also one
with nobody to ask that it falls through. The mark is made in the same step, so it is there when the
commands of the stage are still to be sent. Only an attachment that finds nobody bound takes it back;
a release does not, nor does a participant that leaves.

* **descent** — `Coordinator.discarding_follow`: a transition marks the session iff one of the stages
  that it enters undoes work.
* **act** — `Docket.discarding_act`; **life** — `Docket.discarding_live`.
* **commands** — `Docket.entered_of_commands`: commands left to be sent are those of the stage that
  was entered just now.
-/

namespace AtomicCommit

open Wire

/-! ## Stages entered -/

/-- The stages that an act makes the coordinator enter, those with nobody to ask included. -/
def Scene.entered (m : Scene) : List Stage :=
  match m.act with
  | .input i => Moment.entered ⟨m.docket, i⟩
  | a => ((m.docket.opening? a).map fun s => s.descent m.docket.ids).getD []

namespace Stage

theorem descent_of_somebody {s : Stage} {ids : List ParticipantId} (somebody : s.targets ids ≠ []) :
    s.descent ids = [s] := by
  rw [descent, if_neg somebody]

/-- A stage with nobody to ask undoes work, or is followed by one that does, iff it abandons. -/
theorem any_descent (s : Stage) (ids : List ParticipantId) :
    (s.descent ids).any isRollback = if s.targets ids = [] then s.abandons else s.marksDiscard := by
  by_cases nobody : s.targets ids = []
  · rw [descent, if_pos nobody, if_pos nobody, List.any_cons]
    split
    · rename_i t next
      obtain ⟨-, marks⟩ := next_of_nobody next
      rw [← marks, any_descent t ids, if_pos (targets_nil_of_next next nobody)]
      rfl
    · rename_i next
      rw [← (conclusion_of_nobody next).2, List.any_nil, Bool.or_false]
      rfl
  · rw [descent_of_somebody nobody, if_neg nobody, List.any_cons, List.any_nil, Bool.or_false]
    rfl
  termination_by s.rank
  decreasing_by exact Stage.rank_lt_of_next ‹s.next _ = .enter _›

end Stage

namespace Coordinator

/-- **Descent.** A transition marks the session iff one of the stages that it enters undoes work. -/
theorem discarding_follow (c : Coordinator) (t : Transition) (packet : Option Bytes) :
    (c.follow t packet).1.session.discarding =
      (c.session.discarding || (t.stages c.session.participantIds).any Stage.isRollback) := by
  cases t with
  | conclude conclusion => exact (Bool.or_false _).symm
  | enter s =>
    show _ = (c.session.discarding || (s.descent c.session.participantIds).any Stage.isRollback)
    rw [Stage.any_descent]
    by_cases nobody : s.targets c.session.participantIds = []
    · rw [follow_of_nobody nobody, if_pos nobody]
      rfl
    · rw [follow_of_somebody nobody, if_neg nobody]
      rfl

theorem discarding_fresh (c : Coordinator) (s : Stage) :
    (c.fresh s).session.discarding = c.session.discarding := by
  unfold fresh
  split <;> rfl

end Coordinator

namespace Docket

variable {d : Docket} {a : Act} {acts : List Act}

def discarding (d : Docket) : Bool :=
  d.coordinator.session.discarding

/-- To take an input in does not touch the flag. -/
theorem discarding_absorb (d : Docket) (i : Input) :
    (d.absorb i).session.discarding = d.discarding := by
  cases i with
  | event e =>
    rw [session_absorb_event]
    cases e <;> rfl
  | interrupt reason =>
    simp only [absorb, step, Coordinator.interrupt]
    split
    · rename_i accepted
      repeat' split at accepted
      all_goals cases accepted
      all_goals rfl
    · rfl
  | tell =>
    simp only [absorb, step]
    split
    · rfl
    · simp only [Coordinator.conclude]
      split <;> rfl
  | closeSession | clientClosed => rfl

theorem session_step_of_atRest (rest : d.coordinator.AtRest) (i : Input) :
    (d.step i).1.coordinator.session = (d.absorb i).session := by
  cases i with
  | event e =>
    rw [session_absorb_event]
    exact congrArg (·.1.session) (Coordinator.handle_of_atRest rest e)
  | _ => rfl

/-- An input that closes the cohort makes the coordinator enter what its stage leads to. -/
theorem entered_of_leaves {s : Stage} {i : Input} (busy : d.coordinator.Running s)
    (leaves : d.Leaves s i) : Moment.entered ⟨d, i⟩ =
      (s.next ((d.absorb i).result s)).stages (d.absorb i).session.participantIds := by
  have moves : (d.step i).2.effect ≠ .idle := by
    rw [leaves.effect]
    exact Coordinator.follow_ne_idle _ _ _
  show (if (d.step i).2.effect = .idle then _ else
    (d.coordinator.operation.stage.map _).getD []) = _
  rw [if_neg moves, busy.stage]
  rfl

theorem discarding_step (settled : d.coordinator.Settled) (i : Input) :
    (d.step i).1.discarding =
      (d.discarding || (Moment.entered ⟨d, i⟩).any Stage.isRollback) := by
  have idle : (d.step i).2.effect = .idle → Moment.entered ⟨d, i⟩ = [] := fun quiet => if_pos quiet
  unfold discarding
  rcases settled with ⟨s, busy⟩ | rest
  · rcases step_turn busy i with stays | leaves
    · rw [idle stays.effect, stays.after, discarding_absorb]
      exact (Bool.or_false _).symm
    · rw [entered_of_leaves busy leaves, leaves.after, Coordinator.proceed,
        Coordinator.discarding_follow]
      exact congrArg (· || _) (discarding_absorb d i)
  · rw [idle (step_of_atRest rest i).1, session_step_of_atRest rest i, discarding_absorb]
    exact (Bool.or_false _).symm

/-! ## Acts -/

/-- Whether an act is an attachment that finds nobody bound. -/
def renews (d : Docket) : Act → Bool
  | .attach _ => d.ids.isEmpty
  | _ => false

theorem discarding_attach (s : Session) (link : Link) :
    (s.attach link).discarding = (!s.participants.isEmpty && s.discarding) := by
  unfold Session.attach
  cases s.participants.isEmpty with
  | true =>
    simp only [if_true]
    split <;> rfl
  | false =>
    simp only [Bool.false_eq_true, if_false]
    split <;> rfl

section Begins

variable {s : Stage} (asked : a.asked? d.coordinator.session = some s)

include asked

/-- A call that begins an operation at a stage enters it and what follows those with nobody to ask.
While one is in flight, it enters none. -/
theorem entered_of_asked : (Scene.mk d a).entered =
    if d.coordinator.operation.stage.isSome then [] else s.descent d.ids := by
  have entered : (Scene.mk d a).entered =
      ((d.opening? a).map fun s => s.descent d.ids).getD [] := by
    cases a with
    | input i => exact absurd asked (by simp [Act.asked?])
    | _ => rfl
  rw [entered, opening?, asked, Coordinator.inFlight]
  split <;> rfl

theorem discarding_begin : (d.begun (d.coordinator.begin s)).discarding =
    (d.discarding || (Scene.mk d a).entered.any Stage.isRollback) := by
  rw [entered_of_asked asked]
  cases stage : d.coordinator.operation.stage with
  | some current =>
    rw [Coordinator.begin_of_inFlight stage]
    exact (Bool.or_false _).symm
  | none =>
    rw [Coordinator.begin_eq_follow stage]
    show ((d.coordinator.fresh s).follow (.enter s) none).1.session.discarding = _
    rw [Coordinator.discarding_follow, Coordinator.discarding_fresh, Session.participantIds,
      Coordinator.participants_fresh]
    rfl

theorem entered_of_begin {p : Link × Command}
    (sent : p ∈ (begunEffect (d.coordinator.begin s).2).commands) :
    (Scene.mk d a).entered = [s] ∧
      (d.begun (d.coordinator.begin s)).coordinator.operation.stage = some s ∧
      p.2.kind = s.command := by
  rw [entered_of_asked asked]
  cases stage : d.coordinator.operation.stage with
  | some current =>
    rw [Coordinator.begin_of_inFlight stage] at sent
    exact absurd sent List.not_mem_nil
  | none =>
    rw [Coordinator.begin_eq_follow stage] at sent ⊢
    have same : (d.coordinator.fresh s).session.participantIds = d.ids := by
      rw [Session.participantIds, Coordinator.participants_fresh]
      rfl
    by_cases nobody : s.targets (d.coordinator.fresh s).session.participantIds = []
    · rw [Coordinator.follow_of_nobody nobody] at sent
      exact absurd sent List.not_mem_nil
    · rw [Coordinator.follow_of_somebody nobody] at sent ⊢
      exact ⟨Stage.descent_of_somebody (same ▸ nobody), rfl, kind_of_mem_orders sent⟩

end Begins

/-- **Act.** The flag is set by an act that enters a stage that undoes work, and taken back by one
that attaches a shard where nobody is bound. -/
theorem discarding_act (settled : d.coordinator.Settled) (unmarked : a ≠ .markDiscarding) :
    (d.act a).discarding =
      (!d.renews a && d.discarding || (Scene.mk d a).entered.any Stage.isRollback) := by
  -- what neither begins an operation nor is an input enters nothing
  have spares : d.opening? a = none → (∀ i, a ≠ .input i) → (Scene.mk d a).entered = [] := by
    intro unopened other
    cases a with
    | input i => exact absurd rfl (other i)
    | _ => simp only [Scene.entered, unopened, Option.map_none, Option.getD_none]
  have unasked : a.asked? d.coordinator.session = none → d.opening? a = none := by
    intro asked
    unfold opening?
    rw [asked, ite_self]
  cases a with
  | input i => exact discarding_step settled i
  | begin s => exact discarding_begin (a := .begin s) rfl
  | commit => exact discarding_begin (a := .commit) rfl
  | rollback => exact discarding_begin (a := .rollback) rfl
  | attach link =>
    have empty : d.ids.isEmpty = d.coordinator.session.participants.isEmpty := List.isEmpty_map
    rw [spares (unasked rfl) (by simp), List.any_nil, Bool.or_false]
    show (d.coordinator.session.attach link).discarding = (!d.ids.isEmpty && d.discarding)
    rw [discarding_attach, empty]
    rfl
  | markDiscarding => exact absurd rfl unmarked
  | _ =>
    rw [spares (unasked rfl) (by simp)]
    exact (Bool.or_false _).symm

/-- **Commands.** Commands left to be sent are those of the one stage that was entered just now. -/
theorem entered_of_commands (settled : d.coordinator.Settled) {p : Link × Command}
    (sent : p ∈ (d.report a).effect.commands) :
    ∃ s, (Scene.mk d a).entered = [s] ∧ (d.act a).coordinator.operation.stage = some s ∧
      p.2.kind = s.command := by
  cases a with
  | begin s => exact ⟨s, entered_of_begin (a := .begin s) rfl sent⟩
  | commit => exact ⟨_, entered_of_begin (a := .commit) rfl sent⟩
  | rollback => exact ⟨_, entered_of_begin (a := .rollback) rfl sent⟩
  | input i =>
    have sends : p ∈ (d.step i).2.effect.commands := sent
    rcases settled with ⟨s, busy⟩ | rest
    · rcases step_turn busy i with stays | leaves
      · rw [stays.effect] at sends
        exact absurd sends List.not_mem_nil
      · have entered := entered_of_leaves busy leaves
        rcases leaves.lands busy with ⟨t, next, after, effect, -⟩ | ⟨⟨verdict, effect⟩, -⟩
        · by_cases nobody : t.targets (d.absorb i).session.participantIds = []
          · rw [leaves.effect, Coordinator.proceed_of_nobody next nobody] at sends
            exact absurd sends List.not_mem_nil
          · rw [effect] at sends
            refine ⟨t, ?_, ?_, kind_of_mem_orders sends⟩
            · rw [next] at entered
              exact entered.trans (Stage.descent_of_somebody nobody)
            · exact congrArg (·.operation.stage) after
        · rw [effect] at sends
          exact absurd sends List.not_mem_nil
    · rw [(step_of_atRest rest i).1] at sends
      exact absurd sends List.not_mem_nil
  | _ => exact absurd sent List.not_mem_nil

/-- **Life.** The flag is set iff it was set before and no attachment found nobody bound, or a stage
that undoes work was entered and no attachment has found nobody bound since. -/
theorem discarding_live (settled : d.coordinator.Settled)
    (unmarked : ∀ a ∈ acts, a ≠ .markDiscarding) :
    (d.live acts).discarding = true ↔
      d.discarding = true ∧ (∀ m ∈ d.scenes acts, m.docket.renews m.act = false) ∨
        ∃ xs m ys, d.scenes acts = xs ++ m :: ys ∧ (∃ s ∈ m.entered, s.isRollback = true) ∧
          ∀ n ∈ ys, n.docket.renews n.act = false := by
  -- on the acts: the flag was set by the first of them and kept since, or by a later one
  induction acts generalizing d with
  | nil => simp [live, scenes]
  | cons a rest ih =>
    rw [List.forall_mem_cons] at unmarked
    rw [live, ih (settled_act settled a) unmarked.2, discarding_act settled unmarked.1]
    simp only [Bool.or_eq_true, Bool.and_eq_true, Bool.not_eq_true', List.any_eq_true, scenes,
      List.forall_mem_cons]
    constructor
    · rintro (⟨⟨kept, set⟩ | enters, since⟩ | ⟨xs, m, ys, split, enters, since⟩)
      · exact .inl ⟨set, kept, since⟩
      · exact .inr ⟨[], ⟨d, a⟩, _, rfl, enters, since⟩
      · exact .inr ⟨⟨d, a⟩ :: xs, m, ys, congrArg (_ :: ·) split, enters, since⟩
    · rintro (⟨set, kept, since⟩ | ⟨xs, m, ys, split, enters, since⟩)
      · exact .inl ⟨.inl ⟨kept, set⟩, since⟩
      · rcases List.cons_eq_append_iff.mp split with ⟨rfl, same⟩ | ⟨xs', rfl, later⟩
        · obtain ⟨rfl, rfl⟩ := List.cons.inj same
          exact .inl ⟨.inr enters, since⟩
        · exact .inr ⟨xs', m, ys, later, enters, since⟩

end Docket

/-- **Who is bound, and whether the session discards.** After any life of a session, no shard is bound
twice, the shards bound stand in the order in which they joined, and each is bound by the link that
was attached last of all its links. Unless the session is marked from outside, it discards iff a stage
that undoes work was entered, asking somebody or not, and no attachment has found nobody bound since.
The mark is made by the act that enters the stage, and whatever commands an act leaves to be sent are
those of the stage that it has entered. -/
theorem bound_in_order_and_discarding_iff {id : UInt64} {issuer : String} {acts : List Act}
    (unmarked : ∀ a ∈ acts, a ≠ .markDiscarding) :
    let born := Docket.born id issuer
    let d := born.live acts
    (d.ids.Nodup ∧ born.InOrder acts ∧ ∀ link ∈ d.links, ∃ xs ys,
        acts = xs ++ .attach link :: ys ∧ ∀ a ∈ ys, a.attached? ≠ some link.id) ∧
      (d.discarding = true ↔ ∃ xs m ys, born.scenes acts = xs ++ m :: ys ∧
        (∃ s ∈ m.entered, s.isRollback = true) ∧ ∀ n ∈ ys, n.docket.renews n.act = false) ∧
      ∀ m ∈ born.scenes acts,
        ((∃ s ∈ m.entered, s.isRollback = true) → m.after.discarding = true) ∧
        ∀ p ∈ m.report.effect.commands, ∃ s, m.entered = [s] ∧
          m.after.coordinator.operation.stage = some s ∧ p.2.kind = s.command := by
  intro born d
  have settled : born.coordinator.Settled := Docket.settled_born id issuer
  refine ⟨⟨?_, ?_, ?_⟩, ?_, ?_⟩
  · exact Docket.nodup_live settled List.nodup_nil acts
  · exact Docket.inOrder_live settled rfl acts
  · intro link bound
    exact Docket.latest_live settled rfl bound
  · rw [Docket.discarding_live settled unmarked]
    -- a new session is not discarding
    exact or_iff_right fun before => absurd before.1 Bool.false_ne_true
  · intro m inLife
    obtain ⟨xs, ys, split, found⟩ := Docket.exists_of_mem_scenes inLife
    have settledThen : m.docket.coordinator.Settled := found ▸ Docket.settled_live settled xs
    have unmarkedThen : m.act ≠ .markDiscarding := unmarked m.act (by rw [split]; simp)
    refine ⟨?_, fun p sent => Docket.entered_of_commands settledThen sent⟩
    intro enters
    show (m.docket.act m.act).discarding = true
    rw [Docket.discarding_act settledThen unmarkedThen, List.any_eq_true.mpr enters, Bool.or_true]

namespace Sample

/-- Two shards are bound, the first of them anew, and rolled back. -/
def regret : List Act :=
  [.attach shardA, .attach shardB, .attach heir, .rollback]

end Sample

open Sample in
/-- The case of a rollback of two shards. -/
theorem bound_in_order_and_discarding_of_regret :
    ((Docket.born 7 "x").live regret).links = [heir, shardB] ∧
      ((Docket.born 7 "x").live regret).ids.Nodup ∧
      ((Docket.born 7 "x").live regret).discarding = true := by
  obtain ⟨⟨distinct, -, -⟩, marked, -⟩ :=
    @bound_in_order_and_discarding_iff 7 "x" regret (by decide)
  refine ⟨by decide +kernel, distinct, marked.mpr ?_⟩
  refine ⟨(Docket.born 7 "x").scenes (regret.take 3),
    ⟨(Docket.born 7 "x").live (regret.take 3), .rollback⟩, [], rfl, ?_, by simp⟩
  refine ⟨.plainRollback, ?_, rfl⟩
  show Stage.plainRollback ∈ Stage.descent .plainRollback _
  rw [Stage.descent]
  exact List.mem_cons_self

end AtomicCommit
