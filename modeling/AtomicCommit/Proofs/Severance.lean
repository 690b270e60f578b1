import AtomicCommit.Proofs.Departure
import AtomicCommit.Proofs.Scene

/-!
# Closes in two halves

The close of a link is taken in by two sections: the first unbinds the participant, the second
counts the close or remembers the departure. `Docket.act_closed` says that the two in a row are the
close; between them other sections may run. A *section* is an input, or an unbinding that is the
first half of a close.

* **before** — `Docket.kind_of_commandsOf`: as long as `XA PREPARE` is still to be completed, no
  decision is sent.
* **bound** — `Docket.decision_sent`: in a commit that comes to success, the decision is sent to
  every participant that stays bound while the cohort of `XA PREPARE` is open.
* **run** — `prepared_is_told_iff`: a participant that has prepared is sent the decision iff no
  first half of a close of it runs in that time.
-/

namespace AtomicCommit

open Wire

/-- The sections of calls that may interleave while an operation runs. -/
def Act.isSection : Act → Bool
  | .input _ | .detach _ => true
  | _ => false

namespace Stage

theorem command_of_rank {s : Stage} (h : prepare.rank ≤ s.rank) :
    s.command ≠ .xaCommit ∧ s.command ≠ .xaRollback := by
  cases s with
  | start | prepare => simp [command]
  | commitAll | rollbackAll | cleanup | plainCommit | plainRollback => simp [rank] at h

/-- Before the decision, a stage that favours success is followed by the next of a commit. -/
theorem next_of_favours {s : Stage} {o : Outcome} (precedes : s.precedesDecision = true)
    (favours : s.favours o = true) :
    s = .start .commit ∧ s.next o = .enter .prepare ∨
      s = .prepare ∧ s.next o = .enter .commitAll := by
  have unfailed : o.failed = false := by
    simpa [favours_eq_of_precedes precedes] using favours
  cases s with
  | start intent =>
    cases intent with
    | commit => exact .inl ⟨rfl, by simp [next, unfailed]⟩
    | rollback => simp [precedesDecision] at precedes
  | prepare => exact .inr ⟨rfl, by simp [next, unfailed]⟩
  | commitAll | rollbackAll | cleanup | plainCommit | plainRollback =>
    simp [precedesDecision] at precedes

end Stage

namespace Docket

variable {d : Docket} {s : Stage} {a : Act} {acts : List Act}

/-! ## The two halves -/

/-- **Halves.** A close unbinds its participant and then does what a close of an unbound one
does. -/
theorem act_closed (distinct : d.ids.Nodup) (link : Link) (reason : String) :
    d.act (.closed link reason) = (d.act (.detach link.id)).act (.closed link reason) ∧
      d.report (.closed link reason) = (d.act (.detach link.id)).report (.closed link reason) := by
  have unbound : (d.coordinator.detach link.id).detach link.id = d.coordinator.detach link.id := by
    have absent : link.id ∉ (d.coordinator.detach link.id).session.participantIds :=
      absent_of_detach distinct link.id
    exact congrArg (Coordinator.mk · d.coordinator.operation) (Session.detach_of_absent absent)
  have same : (d.act (.detach link.id)).coordinator.handle (.closed link reason) =
      d.coordinator.handle (.closed link reason) := by
    show ((d.coordinator.detach link.id).detach link.id).countClosed _ _ = _
    rw [unbound]
    rfl
  constructor
  · show d.file _ = (d.act (.detach link.id)).file _
    rw [same]
    rfl
  · show ({ effect := _ } : Report) = { effect := _ }
    rw [same]

/-! ## Sections -/

theorem running_detach (busy : d.coordinator.Running s) (id : ParticipantId) :
    (d.act (.detach id)).coordinator.Running s :=
  ⟨busy.stage, busy.waiting, busy.fits⟩

theorem mem_ids_detach {id p : ParticipantId} (bound : p ∈ d.ids) (other : id ≠ p) :
    p ∈ (d.act (.detach id)).ids := by
  obtain ⟨link, here, rfl⟩ := List.mem_map.mp bound
  apply List.mem_map_of_mem
  rw [show (d.act (.detach id)).coordinator.session.participants =
    d.coordinator.session.participants.eraseP (·.id == id) from rfl]
  rw [List.mem_eraseP_of_neg (by simpa using fun same => other same.symm)]
  exact here

theorem section_of_atRest (rest : d.coordinator.AtRest) (isSection : a.isSection = true) :
    (d.report a).effect = .idle ∧ (d.act a).coordinator.AtRest := by
  cases a with
  | input i => exact step_of_atRest rest i
  | detach id => exact ⟨rfl, rest⟩
  | _ => simp [Act.isSection] at isSection

theorem verdictsOf_of_atRest (rest : d.coordinator.AtRest)
    (sections : ∀ a ∈ acts, a.isSection = true) : d.verdictsOf acts = [] := by
  induction acts generalizing d with
  | nil => rfl
  | cons a others ih =>
    rw [List.forall_mem_cons] at sections
    obtain ⟨nothing, rests⟩ := section_of_atRest rest sections.1
    rw [verdictsOf_cons, nothing, ih rests sections.2]
    rfl

theorem rank_of_running {c : Coordinator} (busy : c.Running s) : c.operation.rank = s.rank := by
  simp [Operation.rank, busy.stage]

theorem rank_of_atRest {c : Coordinator} (rest : c.AtRest) : c.operation.rank = 0 := by
  rw [show c.operation = {} from rest]
  rfl

/-- A section does not lead back to an earlier stage. -/
theorem rank_section_le (settled : d.coordinator.Settled) (isSection : a.isSection = true) :
    (d.act a).coordinator.operation.rank ≤ d.coordinator.operation.rank := by
  cases a with
  | detach id => exact Nat.le_refl _
  | input i =>
    show (d.step i).1.coordinator.operation.rank ≤ _
    rcases settled with ⟨s, busy⟩ | rest
    · rw [rank_of_running busy]
      rcases step_lands busy i with ⟨-, stays⟩ | ⟨t, next, -, -, lands⟩ | ⟨-, rests⟩
      · exact Nat.le_of_eq (rank_of_running stays)
      · rw [rank_of_running lands]
        exact Nat.le_of_lt (Stage.rank_lt_of_next next)
      · rw [rank_of_atRest rests]
        exact Nat.zero_le _
    · rw [rank_of_atRest (step_of_atRest rest i).2]
      exact Nat.zero_le _
  | _ => simp [Act.isSection] at isSection

theorem rank_live_le (settled : d.coordinator.Settled)
    (sections : ∀ a ∈ acts, a.isSection = true) :
    (d.live acts).coordinator.operation.rank ≤ d.coordinator.operation.rank := by
  induction acts generalizing d with
  | nil => exact Nat.le_refl _
  | cons a rest ih =>
    rw [List.forall_mem_cons] at sections
    apply Nat.le_trans (ih (settled_act settled a) sections.2)
    exact rank_section_le settled sections.1

/-! ## Before the decision -/

/-- What a section sends goes with the stage that it enters. -/
theorem lands_of_commands (settled : d.coordinator.Settled) (isSection : a.isSection = true)
    {q : Link × Command} (sent : q ∈ (d.report a).effect.commands) :
    ∃ t, (d.act a).coordinator.Running t ∧ q.2.kind = t.command ∧ q.1.id ∈ (d.act a).ids := by
  cases a with
  | detach id => exact absurd sent List.not_mem_nil
  | input i =>
    have bound : q.1.id ∈ (d.step i).1.ids := mem_ids_of_step settled sent
    have sends : q ∈ (d.step i).2.effect.commands := sent
    rcases settled with ⟨s, busy⟩ | rest
    · rcases step_lands busy i with ⟨idle, -⟩ | ⟨t, -, -, effect, lands⟩ | ⟨⟨verdict, effect⟩, -⟩
      · rw [idle] at sends
        exact absurd sends List.not_mem_nil
      · rw [effect] at sends
        exact ⟨t, lands, kind_of_mem_orders sends, bound⟩
      · rw [effect] at sends
        exact absurd sends List.not_mem_nil
    · rw [(step_of_atRest rest i).1] at sends
      exact absurd sends List.not_mem_nil
  | _ => simp [Act.isSection] at isSection

/-- **Before.** What was sent before `XA PREPARE` is completed is no decision. -/
theorem kind_of_commandsOf (settled : d.coordinator.Settled)
    (sections : ∀ a ∈ acts, a.isSection = true)
    (undecided : Stage.prepare.rank ≤ (d.live acts).coordinator.operation.rank)
    {q : Link × Command} (sent : q ∈ d.commandsOf acts) :
    q.2.kind ≠ .xaCommit ∧ q.2.kind ≠ .xaRollback := by
  induction acts generalizing d with
  | nil => exact absurd sent List.not_mem_nil
  | cons a rest ih =>
    rw [List.forall_mem_cons] at sections
    rw [commandsOf_cons, List.mem_append] at sent
    rcases sent with now | later
    · obtain ⟨t, lands, kind, -⟩ := lands_of_commands settled sections.1 now
      have onward : Stage.prepare.rank ≤ (d.act a).coordinator.operation.rank :=
        Nat.le_trans undecided (rank_live_le (settled_act settled a) sections.2)
      rw [rank_of_running lands] at onward
      rw [kind]
      exact Stage.command_of_rank onward
    · exact ih (settled_act settled a) sections.2 undecided later

/-- Nothing is sent to a shard that is not bound. -/
theorem commandsOf_of_absent (settled : d.coordinator.Settled) {id : ParticipantId}
    (absent : id ∉ d.ids) (sections : ∀ a ∈ acts, a.isSection = true) {q : Link × Command}
    (sent : q ∈ d.commandsOf acts) : q.1.id ≠ id := by
  induction acts generalizing d with
  | nil => exact absurd sent List.not_mem_nil
  | cons a rest ih =>
    rw [List.forall_mem_cons] at sections
    have unattached : a.attached? = none := by
      cases a with
      | attach link => simp [Act.isSection] at sections
      | _ => rfl
    have absentNext : id ∉ (d.act a).ids :=
      fun here => absent ((ids_act_sublist settled unattached).subset here)
    rw [commandsOf_cons, List.mem_append] at sent
    rcases sent with now | later
    · rintro rfl
      obtain ⟨t, -, -, bound⟩ := lands_of_commands settled sections.1 now
      exact absentNext bound
    · exact ih (settled_act settled a) absentNext sections.2 later

/-! ## On the way to success -/

section Success

variable {i : Input} {verdict : Verdict}

/-- If an input is followed by success, the stage is promising with the input taken in. -/
theorem promising_absorb_of_success (busy : d.coordinator.Running s)
    (sections : ∀ a ∈ acts, a.isSection = true)
    (onward : ∀ t, (d.step i).1.coordinator.Running t → verdict ∈ (d.step i).1.verdictsOf acts →
      (d.step i).1.coordinator.promising t)
    (reached : verdict ∈ d.verdictsOf (.input i :: acts))
    (success : verdict.conclusion = .success) :
    (d.absorb i).promising s := by
  rw [verdictsOf_cons, List.mem_append] at reached
  change verdict ∈ (d.step i).2.effect.verdicts ∨ verdict ∈ (d.step i).1.verdictsOf acts at reached
  -- Within a stage the promise is that of the step after; across a border it is the next cohort's.
  rcases step_turn busy i with stays | leaves
  · rw [stays.effect] at reached
    rcases reached with now | later
    · exact absurd now List.not_mem_nil
    · rw [← stays.after]
      exact onward s stays.running later
  · rcases leaves.lands busy with ⟨t, next, after, effect, lands⟩ | ⟨⟨v, effect⟩, rests, -⟩
    · rw [effect] at reached
      rcases reached with now | later
      · exact absurd now List.not_mem_nil
      · have promising := onward t lands later
        rw [after] at promising
        exact (Coordinator.promising_landed next).mp promising
    · rw [effect, verdictsOf_of_atRest rests sections] at reached
      obtain rfl : verdict = v := by simpa [Effect.verdicts] using reached
      exact (Coordinator.success_of_proceed (leaves.effect ▸ effect)).mp success

/-- Whatever sections interleave, an operation comes to success only from promising stages. -/
theorem promising_of_success (busy : d.coordinator.Running s)
    (sections : ∀ a ∈ acts, a.isSection = true) (reached : verdict ∈ d.verdictsOf acts)
    (success : verdict.conclusion = .success) : d.coordinator.promising s := by
  induction acts generalizing d s with
  | nil => exact absurd reached List.not_mem_nil
  | cons a rest ih =>
    rw [List.forall_mem_cons] at sections
    cases a with
    | input i =>
      have absorbed := promising_absorb_of_success busy sections.2
        (fun t lands later => ih lands sections.2 later) reached success
      exact ((promising_absorb busy i).mp absorbed).1
    | detach id =>
      -- the unbinding reaches no verdict and leaves the operation alone
      exact ih (d := d.act (.detach id)) (running_detach busy id) sections.2 reached
    | _ => simp [Act.isSection] at sections

/-- The decision of a commit is open, and what verdicts there were have been told. -/
structure Open (d : Docket) (s : Stage) : Prop where
  busy : d.coordinator.Running s
  precedes : s.precedesDecision = true
  told : d.untold = []

/-- While the decision is open, an input that is followed by success unbinds nobody. -/
theorem ids_absorb_of_success (undecided : d.Open s) (sections : ∀ a ∈ acts, a.isSection = true)
    (reached : verdict ∈ d.verdictsOf (.input i :: acts))
    (success : verdict.conclusion = .success) :
    (d.absorb i).session.participantIds = d.ids := by
  have absorbed := promising_absorb_of_success undecided.busy sections
    (fun t lands later => promising_of_success lands sections later success) reached success
  have unspoiled := ((promising_absorb undecided.busy i).mp absorbed).2
  simp only [Coordinator.spoiledBy, undecided.precedes, Bool.true_and, Bool.or_eq_false_iff]
    at unspoiled
  have noClose : i.closed? = none := by simpa using unspoiled.2.1
  unfold ids Session.participantIds
  rw [participants_absorb undecided.busy i undecided.told, noClose]

theorem Open.told_step (undecided : d.Open s) (silent : (d.step i).2.effect.verdicts = []) :
    (d.step i).1.untold = [] := by
  rw [untold_step fun _ => undecided.told, silent, undecided.told]
  rfl

/-- What an input that is followed by success does while the decision is open. -/
inductive Onward (d : Docket) (s : Stage) (i : Input) : Prop where
  /-- The stage stays in flight. -/
  | stays (undecided : (d.step i).1.Open s) (silent : (d.step i).2.effect.verdicts = [])
      (same : (d.step i).1.ids = d.ids)
      (owing : (d.step i).1.coordinator.operation.cohort.pending ⊆
        d.coordinator.operation.cohort.pending)
  /-- Everyone bound is asked to prepare. -/
  | asks (first : s = .start .commit) (undecided : (d.step i).1.Open .prepare)
      (silent : (d.step i).2.effect.verdicts = [])
      (asked : (d.step i).1.coordinator.operation.cohort = Cohort.opened (d.step i).1.ids)
  /-- Everyone bound is sent the decision. -/
  | decides (prepared : s = .prepare) (lands : (d.step i).1.coordinator.Running .commitAll)
      (sends : ∀ id ∈ d.ids, ∃ q ∈ (d.step i).2.effect.commands,
        q.1.id = id ∧ q.2.kind = .xaCommit)
  /-- Nobody is bound any more. -/
  | concludes (nobody : d.ids = []) (rests : (d.step i).1.coordinator.AtRest)

/-- The decision goes to everyone bound. -/
theorem decision_of_bound {c : Coordinator} {id : ParticipantId}
    (bound : id ∈ c.session.participantIds) :
    ∃ q ∈ c.orders .commitAll, q.1.id = id ∧ q.2.kind = .xaCommit := by
  obtain ⟨link, attached, rfl⟩ := List.mem_map.mp bound
  rw [Coordinator.orders_eq_map rfl]
  exact ⟨_, List.mem_map_of_mem attached, rfl, rfl⟩

theorem onward_of_success (undecided : d.Open s) (sections : ∀ a ∈ acts, a.isSection = true)
    (reached : verdict ∈ d.verdictsOf (.input i :: acts))
    (success : verdict.conclusion = .success) :
    d.Onward s i := by
  -- Success later means that nobody who is still bound has dropped out by now.
  have bound := ids_absorb_of_success undecided sections reached success
  rcases step_turn undecided.busy i with stays | leaves
  · have silent : (d.step i).2.effect.verdicts = [] := by
      rw [stays.effect]
      rfl
    refine .stays ⟨stays.running, undecided.precedes, undecided.told_step silent⟩ silent ?_ ?_
    · unfold ids
      rw [stays.after]
      exact bound
    · rw [stays.after]
      exact (pending_absorb_sublist undecided.busy i).subset
  · have favours := promising_absorb_of_success undecided.busy sections
      (fun t lands later => promising_of_success lands sections later success) reached success
    rcases leaves.lands undecided.busy with
      ⟨t, next, after, effect, lands⟩ | ⟨⟨v, -⟩, rests, nobody⟩
    · have silent : (d.step i).2.effect.verdicts = [] := by
        rw [effect]
        rfl
      have addressed : (d.step i).1.ids = (d.absorb i).session.participantIds := by
        unfold ids
        rw [after]
        rfl
      rcases Stage.next_of_favours undecided.precedes favours with ⟨rfl, here⟩ | ⟨rfl, here⟩
      · obtain rfl := Transition.enter.inj (here.symm.trans next)
        refine .asks rfl ⟨lands, rfl, undecided.told_step silent⟩ silent ?_
        rw [addressed, after]
        rfl
      · obtain rfl := Transition.enter.inj (here.symm.trans next)
        refine .decides rfl lands ?_
        intro id member
        rw [← bound] at member
        rw [effect]
        exact decision_of_bound member
    · refine .concludes ?_ rests
      rw [← bound]
      rcases Stage.next_of_favours undecided.precedes favours with ⟨rfl, here⟩ | ⟨rfl, here⟩
      · exact nobody _ here
      · exact nobody _ here

theorem reached_later (silent : (d.step i).2.effect.verdicts = [])
    (reached : verdict ∈ d.verdictsOf (.input i :: acts)) :
    verdict ∈ (d.step i).1.verdictsOf acts := by
  rw [verdictsOf_cons, show (d.report (.input i)).effect.verdicts = [] from silent] at reached
  exact reached

theorem Open.detach (undecided : d.Open s) (id : ParticipantId) : (d.act (.detach id)).Open s :=
  ⟨running_detach undecided.busy id, undecided.precedes, undecided.told⟩

/-- **Bound.** A shard that is bound and not unbound while `XA PREPARE` is in flight is sent the
decision of a commit that comes to success. -/
theorem decision_sent {p : ParticipantId} (undecided : d.Open .prepare) (bound : p ∈ d.ids)
    (sections : ∀ a ∈ acts, a.isSection = true)
    (whole : ∀ m ∈ d.scenes acts, m.stage = some .prepare → m.act ≠ .detach p)
    (reached : verdict ∈ d.verdictsOf acts) (success : verdict.conclusion = .success) :
    ∃ q ∈ d.commandsOf acts, q.1.id = p ∧ q.2.kind = .xaCommit := by
  -- on the sections: until the decision is sent, the cohort is open and the shard stays bound
  induction acts generalizing d with
  | nil => exact absurd reached List.not_mem_nil
  | cons a rest ih =>
    rw [List.forall_mem_cons] at sections
    rw [scenes, List.forall_mem_cons] at whole
    rw [commandsOf_cons]
    cases a with
    | input i =>
      cases onward_of_success undecided sections.2 reached success with
      | stays undecidedNext silent same owing =>
        have later := reached_later silent reached
        obtain ⟨q, sent, goes⟩ := ih undecidedNext (same ▸ bound) sections.2 whole.2 later
        exact ⟨q, List.mem_append_right _ sent, goes⟩
      | asks first => exact absurd first (by simp)
      | decides prepared lands sends =>
        obtain ⟨q, sent, goes⟩ := sends p bound
        exact ⟨q, List.mem_append_left _ sent, goes⟩
      | concludes nobody rests =>
        rw [nobody] at bound
        exact absurd bound List.not_mem_nil
    | detach id =>
      have other : id ≠ p := by
        rintro rfl
        exact whole.1 undecided.busy.stage rfl
      exact ih (undecided.detach id) (mem_ids_detach bound other) sections.2 whole.2 reached
    | _ => simp [Act.isSection] at sections

/-- A scene that finds a stage in flight finds none with a higher rank than the first. -/
theorem rank_le_of_mem_scenes (settled : d.coordinator.Settled)
    (sections : ∀ a ∈ acts, a.isSection = true) {m : Scene} (h : m ∈ d.scenes acts)
    (stage : m.stage = some s) : s.rank ≤ d.coordinator.operation.rank := by
  obtain ⟨xs, ys, rfl, found⟩ := exists_of_mem_scenes h
  have earlier : ∀ a ∈ xs, a.isSection = true :=
    fun a mem => sections a (List.mem_append_left _ mem)
  have here : m.docket.coordinator.operation.rank = s.rank := by
    rw [Operation.rank, show m.docket.coordinator.operation.stage = some s from stage]
    rfl
  rw [← here, found]
  exact rank_live_le settled earlier

/-- A participant that is counted as prepared is sent the decision of a commit that comes to
success, unless it is unbound while `XA PREPARE` is in flight. -/
theorem decision_sent_of_prepared {p : ParticipantId} {packet : Option Bytes} {m : Scene}
    (undecided : d.Open s)
    (bound : s = .prepare → p ∈ d.coordinator.operation.cohort.pending → p ∈ d.ids)
    (sections : ∀ a ∈ acts, a.isSection = true)
    (whole : ∀ m ∈ d.scenes acts, m.stage = some .prepare → m.act ≠ .detach p)
    (h : m ∈ d.scenes acts) (stage : m.stage = some .prepare)
    (counted : m.entryOf = some (.ok p packet))
    (reached : verdict ∈ d.verdictsOf acts) (success : verdict.conclusion = .success) :
    ∃ q ∈ d.commandsOf acts, q.1.id = p ∧ q.2.kind = .xaCommit := by
  induction acts generalizing d s with
  | nil => exact absurd h List.not_mem_nil
  | cons a rest ih =>
    rcases List.mem_cons.mp h with rfl | later
    · -- the answer is counted here, so it was owed, and the participant is still bound
      cases a with
      | input i =>
        have prepare : s = .prepare := Option.some.inj (undecided.busy.stage.symm.trans stage)
        have owed := Coordinator.mem_pending_of_entry counted rfl
        subst prepare
        exact decision_sent undecided (bound rfl owed) sections whole reached success
      | _ => simp [Scene.entryOf] at counted
    · have others := sections
      rw [List.forall_mem_cons] at sections
      rw [scenes, List.forall_mem_cons] at whole
      rw [commandsOf_cons]
      cases a with
      | input i =>
        -- the answer is still to come, so the stage has not been left
        have high := rank_le_of_mem_scenes
          (settled_step (.inl ⟨s, undecided.busy⟩) i) sections.2 later stage
        cases onward_of_success undecided sections.2 reached success with
        | stays undecidedNext silent same owing =>
          obtain ⟨q, sent, goes⟩ := ih undecidedNext
            (fun prepare owed => same ▸ bound prepare (owing owed)) sections.2 whole.2 later
            (reached_later silent reached)
          exact ⟨q, List.mem_append_right _ sent, goes⟩
        | asks first undecidedNext silent asked =>
          obtain ⟨q, sent, goes⟩ := ih undecidedNext
            (fun _ owed => by simpa [asked, Cohort.opened, List.mem_eraseDups] using owed)
            sections.2 whole.2 later (reached_later silent reached)
          exact ⟨q, List.mem_append_right _ sent, goes⟩
        | decides prepared lands sends =>
          rw [rank_of_running lands] at high
          exact absurd high (by decide)
        | concludes nobody rests =>
          rw [rank_of_atRest rests] at high
          exact absurd high (by decide)
      | detach id =>
        refine ih (undecided.detach id) ?_ sections.2 whole.2 later reached
        intro prepare owed
        have other : id ≠ p := by
          rintro rfl
          exact whole.1 (prepare ▸ undecided.busy.stage) rfl
        exact mem_ids_detach (bound prepare owed) other
      | _ => simp [Act.isSection] at others

end Success

/-- Whoever is unbound while `XA PREPARE` is in flight is not sent the decision. -/
theorem no_decision_of_detach (settled : d.coordinator.Settled) (distinct : d.ids.Nodup)
    (sections : ∀ a ∈ acts, a.isSection = true) {m : Scene} (h : m ∈ d.scenes acts)
    (stage : m.stage = some .prepare) {p : ParticipantId} (unbound : m.act = .detach p)
    {q : Link × Command} (sent : q ∈ d.commandsOf acts)
    (decision : q.2.kind = .xaCommit ∨ q.2.kind = .xaRollback) : q.1.id ≠ p := by
  obtain ⟨xs, ys, rfl, found⟩ := exists_of_mem_scenes h
  rw [unbound] at sections sent
  simp only [List.mem_append, List.mem_cons, or_imp, forall_and, forall_eq] at sections
  obtain ⟨before, -, after⟩ := sections
  have settledHere := settled_live settled xs
  have here : (d.live xs).coordinator.operation.rank = Stage.prepare.rank := by
    rw [← found, Operation.rank, show m.docket.coordinator.operation.stage = _ from stage]
    rfl
  rw [commandsOf_append, commandsOf_cons, List.mem_append, List.mem_append] at sent
  rcases sent with earlier | now | later
  · obtain ⟨noCommit, noRollback⟩ :=
      kind_of_commandsOf settled before (Nat.le_of_eq here.symm) earlier
    rcases decision with commit | rollback
    · exact absurd commit noCommit
    · exact absurd rollback noRollback
  · exact absurd now List.not_mem_nil
  · have absent := absent_of_detach (nodup_live settled distinct xs) p
    exact commandsOf_of_absent (settled_act settledHere (.detach p)) absent after later

end Docket

/-- **A prepared branch and a close in two halves.** After any life of a session let an XA commit
begin, let sections interleave in any order while it runs, and let it come to success. A participant
that was counted as prepared is sent the decision iff it was not unbound, by the first half of a
close, while `XA PREPARE` was in flight. -/
theorem prepared_is_told_iff {id : UInt64} {issuer : String} {d : Docket} {history acts : List Act}
    {begun : Coordinator} {effect : Effect} {p : ParticipantId} {packet : Option Bytes} {m : Scene}
    {verdict : Verdict} (past : d = (Docket.born id issuer).live history)
    (xa : d.coordinator.session.xa = true) (h : d.coordinator.beginCommit = (begun, .ok effect))
    (sections : ∀ a ∈ acts, a.isSection = true)
    (mem : m ∈ (Docket.ofBegun begun effect).scenes acts) (stage : m.stage = some .prepare)
    (counted : m.entryOf = some (.ok p packet))
    (reached : verdict ∈ effect.verdicts ++ (Docket.ofBegun begun effect).verdictsOf acts)
    (success : verdict.conclusion = .success) :
    (∃ q ∈ (Docket.ofBegun begun effect).commandsOf acts,
        q.1.id = p ∧ (q.2.kind = .xaCommit ∨ q.2.kind = .xaRollback)) ↔
      ∀ m ∈ (Docket.ofBegun begun effect).scenes acts,
        m.stage = some .prepare → m.act ≠ .detach p := by
  have starts : d.coordinator.begin (.start .commit) = (begun, .ok effect) := by
    rw [Coordinator.beginCommit, xa] at h
    exact h
  have distinct : (Docket.ofBegun begun effect).ids.Nodup := by
    have before : d.ids.Nodup :=
      past ▸ Docket.nodup_live (Docket.settled_born ..) List.nodup_nil history
    have same := d.coordinator.participants_begin (.start .commit)
    rw [starts] at same
    unfold Docket.ids Session.participantIds
    rw [show (Docket.ofBegun begun effect).coordinator.session.participants = _ from same]
    exact before
  rcases Docket.begun_lands starts with ⟨-, rfl, busy⟩ | ⟨-, rests⟩
  · constructor
    · rintro ⟨q, sent, rfl, decision⟩ m' mem' stage' unbound
      exact Docket.no_decision_of_detach (.inl ⟨_, busy⟩) distinct sections mem' stage' unbound sent
        decision rfl
    · intro whole
      obtain ⟨q, sent, goes, commits⟩ := Docket.decision_sent_of_prepared
        ⟨busy, rfl, rfl⟩ (by simp) sections whole mem stage counted reached success
      exact ⟨q, sent, goes, .inl commits⟩
  · -- an operation of nobody asks nobody to prepare
    have low := Docket.rank_le_of_mem_scenes (.inr rests) sections mem stage
    rw [show (Docket.ofBegun begun effect).coordinator = begun from rfl,
      Docket.rank_of_atRest rests] at low
    exact absurd low (by decide)

namespace Sample

def branched : Docket :=
  (Docket.born 7 "x").live [.attach shardA, .attach shardB, .setXa true]

/-- Both shards answer every stage of a commit. -/
def answers : List Act := (votes ++ [ok shardA, ok shardB]).map .input

/-- The close of the first shard's link begins before the last vote, and goes on after it. -/
def severed : List Act :=
  [.input (ok shardA), .input (ok shardB), .input (ok shardA), .detach shardA.id,
    .input (ok shardB), .closed shardA "gone", .input (ok shardB)]

end Sample

open Sample in
/-- The case of two shards that answer every stage. -/
theorem prepared_is_told_of_answers :
    ∃ begun effect, branched.coordinator.beginCommit = (begun, .ok effect) ∧
      ∃ q ∈ (Docket.ofBegun begun effect).commandsOf answers,
        q.1.id = shardA.id ∧ (q.2.kind = .xaCommit ∨ q.2.kind = .xaRollback) := by
  have begins := Coordinator.begin_eq_follow (c := branched.coordinator) rfl (.start .commit)
  let out := (branched.coordinator.fresh (.start .commit)).follow (.enter (.start .commit)) none
  obtain ⟨m, mem, stage, counted⟩ : ∃ m ∈ (Docket.ofBegun out.1 out.2).scenes answers,
      m.stage = some .prepare ∧ m.entryOf = some (.ok shardA.id (some okFrame)) := by
    decide +kernel
  exact ⟨_, _, begins,
    (prepared_is_told_iff (show branched = (Docket.born 7 "x").live _ from rfl)
      (by decide +kernel) begins (by decide +kernel) mem stage counted
      (show ⟨.success, none, false⟩ ∈ _ by decide +kernel) rfl).mpr (by decide +kernel)⟩

open Sample in
/-- **A forgotten branch.** The first shard has prepared, its close begins before the last vote and
goes on after it, and the commit concludes with success although no decision was sent to it. -/
theorem success_of_severed :
    ∃ begun effect, branched.coordinator.beginCommit = (begun, .ok effect) ∧
      (∃ m ∈ (Docket.ofBegun begun effect).scenes severed,
        m.stage = some .prepare ∧ m.entryOf = some (.ok shardA.id (some okFrame))) ∧
      (∀ q ∈ (Docket.ofBegun begun effect).commandsOf severed,
        q.1.id = shardA.id → q.2.kind ≠ .xaCommit ∧ q.2.kind ≠ .xaRollback) ∧
      ∃ verdict ∈ (Docket.ofBegun begun effect).verdictsOf severed,
        verdict.conclusion = .success :=
  ⟨_, _, Coordinator.begin_eq_follow (c := branched.coordinator) rfl (.start .commit),
    by decide +kernel, by decide +kernel, by decide +kernel⟩

end AtomicCommit
