import AtomicCommit.Proofs.Prospect

/-!
# Who acknowledged a decision

A decision is sent to everyone attached, and once more, as a cleanup, to those who answered it with
an error and are still attached when its cohort closes. An operation that concludes with success
has an acknowledgement of each participant that the decision was sent to, with one exception: one
that answered with an error and was gone when the cohort closed is *forgotten*. It is not asked
again, and nothing counts against the success.

* **decision** — `Docket.Round.answered`: in the decision's round of a successful operation
  everyone answers, with a success or with an error.
* **run** — `acknowledged_iff_not_forgotten`.
-/

namespace AtomicCommit

open Wire

/-! ## Acknowledging and forgetting -/

namespace Stage

/-- Whether the stage tells everyone of the decision. -/
def isDecision : Stage → Bool
  | .commitAll | .rollbackAll _ => true
  | _ => false

/-- Whether an answer in this stage is one to the decision. -/
def carriesDecision : Stage → Bool
  | .commitAll | .rollbackAll _ | .cleanup .. => true
  | _ => false

theorem carriesDecision_of_isDecision {s : Stage} (h : s.isDecision = true) :
    s.carriesDecision = true := by
  cases s <;> first | rfl | exact absurd h (by simp [isDecision])

theorem not_precedes_of_isDecision {s : Stage} (h : s.isDecision = true) :
    s.precedesDecision = false := by
  cases s with
  | commitAll | rollbackAll cause => rfl
  | start | prepare | cleanup | plainCommit | plainRollback =>
    exact absurd h (by simp [isDecision])

/-- A decision is followed by its repetition to those whose error was counted. -/
theorem next_of_isDecision {s : Stage} (h : s.isDecision = true) (o : Outcome) :
    ∃ intent cause lost, s.next o = .enter (.cleanup intent o.errored cause lost) ∧
      (cleanup intent o.errored cause lost).command = s.command := by
  cases s with
  | commitAll | rollbackAll cause => exact ⟨_, _, _, rfl, rfl⟩
  | start | prepare | cleanup | plainCommit | plainRollback =>
    exact absurd h (by simp [isDecision])

/-- A decision is spoiled by losses alone. -/
theorem spoiledByEntry_of_isDecision {s : Stage} (h : s.isDecision = true) :
    s.spoiledByEntry = Cohort.Entry.isLoss := by
  cases s with
  | commitAll | rollbackAll cause => rfl
  | start | prepare | cleanup | plainCommit | plainRollback =>
    exact absurd h (by simp [isDecision])

end Stage

namespace Cohort.Entry

def accepts (id : ParticipantId) : Entry → Bool
  | .ok other _ => other == id
  | _ => false

def refuses (id : ParticipantId) : Entry → Bool
  | .error other _ => other == id
  | _ => false

theorem accepts_iff {id : ParticipantId} {e : Entry} :
    e.accepts id = true ↔ ∃ packet, e = .ok id packet := by
  cases e <;> simp [accepts]

theorem refuses_iff {id : ParticipantId} {e : Entry} :
    e.refuses id = true ↔ ∃ message, e = .error id message := by
  cases e <;> simp [refuses]

end Cohort.Entry

namespace Moment

/-- The step counts a success of this participant as an answer to the decision. -/
def acknowledges (m : Moment) (id : ParticipantId) : Bool :=
  m.stage.any Stage.carriesDecision && m.entryOf.any (Cohort.Entry.accepts id)

/-- The step counts an error of this participant as its answer to the decision. -/
def refuses (m : Moment) (id : ParticipantId) : Bool :=
  m.stage.any Stage.isDecision && m.entryOf.any (Cohort.Entry.refuses id)

/-- The step closes the decision's cohort, and this participant is not attached then. -/
def closesWithout (m : Moment) (id : ParticipantId) : Bool :=
  m.stage.any Stage.isDecision && m.after.coordinator.operation.stage != m.stage &&
    !m.after.coordinator.session.participantIds.contains id

end Moment

namespace Docket

/-- The run counts an acknowledgement of the decision by this participant. -/
def Acknowledged (d : Docket) (inputs : List Input) (id : ParticipantId) : Prop :=
  ∃ m ∈ d.moments inputs, m.acknowledges id = true

/-- In the run this participant answers the decision with an error, and is gone when the decision's
cohort closes. -/
def Forgotten (d : Docket) (inputs : List Input) (id : ParticipantId) : Prop :=
  (∃ m ∈ d.moments inputs, m.refuses id = true) ∧
    ∃ m ∈ d.moments inputs, m.closesWithout id = true

instance (d : Docket) (inputs : List Input) (id : ParticipantId) :
    Decidable (d.Acknowledged inputs id) :=
  inferInstanceAs (Decidable (∃ m ∈ d.moments inputs, m.acknowledges id = true))

instance (d : Docket) (inputs : List Input) (id : ParticipantId) :
    Decidable (d.Forgotten inputs id) :=
  inferInstanceAs (Decidable ((∃ m ∈ d.moments inputs, m.refuses id = true) ∧
    ∃ m ∈ d.moments inputs, m.closesWithout id = true))

/-! ## The decision's round -/

variable {d : Docket} {s : Stage} {xs : List Input} {i : Input} {ids : List ParticipantId}

theorem spoils_of_entry {m : Moment} {e : Cohort.Entry} (stage : m.stage = some s)
    (entered : m.entryOf = some e) (unspoiled : m.spoils = false) : s.spoiledByEntry e = false := by
  unfold Moment.spoils Coordinator.spoiledBy at unspoiled
  rw [stage] at unspoiled
  simp only [Bool.or_eq_false_iff] at unspoiled
  have any := unspoiled.1
  rw [show m.docket.coordinator.inputEntryOf m.input = some e from entered] at any
  exact any

/-- An unspoiled round of a decision has an answer of everyone asked, a success or an error. -/
theorem Round.answered (round : d.Round s xs i) (decision : s.isDecision = true)
    (opened : d.coordinator.operation.cohort = Cohort.opened ids)
    (unspoiled : ∀ m ∈ d.moments (xs ++ [i]), m.spoils = false) {id : ParticipantId}
    (asked : id ∈ ids) :
    ∃ e ∈ d.entries (xs ++ [i]), e.accepts id = true ∨ e.refuses id = true := by
  have noLoss : ∀ e ∈ d.entries (xs ++ [i]), e.isLoss = false := by
    intro e counted
    obtain ⟨m, inRun, entered⟩ := mem_entries.mp counted
    rw [← Stage.spoiledByEntry_of_isDecision decision]
    exact spoils_of_entry (round.stage inRun) entered (unspoiled m inRun)
  obtain ⟨e, counted, named⟩ :=
    (round.account opened).exists_entry round.leaves.closes noLoss asked
  refine ⟨e, counted, ?_⟩
  have kept := noLoss e counted
  cases e with
  | ok other packet => exact .inl (by simpa [Cohort.Entry.accepts, Cohort.Entry.id?] using named)
  | error other message =>
    exact .inr (by simpa [Cohort.Entry.refuses, Cohort.Entry.id?] using named)
  | closed | unreachable => simp [Cohort.Entry.isLoss] at kept

/-- A round counts one answer of each participant. -/
theorem Round.not_refused_of_accepted (round : d.Round s xs i)
    (opened : d.coordinator.operation.cohort = Cohort.opened ids) {id : ParticipantId}
    (accepted : ∃ e ∈ d.entries (xs ++ [i]), e.accepts id = true) :
    ¬ ∃ e ∈ d.entries (xs ++ [i]), e.refuses id = true := by
  rintro ⟨f, alsoCounted, refuses⟩
  obtain ⟨e, counted, accepts⟩ := accepted
  obtain ⟨packet, rfl⟩ := Cohort.Entry.accepts_iff.mp accepts
  obtain ⟨message, rfl⟩ := Cohort.Entry.refuses_iff.mp refuses
  have same := (round.account opened).entry_unique counted alsoCounted rfl rfl
  exact absurd same (by simp)

/-- An unspoiled round of a cleanup has a success of everyone asked. -/
theorem Round.mended {decision : Intent} {retry : List ParticipantId} {cause lost : Option String}
    (round : d.Round (.cleanup decision retry cause lost) xs i)
    (opened : d.coordinator.operation.cohort = Cohort.opened ids)
    (unspoiled : ∀ m ∈ d.moments (xs ++ [i]), m.spoils = false) {id : ParticipantId}
    (asked : id ∈ ids) : d.Acknowledged (xs ++ [i]) id := by
  have noFailure : ∀ e ∈ d.entries (xs ++ [i]), e.isFailure = false := by
    intro e counted
    obtain ⟨m, inRun, entered⟩ := mem_entries.mp counted
    exact spoils_of_entry (round.stage inRun) entered (unspoiled m inRun)
  obtain ⟨packet, counted⟩ :=
    (round.account opened).unanimous round.leaves.closes noFailure asked
  obtain ⟨m, inRun, entered⟩ := mem_entries.mp counted
  refine ⟨m, inRun, ?_⟩
  unfold Moment.acknowledges
  rw [round.stage inRun, entered]
  simp [Stage.carriesDecision, Cohort.Entry.accepts]

/-- In a round of a decision only the last step closes the cohort. -/
theorem Round.closesWithout_iff (round : d.Round s xs i) (decision : s.isDecision = true)
    {id : ParticipantId} :
    (∃ m ∈ d.moments (xs ++ [i]), m.closesWithout id = true) ↔
      id ∉ (d.after xs i).coordinator.session.participantIds := by
  have here : (Moment.mk (d.run xs) i).stage = some s := round.busy.stage
  have after : (Moment.mk (d.run xs) i).after = d.after xs i := rfl
  -- the stage that comes next has a higher rank, so this one is left for good
  have left : (d.after xs i).coordinator.operation.stage ≠ some s := by
    rcases round.lands with ⟨t, next, -, -, busy⟩ | ⟨-, rests, -⟩
    · rw [busy.stage]
      intro same
      have falls := Stage.rank_lt_of_next next
      rw [Option.some.inj same] at falls
      exact Nat.lt_irrefl _ falls
    · rw [show (d.after xs i).coordinator.operation = {} from rests]
      simp
  constructor
  · rintro ⟨m, inRun, closes⟩
    simp only [Moment.closesWithout, Bool.and_eq_true] at closes
    rcases mem_moments_round.mp inRun with earlier | rfl
    · obtain ⟨busy, stays⟩ := round.keeps.of_mem earlier
      have same : m.after.coordinator.operation.stage = m.stage :=
        stays.running.stage.trans busy.stage.symm
      -- before its last input the round stays in its stage
      simp [same] at closes
    · rw [after] at closes
      simpa using closes.2
  · intro gone
    refine ⟨⟨d.run xs, i⟩, mem_moments_round.mpr (.inr rfl), ?_⟩
    simp only [Moment.closesWithout, here, after, Bool.and_eq_true]
    exact ⟨⟨by simpa using decision, by simpa using left⟩, by simpa using gone⟩

theorem Round.refuses_iff (round : d.Round s xs i) (decision : s.isDecision = true)
    {id : ParticipantId} :
    (∃ m ∈ d.moments (xs ++ [i]), m.refuses id = true) ↔
      ∃ e ∈ d.entries (xs ++ [i]), e.refuses id = true := by
  constructor
  · rintro ⟨m, inRun, refuses⟩
    simp only [Moment.refuses, Bool.and_eq_true, Option.any_eq_true] at refuses
    obtain ⟨-, e, entered, refuses⟩ := refuses
    exact ⟨e, mem_entries.mpr ⟨m, inRun, entered⟩, refuses⟩
  · rintro ⟨e, counted, refuses⟩
    obtain ⟨m, inRun, entered⟩ := mem_entries.mp counted
    refine ⟨m, inRun, ?_⟩
    simp [Moment.refuses, round.stage inRun, decision, entered, refuses]

theorem Round.acknowledged_iff (round : d.Round s xs i) (carries : s.carriesDecision = true)
    {id : ParticipantId} :
    d.Acknowledged (xs ++ [i]) id ↔ ∃ e ∈ d.entries (xs ++ [i]), e.accepts id = true := by
  constructor
  · rintro ⟨m, inRun, acknowledges⟩
    simp only [Moment.acknowledges, Bool.and_eq_true, Option.any_eq_true] at acknowledges
    obtain ⟨-, e, entered, accepts⟩ := acknowledges
    exact ⟨e, mem_entries.mpr ⟨m, inRun, entered⟩, accepts⟩
  · rintro ⟨e, counted, accepts⟩
    obtain ⟨m, inRun, entered⟩ := mem_entries.mp counted
    refine ⟨m, inRun, ?_⟩
    simp [Moment.acknowledges, round.stage inRun, carries, entered, accepts]

theorem acknowledged_append (ys : List Input) {id : ParticipantId} :
    d.Acknowledged (xs ++ i :: ys) id ↔
      d.Acknowledged (xs ++ [i]) id ∨ (d.after xs i).Acknowledged ys id := by
  unfold Acknowledged
  rw [moments_round]
  simp only [List.mem_append, or_and_right, exists_or]

/-- A decision is followed by the cleanup of the errors that its cohort counted. -/
theorem Round.next_of_decision (round : d.Round s xs i) (decision : s.isDecision = true)
    (opened : d.coordinator.operation.cohort = Cohort.opened ids) :
    ∃ intent cause lost, s.next ((d.atClose xs i).result s) = .enter (.cleanup intent
      ((d.entries (xs ++ [i])).filterMap Cohort.Entry.errored?) cause lost) := by
  have errored : ((d.atClose xs i).result s).errored =
      (d.entries (xs ++ [i])).filterMap Cohort.Entry.errored? := by
    rw [Coordinator.result_of_not_precedes (Stage.not_precedes_of_isDecision decision)]
    exact (round.account opened).errored_eq
  rw [← errored]
  obtain ⟨intent, cause, lost, next, -⟩ := Stage.next_of_isDecision decision _
  exact ⟨intent, cause, lost, next⟩

/-! ## What the cleanup adds -/

/-- A cleanup is acknowledged only by those it asks. -/
theorem asked_of_acknowledged {decision : Intent} {retry : List ParticipantId}
    {cause lost : Option String} {inputs : List Input} {id : ParticipantId}
    (busy : d.coordinator.Running (.cleanup decision retry cause lost))
    (opened : d.coordinator.operation.cohort = Cohort.opened ids)
    (h : d.Acknowledged inputs id) : id ∈ ids := by
  obtain ⟨m, inRun, acknowledges⟩ := h
  simp only [Moment.acknowledges, Bool.and_eq_true, Option.any_eq_true] at acknowledges
  obtain ⟨⟨t, stage, -⟩, e, entered, accepts⟩ := acknowledges
  obtain ⟨packet, rfl⟩ := Cohort.Entry.accepts_iff.mp accepts
  have named : (Cohort.Entry.ok id packet).id? = some id := rfl
  rcases keeps_or_round busy inputs with keeps | ⟨xs, i, ys, rfl, round⟩
  · have start : Cohort.Account ids [] d.coordinator.operation.cohort := opened ▸ .opened
    exact (keeps.account start).asked (mem_entries.mpr ⟨m, inRun, entered⟩) named
  · rw [moments_round, List.mem_append] at inRun
    rcases inRun with within | beyond
    · exact (round.account opened).asked (mem_entries.mpr ⟨m, within, entered⟩) named
    · -- nothing follows a cleanup
      rcases round.lands with ⟨u, next, -⟩ | ⟨-, rests, -⟩
      · cases cause <;> simp [Stage.next] at next
      · rw [stage_of_atRest rests beyond] at stage
        exact absurd stage (by simp)

/-- After its round, nothing is an answer to the decision's own stage. -/
theorem Round.undecided_after (round : d.Round s xs i) (decision : s.isDecision = true)
    {ys : List Input} {m : Moment} (h : m ∈ (d.after xs i).moments ys) :
    m.stage.any Stage.isDecision = false := by
  rcases round.lands with ⟨t, next, -, -, busy⟩ | ⟨-, rests, -⟩
  · have low : t.rank < 2 := by
      have falls := Stage.rank_lt_of_next next
      cases s <;> simp [Stage.isDecision] at decision <;> exact falls
    have leads : ∀ {s t : Stage} {o : Outcome}, s.rank < 2 → s.next o = .enter t → t.rank < 2 :=
      fun here next => Nat.lt_trans (Stage.rank_lt_of_next next) here
    rcases stage_of_mem (K := fun t => t.rank < 2) leads busy low h with none | ⟨u, low, stage⟩
    · rw [none]
      rfl
    · rw [stage]
      cases u <;> first | rfl | exact absurd low (by simp [Stage.rank])
  · rw [stage_of_atRest rests h]
    rfl

/-- A participant is forgotten in the decision's round or never. -/
theorem Round.forgotten_iff (round : d.Round s xs i) (decision : s.isDecision = true)
    (ys : List Input) {id : ParticipantId} :
    d.Forgotten (xs ++ i :: ys) id ↔
      (∃ e ∈ d.entries (xs ++ [i]), e.refuses id = true) ∧
        id ∉ (d.after xs i).coordinator.session.participantIds := by
  rw [← round.refuses_iff decision, ← round.closesWithout_iff decision]
  unfold Forgotten
  rw [moments_round]
  have noRefusal : ¬ ∃ m ∈ (d.after xs i).moments ys, m.refuses id = true := by
    rintro ⟨m, inRun, refuses⟩
    simp [Moment.refuses, round.undecided_after decision inRun] at refuses
  have noClosing : ¬ ∃ m ∈ (d.after xs i).moments ys, m.closesWithout id = true := by
    rintro ⟨m, inRun, closes⟩
    simp [Moment.closesWithout, round.undecided_after decision inRun] at closes
  simp only [List.mem_append, or_and_right, exists_or, noRefusal, noClosing, or_false]

/-- In a successful operation, the cleanup is acknowledged by those who answered the decision with
an error and are still attached when its cohort closes. -/
theorem Round.cleanup_iff (round : d.Round s xs i) (decision : s.isDecision = true)
    (opened : d.coordinator.operation.cohort = Cohort.opened ids) {ys : List Input}
    {verdict : Verdict}
    (reached : verdict ∈ ((d.run xs).step i).2.effect.verdicts ++ (d.after xs i).verdicts ys)
    (unspoiled : ∀ m ∈ (d.after xs i).moments ys, m.spoils = false) {id : ParticipantId}
    (refused : ∃ e ∈ d.entries (xs ++ [i]), e.refuses id = true) :
    (d.after xs i).Acknowledged ys id ↔
      id ∈ (d.after xs i).coordinator.session.participantIds := by
  obtain ⟨intent, cause, lost, next⟩ := round.next_of_decision decision opened
  have attached : (d.after xs i).coordinator.session.participantIds =
      (d.atClose xs i).session.participantIds :=
    congrArg (List.map Link.id) round.participants_after
  have erred : id ∈ (d.entries (xs ++ [i])).filterMap Cohort.Entry.errored? := by
    obtain ⟨e, counted, refuses⟩ := refused
    obtain ⟨message, rfl⟩ := Cohort.Entry.refuses_iff.mp refuses
    exact List.mem_filterMap.mpr ⟨_, counted, rfl⟩
  have asked : id ∈ (d.atClose xs i).session.participantIds ↔
      id ∈ (Stage.cleanup intent ((d.entries (xs ++ [i])).filterMap Cohort.Entry.errored?)
        cause lost).targets (d.atClose xs i).session.participantIds := by
    simp only [Stage.targets, List.mem_filter, List.contains_iff_mem]
    exact ⟨fun here => ⟨here, erred⟩, And.left⟩
  rw [attached, asked]
  rcases round.lands with ⟨t, enters, after, effect, busy⟩ | ⟨-, rests, nobody⟩
  · obtain rfl : _ = t := Transition.enter.inj (next.symm.trans enters)
    have openedNext : (d.after xs i).coordinator.operation.cohort = Cohort.opened
        ((Stage.cleanup intent ((d.entries (xs ++ [i])).filterMap Cohort.Entry.errored?)
          cause lost).targets (d.atClose xs i).session.participantIds) := by
      rw [after]
      rfl
    constructor
    · exact asked_of_acknowledged busy openedNext
    · -- the verdict is reached after the cleanup's round, which is therefore unspoiled
      intro isAsked
      rw [effect] at reached
      obtain ⟨zs, j, ws, rfl, cleanup, -⟩ := exists_round_of_verdict busy reached
      rw [moments_round] at unspoiled
      exact (acknowledged_append ws).mpr
        (.inl (cleanup.mended openedNext (List.forall_mem_append.mp unspoiled).1 isAsked))
  · -- nobody who erred is left
    rw [nobody _ next]
    constructor
    · rintro ⟨m, inRun, acknowledges⟩
      simp [Moment.acknowledges, stage_of_atRest rests inRun] at acknowledges
    · exact fun here => absurd here List.not_mem_nil

/-- From the decision on, success means an acknowledgement of everyone who is not forgotten, and
of nobody who is. -/
theorem acknowledged_iff {inputs : List Input} {verdict : Verdict} {id : ParticipantId}
    (busy : d.coordinator.Running s) (decision : s.isDecision = true)
    (opened : d.coordinator.operation.cohort = Cohort.opened ids)
    (reached : verdict ∈ d.verdicts inputs) (success : verdict.conclusion = .success)
    (asked : id ∈ ids) : d.Acknowledged inputs id ↔ ¬ d.Forgotten inputs id := by
  have unspoiled := ((success_iff busy reached).mp success).2
  obtain ⟨xs, i, ys, rfl, round, later⟩ := exists_round_of_verdict busy reached
  rw [moments_round] at unspoiled
  obtain ⟨deciding, cleaning⟩ := List.forall_mem_append.mp unspoiled
  rw [acknowledged_append, round.acknowledged_iff (Stage.carriesDecision_of_isDecision decision),
    round.forgotten_iff decision]
  obtain ⟨e, counted, accepts | refuses⟩ := round.answered decision opened deciding asked
  · -- who accepts is acknowledged at once, and is not asked again
    have accepted : ∃ f ∈ d.entries (xs ++ [i]), f.accepts id = true := ⟨e, counted, accepts⟩
    have notRefused := round.not_refused_of_accepted opened accepted
    exact ⟨fun _ forgotten => notRefused forgotten.1, fun _ => .inl accepted⟩
  · -- who refuses has the cleanup left, unless it is gone
    have refused : ∃ f ∈ d.entries (xs ++ [i]), f.refuses id = true := ⟨e, counted, refuses⟩
    have notAccepted : ¬ ∃ f ∈ d.entries (xs ++ [i]), f.accepts id = true :=
      fun accepted => round.not_refused_of_accepted opened accepted refused
    rw [or_iff_right notAccepted, round.cleanup_iff decision opened later cleaning refused]
    constructor
    · exact fun here forgotten => forgotten.2 here
    · exact fun notForgotten => by_contra fun gone => notForgotten ⟨refused, gone⟩

end Docket

/-! ## Successful operations -/

/-- **Honest success, but for the forgotten.** In an operation that concludes with success, a
participant that the decision was sent to has acknowledged it iff it is not forgotten. -/
theorem acknowledged_iff_not_forgotten {c begun : Coordinator} {intent : Intent} {effect : Effect}
    {xs ys : List Input} {i : Input} {s : Stage} {verdict : Verdict} {link : Link}
    {command : Command}
    (h : c.begin (Stage.initial c.session.xa intent) = (begun, .ok effect))
    (entered : ((Docket.ofBegun begun effect).after xs i).coordinator.operation.stage = some s)
    (decision : s.isDecision = true)
    (sent : (link, command) ∈ (((Docket.ofBegun begun effect).run xs).step i).2.effect.commands)
    (reached : verdict ∈ ((Docket.ofBegun begun effect).after xs i).verdicts ys)
    (success : verdict.conclusion = .success) :
    ((Docket.ofBegun begun effect).after xs i).Acknowledged ys link.id ↔
      ¬ ((Docket.ofBegun begun effect).after xs i).Forgotten ys link.id := by
  have leads : ∀ {s t : Stage} {o : Outcome}, True → s.next o = .enter t → True :=
    fun _ _ => trivial
  rcases Docket.begun_lands h with ⟨-, -, busy⟩ | ⟨-, rests⟩
  · obtain ⟨t, -, busyNow, ordered, after⟩ := Docket.lands_of_sent leads busy trivial sent
    obtain rfl : t = s := Option.some.inj (busyNow.stage.symm.trans entered)
    refine Docket.acknowledged_iff busyNow decision (by rw [after]; rfl) reached success ?_
    obtain ⟨other, part, same⟩ := List.mem_map.mp ordered
    obtain ⟨rfl, -⟩ := Prod.mk.inj same
    exact List.contains_iff_mem.mp (List.mem_filter.mp part).2
  · -- an operation that was over when it began sends nothing
    have nothing := (Docket.step_of_atRest (d := (Docket.ofBegun begun effect).run xs)
      (Docket.atRest_run rests xs) i).1
    rw [nothing] at sent
    exact absurd sent List.not_mem_nil

namespace Sample

/-- The first shard answers `XA COMMIT` with an error and is gone before the second answers. -/
def lapse : List Input :=
  [.event (.error shardA.id (some 1205) "busy"), .event (.closed shardA "gone"), ok shardB]

end Sample

open Sample in
/-- The case of two shards, of which the first acknowledges its commit before the second. -/
theorem acknowledged_of_two :
    ∃ begun effect, (coordinator true).begin (.start .commit) = (begun, .ok effect) ∧
      (((Docket.ofBegun begun effect).after votes.dropLast (ok shardB)).Acknowledged
          [ok shardA, ok shardB] shardA.id ↔
        ¬ ((Docket.ofBegun begun effect).after votes.dropLast (ok shardB)).Forgotten
          [ok shardA, ok shardB] shardA.id) :=
  ⟨_, _, Coordinator.begin_eq_follow rfl _,
    acknowledged_iff_not_forgotten
      (show (coordinator true).begin (Stage.initial (coordinator true).session.xa .commit) = _ from
        Coordinator.begin_eq_follow rfl _)
      (show _ = some Stage.commitAll by decide +kernel) rfl
      (show (shardA, ⟨.xaCommit, "XA COMMIT 'x.7.1','a'"⟩) ∈ _ by decide +kernel)
      (show ⟨.success, none, false⟩ ∈ _ by decide +kernel) rfl⟩

open Sample in
/-- **A forgotten participant.** A commit concludes with success although the first shard, which
was sent `XA COMMIT`, never acknowledged it. -/
theorem success_of_lapse :
    ∃ begun effect, (coordinator true).beginCommit = (begun, .ok effect) ∧
      (shardA, ⟨.xaCommit, "XA COMMIT 'x.7.1','a'"⟩) ∈
        (Docket.ofBegun begun effect).sent (votes ++ lapse) ∧
      ⟨.success, none, false⟩ ∈ (Docket.ofBegun begun effect).verdicts (votes ++ lapse) ∧
      ¬ (Docket.ofBegun begun effect).Acknowledged (votes ++ lapse) shardA.id :=
  ⟨_, _, Coordinator.begin_eq_follow (c := coordinator true) rfl (.start .commit),
    by decide +kernel, by decide +kernel, by decide +kernel⟩

end AtomicCommit
