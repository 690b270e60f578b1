import AtomicCommit.Proofs.Cause

/-!
# Which failure a failed commit names

A commit that is decided fails if its cleanup counts a failure, or if `XA COMMIT` counted a loss. The
message is then the first text that the cleanup counted or, if it counted none, the first that
`XA COMMIT` counted, of whatever kind that failure was. So the message can be that of an error which
the cleanup mended, while another participant's loss is what makes the commit fail.

* **the repetition** — `Docket.Stay.repetition`: what the cleanup counts, and what is concluded.
* **blame** — `Docket.Stay.unmended_iff`: whether the message is that of a failure not mended.
* **run** — `commit_names_unmended_iff`.
-/

namespace AtomicCommit

open Wire

/-! ## What is concluded -/

/-- The text that a decision leaves behind when a failure was counted that its repetition cannot
mend. -/
def Cohort.lostText (es : List Cohort.Entry) : Option String :=
  if es.any Cohort.Entry.isLoss then es.findSome? Cohort.Entry.text? else none

/-- The message that a commit fails with, if it does: `es` is what `XA COMMIT` counted and `fs` what
its repetition counted. -/
def Cohort.failureText (es fs : List Cohort.Entry) : Option String :=
  (fs.findSome? Cohort.Entry.text?).or (Cohort.lostText es)

/-- A failure with this message, or a success. -/
def Conclusion.ofFailure : Option String → Conclusion
  | some message => .failure message
  | none => .success

/-- A cleanup without a cause fails with what it counted, or else with what was lost before. -/
theorem Stage.next_cleanup (decision : Intent) (retry : List ParticipantId) (lost : Option String)
    (o : Outcome) : (cleanup decision retry none lost).next o =
      .conclude (.ofFailure ((if o.failed then some o.errorText else none).or lost)) := by
  simp only [next]
  cases o.failed <;> cases lost <;> rfl

namespace Cohort.Account

variable {ids : List ParticipantId} {es : List Entry} {c : Cohort}

theorem findSome_text_eq_none_iff :
    es.findSome? Entry.text? = none ↔ ∀ e ∈ es, e.isFailure = false := by
  rw [List.findSome?_eq_none_iff]
  apply forall₂_congr
  intro e _
  rw [← e.isSome_text]
  simp

theorem failed_outcome (account : Account ids es c) :
    c.outcome.failed = (es.findSome? Entry.text?).isSome := by
  rw [Bool.eq_iff_iff, List.findSome?_isSome_iff]
  show decide (0 < c.errorCount) = true ↔ _
  rw [decide_eq_true_iff, account.errorCount_eq, List.countP_pos_iff]
  simp only [Entry.isSome_text]

/-- The text left behind is that of the first failure, if a loss was counted. -/
theorem lostText_outcome (account : Account ids es c) :
    c.outcome.lostText = Cohort.lostText es := by
  by_cases none : ∀ e ∈ es, e.isLoss = false
  · obtain ⟨lost, slots⟩ := account.noLoss_iff.mpr none
    have noLoss : es.any Entry.isLoss = false := by simpa using none
    simp [Outcome.lostText, Cohort.lostText, outcome, lost, slots, noLoss]
  · have losses : ¬ (c.lost = [] ∧ c.unreachable = 0) := fun nothing =>
      none (account.noLoss_iff.mp nothing)
    have condition : (!c.lost.isEmpty || decide (0 < c.unreachable)) = true := by
      rw [Bool.or_eq_true, Bool.not_eq_true', decide_eq_true_iff]
      by_contra nothing
      rw [not_or, Bool.not_eq_false, List.isEmpty_iff, Nat.not_lt, Nat.le_zero] at nothing
      exact losses nothing
    simp only [not_forall, Bool.not_eq_false] at none
    obtain ⟨e, member, loss⟩ := none
    have some : es.any Entry.isLoss = true := List.any_eq_true.mpr ⟨e, member, loss⟩
    unfold Outcome.lostText Cohort.lostText
    -- a loss is a failure, and every failure brings a text
    rw [show (!c.outcome.lost.isEmpty || decide (0 < c.outcome.unreachable)) = true from condition,
      some]
    show Option.some (c.firstError.getD "unknown error") = _
    rw [account.firstError_eq]
    cases first : es.findSome? Entry.text? with
    | some message => rfl
    | none =>
      have failure := Entry.isFailure_of_isLoss loss
      rw [findSome_text_eq_none_iff.mp first e member] at failure
      exact absurd failure Bool.false_ne_true

end Cohort.Account

/-! ## The repetition -/

/-- What the repetition of a decision counts and concludes: `asked` are those that it asks, `es` is
what the decision itself counted and `fs` what its repetition counts. -/
structure Repetition (asked : List ParticipantId) (es fs : List Cohort.Entry)
    (conclusion : Conclusion) : Prop where
  account : ∃ c, Cohort.Account asked fs c
  /-- If nothing fails, everyone answers. -/
  unanimous : (∀ f ∈ fs, f.isFailure = false) → ∀ id ∈ asked, ∃ packet, .ok id packet ∈ fs
  concludes : conclusion = .ofFailure (Cohort.failureText es fs)

namespace Docket

variable {d : Docket} {s : Stage} {xs ys zs : List Input} {i : Input} {ids : List ParticipantId}
  {verdict : Verdict}

/-- A cleanup without a cause concludes with what it counted, or with what was lost before. -/
theorem Round.repetition {decision : Intent} {retry : List ParticipantId}
    {es : List Cohort.Entry}
    (round : d.Round (.cleanup decision retry none (Cohort.lostText es)) xs i)
    (opened : d.coordinator.operation.cohort = Cohort.opened ids)
    (reached : verdict ∈ ((d.run xs).step i).2.effect.verdicts ++ (d.after xs i).verdicts ys) :
    Repetition ids es (d.entries (xs ++ [i])) verdict.conclusion := by
  have account := round.account opened
  refine ⟨⟨_, account⟩, ?_, ?_⟩
  · intro noFailure id asked
    exact account.unanimous round.leaves.closes noFailure asked
  · rcases round.lands with ⟨t, next, -⟩ | ⟨⟨v, effect⟩, rests, -⟩
    · -- a cleanup is the last stage
      exact absurd next (by simp [Stage.next])
    · rw [effect, verdicts_of_atRest rests] at reached
      obtain rfl : verdict = v := by simpa [Effect.verdicts] using reached
      have result : (d.atClose xs i).result (.cleanup decision retry none (Cohort.lostText es)) =
          (d.atClose xs i).operation.cohort.outcome :=
        Coordinator.result_of_not_precedes rfl _
      rcases Coordinator.proceed_concludes (round.leaves.effect ▸ effect) with
        ⟨conclusion, next, rfl⟩ | ⟨t, next, -⟩
      · rw [show (d.run xs).absorb i = d.atClose xs i from rfl, result, Stage.next_cleanup,
          Transition.conclude.injEq] at next
        rw [← next, account.failed_outcome]
        unfold Cohort.failureText Outcome.errorText
        show Conclusion.ofFailure (Option.or
          (if _ then some ((d.atClose xs i).operation.cohort.firstError.getD _) else none) _) = _
        rw [account.firstError_eq]
        cases (d.entries (xs ++ [i])).findSome? Cohort.Entry.text? <;> rfl
      · exact absurd next (by simp [Stage.next])

/-- Whoever a decision's repetition asks is bound when the decision's cohort closes, and answered it
with an error. -/
def repeatedTo (d : Docket) (xs : List Input) (i : Input) : List ParticipantId :=
  (d.atClose xs i).session.participantIds.filter
    ((d.entries (xs ++ [i])).filterMap Cohort.Entry.errored?).contains

theorem mem_repeatedTo {id : ParticipantId} : id ∈ d.repeatedTo xs i ↔
    id ∈ (d.atClose xs i).session.participantIds ∧
      ∃ message, .error id message ∈ d.entries (xs ++ [i]) := by
  unfold repeatedTo
  rw [List.mem_filter, List.contains_iff_mem, List.mem_filterMap]
  apply and_congr_right
  intro _
  constructor
  · rintro ⟨e, member, errored⟩
    cases e with
    | error other message =>
      obtain rfl : other = id := Option.some.inj errored
      exact ⟨message, member⟩
    | ok | closed | unreachable => exact absurd errored (by simp [Cohort.Entry.errored?])
  · rintro ⟨message, member⟩
    exact ⟨_, member, rfl⟩

/-- **The repetition.** What follows the stay in `XA COMMIT`, up to the verdict. -/
theorem Stay.repetition (stay : d.Stay .commitAll xs ys i ids)
    (reached : verdict ∈ (((d.run xs).run ys).step i).2.effect.verdicts ++
      ((d.run xs).after ys i).verdicts zs) :
    Repetition ((d.run xs).repeatedTo ys i) ((d.run xs).entries (ys ++ [i]))
      (((d.run xs).after ys i).countedIn Stage.isCleanup zs) verdict.conclusion := by
  have account := stay.round.account stay.enters.opened
  have result : ((d.run xs).atClose ys i).result .commitAll =
      ((d.run xs).atClose ys i).operation.cohort.outcome :=
    Coordinator.result_of_not_precedes rfl _
  have next : Stage.commitAll.next (((d.run xs).atClose ys i).result .commitAll) =
      .enter (.cleanup .commit (((d.run xs).entries (ys ++ [i])).filterMap Cohort.Entry.errored?)
        none (Cohort.lostText ((d.run xs).entries (ys ++ [i])))) := by
    rw [result, Stage.next, account.lostText_outcome]
    show Transition.enter (.cleanup .commit ((d.run xs).atClose ys i).operation.cohort.errored _ _)
      = _
    rw [account.errored_eq]
  rcases stay.round.lands with ⟨t, enters, after, effect, busy⟩ | ⟨⟨v, effect⟩, rests, nobody⟩
  · obtain rfl : _ = t := Transition.enter.inj (next.symm.trans enters)
    have opened : ((d.run xs).after ys i).coordinator.operation.cohort =
        Cohort.opened ((d.run xs).repeatedTo ys i) := by
      rw [after]
      rfl
    rw [effect] at reached
    obtain ⟨us, j, vs, rfl, round, later⟩ := exists_round_of_verdict busy reached
    have nothing : (((d.run xs).after ys i).after us j).countedIn Stage.isCleanup vs = [] := by
      rcases round.lands with ⟨u, moves, -⟩ | ⟨-, rests, -⟩
      · exact absurd moves (by simp [Stage.next])
      · exact countedIn_of_atRest rests
    rw [countedIn_round, nothing, List.append_nil, round.countedIn_of_holds rfl]
    exact round.repetition opened later
  · -- nobody is left to ask
    have asked : (d.run xs).repeatedTo ys i = [] := nobody _ next
    rw [countedIn_of_atRest rests, asked]
    refine ⟨⟨_, .opened⟩, fun _ id member => absurd member List.not_mem_nil, ?_⟩
    rw [effect, verdicts_of_atRest rests] at reached
    obtain rfl : verdict = v := by simpa [Effect.verdicts] using reached
    rcases Coordinator.proceed_concludes (stay.round.leaves.effect ▸ effect) with
      ⟨conclusion, moves, -⟩ | ⟨t, moves, rfl⟩
    · exact absurd (next.symm.trans moves) (by simp)
    · obtain rfl : _ = t := Transition.enter.inj (next.symm.trans moves)
      show Stage.ifNobody _ = .ofFailure (Option.or none (Cohort.lostText _))
      cases Cohort.lostText ((d.run xs).entries (ys ++ [i])) <;> rfl

/-! ## Blame -/

/-- A failure with this text that the decision, or its repetition, is answered with and that is not
mended: it names nobody, or the run does not count who it names as acknowledging the decision
afterwards. -/
def Unmended (d : Docket) (inputs : List Input) (message : String) : Prop :=
  ∃ xs i ys e, inputs = xs ++ i :: ys ∧
    (Moment.mk (d.run xs) i).stage.any Stage.carriesDecision = true ∧
    (Moment.mk (d.run xs) i).entryOf = some e ∧ e.text? = some message ∧
    ∀ id, e.id? = some id → ¬ (d.after xs i).Acknowledged ys id

variable {first : Stage} {message : String}

theorem Stay.countedIn_cleanup (stay : d.Stay .commitAll xs ys i ids)
    (busy : d.coordinator.Running first) :
    d.countedIn Stage.isCleanup (xs ++ (ys ++ i :: zs)) =
      ((d.run xs).after ys i).countedIn Stage.isCleanup zs := by
  have before : d.countedIn Stage.isCleanup xs = [] := by
    apply countedIn_eq_nil
    intro m h
    cases seen : m.stage with
    | none => rfl
    | some u =>
      have high := stay.enters.rank_before busy h seen
      cases u with
      | cleanup => simp [Stage.rank] at high
      | start | prepare | commitAll | rollbackAll | plainCommit | plainRollback => rfl
  rw [countedIn_append, countedIn_round, before, stay.round.countedIn_of_fails rfl]
  rfl

/-- An answer to the decision is counted in `XA COMMIT` or in its repetition. -/
theorem Stay.carries_cases (stay : d.Stay .commitAll xs ys i ids)
    (busy : d.coordinator.Running first) {m : Moment}
    (h : m ∈ d.moments (xs ++ (ys ++ i :: zs)))
    (carries : m.stage.any Stage.carriesDecision = true) :
    m.stage = some .commitAll ∨ ∃ u, m.stage = some u ∧ u.isCleanup = true := by
  cases seen : m.stage with
  | none => simp [seen] at carries
  | some u =>
    rw [seen, Option.any_some] at carries
    rcases stay.stage_cases busy h seen with ⟨-, high⟩ | ⟨-, rfl⟩ | ⟨-, low⟩
    · cases u <;> simp [Stage.carriesDecision, Stage.rank] at carries high
    · exact .inl rfl
    · refine .inr ⟨u, rfl, ?_⟩
      cases u with
      | cleanup => rfl
      | start | prepare | commitAll | rollbackAll | plainCommit | plainRollback =>
        simp [Stage.carriesDecision, Stage.rank] at carries low

/-- Whoever is gone when the cohort of `XA COMMIT` closes is not there in the cleanup. -/
theorem Stay.closesWithout_iff (stay : d.Stay .commitAll xs ys i ids)
    (busy : d.coordinator.Running first) {id : ParticipantId} :
    (∃ m ∈ d.moments (xs ++ (ys ++ i :: zs)), m.closesWithout id = true) ↔
      id ∉ ((d.run xs).atClose ys i).session.participantIds := by
  have attached : ((d.run xs).after ys i).coordinator.session.participantIds =
      ((d.run xs).atClose ys i).session.participantIds :=
    congrArg (List.map Link.id) stay.round.participants_after
  rw [← attached, ← stay.round.closesWithout_iff rfl]
  constructor
  · rintro ⟨m, h, closes⟩
    refine ⟨m, ?_, closes⟩
    cases seen : m.stage with
    | none => simp [Moment.closesWithout, seen] at closes
    | some u =>
      simp only [Moment.closesWithout, seen, Option.any_some, Bool.and_eq_true] at closes
      rcases stay.stage_cases busy h seen with ⟨-, high⟩ | ⟨within, -⟩ | ⟨-, low⟩
      · cases u <;> simp [Stage.isDecision, Stage.rank] at closes high
      · exact within
      · cases u <;> simp [Stage.isDecision, Stage.rank] at closes low
  · rintro ⟨m, h, closes⟩
    refine ⟨m, ?_, closes⟩
    rw [moments_append, moments_round]
    exact List.mem_append_right _ (List.mem_append_left _ h)

/-- A step of a run, found from what it counted. -/
theorem exists_of_mem_countedIn {p : Stage → Bool} {e : Cohort.Entry} {inputs : List Input}
    (counted : e ∈ d.countedIn p inputs) :
    ∃ as j bs u, inputs = as ++ j :: bs ∧ (Moment.mk (d.run as) j).stage = some u ∧ p u = true ∧
      (Moment.mk (d.run as) j).entryOf = some e := by
  obtain ⟨m, inRun, seen, entered⟩ := mem_countedIn.mp counted
  obtain ⟨as, bs, split, found⟩ := exists_of_mem_moments inRun
  obtain ⟨docket, j⟩ := m
  obtain rfl : docket = d.run as := found
  obtain ⟨u, stage, holds⟩ := (Option.any_eq_true _ _).mp seen
  exact ⟨as, j, bs, u, split, stage, holds, entered⟩

theorem mem_moments_of_split (d : Docket) (as : List Input) (j : Input) (bs : List Input) :
    Moment.mk (d.run as) j ∈ d.moments (as ++ j :: bs) := by
  rw [moments_append]
  exact List.mem_append_right _ List.mem_cons_self

/-- Whoever acknowledges the decision after some step is counted as a success by `XA COMMIT`, which
the step then does not come after, or by the cleanup. -/
theorem Stay.accepted_of_acknowledged (stay : d.Stay .commitAll xs ys i ids)
    (busy : d.coordinator.Running first) {as bs : List Input} {j : Input} {u : Stage}
    {id : ParticipantId} (split : xs ++ (ys ++ i :: zs) = as ++ j :: bs)
    (seen : (Moment.mk (d.run as) j).stage = some u)
    (acknowledged : (d.after as j).Acknowledged bs id) :
    (Stage.commitAll.rank ≤ u.rank ∧
        ∃ packet, .ok id packet ∈ d.countedIn (· == .commitAll) (xs ++ (ys ++ i :: zs))) ∨
      ∃ packet, .ok id packet ∈ d.countedIn Stage.isCleanup (xs ++ (ys ++ i :: zs)) := by
  obtain ⟨n, later, acknowledges⟩ := acknowledged
  have inRun : n ∈ d.moments (xs ++ (ys ++ i :: zs)) := by
    rw [split, moments_append]
    exact List.mem_append_right _ (List.mem_cons_of_mem _ later)
  simp only [Moment.acknowledges, Bool.and_eq_true, Option.any_eq_true] at acknowledges
  obtain ⟨carries, e, entered, accepts⟩ := acknowledges
  obtain ⟨packet, rfl⟩ := Cohort.Entry.accepts_iff.mp accepts
  rcases stay.carries_cases busy inRun ((Option.any_eq_true _ _).mpr carries) with
    here | ⟨v, here, cleanup⟩
  · left
    have there : (d.run as).coordinator.Running u :=
      running_of_mem busy (split ▸ mem_moments_of_split d as j bs) seen
    exact ⟨rank_of_later there later here,
      packet, mem_countedIn.mpr ⟨n, inRun, by simp [here], entered⟩⟩
  · exact .inr ⟨packet, mem_countedIn.mpr ⟨n, inRun, by simpa [here] using cleanup, entered⟩⟩

section Failed

variable (stay : d.Stay .commitAll xs ys i ids) (busy : d.coordinator.Running first)
  (repetition : Repetition ((d.run xs).repeatedTo ys i) ((d.run xs).entries (ys ++ [i]))
    (d.countedIn Stage.isCleanup (xs ++ (ys ++ i :: zs))) (.failure message))

include stay busy repetition

/-- A failure of the cleanup is not mended, and the first of them gives the message. -/
theorem Stay.unmended_of_cleanup
    (fails : ∃ f ∈ d.countedIn Stage.isCleanup (xs ++ (ys ++ i :: zs)), f.isFailure = true) :
    d.Unmended (xs ++ (ys ++ i :: zs)) message := by
  obtain ⟨c, account⟩ := repetition.account
  have first : (d.countedIn Stage.isCleanup (xs ++ (ys ++ i :: zs))).findSome? Cohort.Entry.text? =
      some message := by
    have concludes := repetition.concludes
    unfold Cohort.failureText at concludes
    cases text : (d.countedIn Stage.isCleanup (xs ++ (ys ++ i :: zs))).findSome?
        Cohort.Entry.text? with
    | none =>
      obtain ⟨f, counted, failure⟩ := fails
      rw [Cohort.Account.findSome_text_eq_none_iff.mp text f counted] at failure
      exact absurd failure Bool.false_ne_true
    | some other =>
      rw [text, Option.some_or] at concludes
      exact congrArg some (Conclusion.failure.inj concludes).symm
  obtain ⟨f, counted, worded⟩ := List.exists_of_findSome?_eq_some first
  obtain ⟨as, j, bs, u, split, seen, cleanup, entered⟩ := exists_of_mem_countedIn counted
  have carries : (Moment.mk (d.run as) j).stage.any Stage.carriesDecision = true := by
    rw [seen]
    cases u <;> simp_all [Stage.isCleanup, Stage.carriesDecision]
  refine ⟨as, j, bs, f, split, carries, entered, worded, ?_⟩
  intro id named acknowledged
  -- whoever failed in the cleanup has not acknowledged: each is counted there once
  rcases stay.accepted_of_acknowledged busy split seen acknowledged with
    ⟨high, -⟩ | ⟨packet, accepted⟩
  · cases u <;> simp [Stage.isCleanup, Stage.rank] at cleanup high
  · rw [account.entry_unique counted accepted named rfl] at worded
    exact absurd worded (by simp [Cohort.Entry.text?])

/-- A loss that `XA COMMIT` counts is not mended, nor is an error of a participant that is gone when
its cohort closes. -/
theorem Stay.unmended_of_decision {e : Cohort.Entry}
    (counted : e ∈ d.countedIn (· == .commitAll) (xs ++ (ys ++ i :: zs)))
    (worded : e.text? = some message)
    (lasting : e.isLoss = true ∨
      ∃ id, e.id? = some id ∧ d.Forgotten (xs ++ (ys ++ i :: zs)) id) :
    d.Unmended (xs ++ (ys ++ i :: zs)) message := by
  obtain ⟨c, account⟩ := repetition.account
  have decided := stay.round.account stay.enters.opened
  have same := stay.countedIn_eq zs
  obtain ⟨as, j, bs, u, split, seen, here, entered⟩ := exists_of_mem_countedIn counted
  obtain rfl : u = .commitAll := eq_of_beq here
  refine ⟨as, j, bs, e, split, by simp [seen, Stage.carriesDecision], entered, worded, ?_⟩
  intro id named acknowledged
  rcases stay.accepted_of_acknowledged busy split seen acknowledged with
    ⟨-, packet, accepted⟩ | ⟨packet, accepted⟩
  · -- one answer is counted of each participant
    rw [same] at counted accepted
    rw [decided.entry_unique counted accepted named rfl] at worded
    exact absurd worded (by simp [Cohort.Entry.text?])
  · -- the cleanup asks those who are bound and have answered with an error
    obtain ⟨bound, message, refused⟩ := mem_repeatedTo.mp (account.asked accepted rfl)
    rw [same] at counted
    obtain rfl := decided.entry_unique counted refused named rfl
    rcases lasting with loss | ⟨other, names, -, gone⟩
    · exact absurd loss (by simp [Cohort.Entry.isLoss])
    · obtain rfl : id = other := Option.some.inj names
      exact (stay.closesWithout_iff busy).mp gone bound

/-- **Blame.** The message of a failed commit is that of a failure not mended iff the cleanup
counted a failure, or `XA COMMIT` counted one with this text that the cleanup could not mend: a loss,
or an error of a participant that was gone by then. -/
theorem Stay.unmended_iff :
    d.Unmended (xs ++ (ys ++ i :: zs)) message ↔
      (∃ f ∈ d.countedIn Stage.isCleanup (xs ++ (ys ++ i :: zs)), f.isFailure = true) ∨
        ∃ e ∈ d.countedIn (· == .commitAll) (xs ++ (ys ++ i :: zs)), e.text? = some message ∧
          (e.isLoss = true ∨
            ∃ id, e.id? = some id ∧ d.Forgotten (xs ++ (ys ++ i :: zs)) id) := by
  constructor
  · rintro ⟨as, j, bs, e, split, carries, entered, worded, unacknowledged⟩
    have inRun : Moment.mk (d.run as) j ∈ d.moments (xs ++ (ys ++ i :: zs)) :=
      split ▸ mem_moments_of_split d as j bs
    have failure : e.isFailure = true := by
      rw [← e.isSome_text, worded]
      rfl
    rcases stay.carries_cases busy inRun carries with here | ⟨u, here, cleanup⟩
    · by_cases fails : ∃ f ∈ d.countedIn Stage.isCleanup (xs ++ (ys ++ i :: zs)), f.isFailure = true
      · exact .inl fails
      · refine .inr ⟨e, mem_countedIn.mpr ⟨_, inRun, by simp [here], entered⟩, worded, ?_⟩
        cases e with
        | ok => simp [Cohort.Entry.isFailure] at failure
        | closed | unreachable => exact .inl rfl
        | error id text =>
          have refuses : (Moment.mk (d.run as) j).refuses id = true := by
            simp [Moment.refuses, here, Stage.isDecision, entered, Cohort.Entry.refuses]
          refine .inr ⟨id, rfl, ⟨_, inRun, refuses⟩, (stay.closesWithout_iff busy).mpr ?_⟩
          -- were it still bound, the cleanup would have asked it, and it would have acknowledged
          intro bound
          have counted : .error id text ∈ (d.run xs).entries (ys ++ [i]) := by
            rw [← stay.countedIn_eq zs]
            exact mem_countedIn.mpr ⟨_, inRun, by simp [here], entered⟩
          have noFailure : ∀ f ∈ d.countedIn Stage.isCleanup (xs ++ (ys ++ i :: zs)),
              f.isFailure = false := by
            intro f member
            rw [← Bool.not_eq_true]
            exact fun failure => fails ⟨f, member, failure⟩
          obtain ⟨packet, accepted⟩ :=
            repetition.unanimous noFailure id (mem_repeatedTo.mpr ⟨bound, text, counted⟩)
          obtain ⟨n, inCleanup, seen, accepts⟩ := mem_countedIn.mp accepted
          obtain ⟨u, stage, cleanup⟩ := (Option.any_eq_true _ _).mp seen
          have there : (d.run as).coordinator.Running .commitAll := running_of_mem busy inRun here
          have low : u.rank < Stage.commitAll.rank := by
            cases u <;> simp_all [Stage.isCleanup, Stage.rank]
          rw [split] at inCleanup
          refine unacknowledged id rfl ⟨n, later_of_rank busy there inCleanup stage low, ?_⟩
          cases u <;>
            simp_all [Moment.acknowledges, Stage.isCleanup, Stage.carriesDecision,
              Cohort.Entry.accepts]
    · exact .inl ⟨e, mem_countedIn.mpr ⟨_, inRun, by simpa [here] using cleanup, entered⟩, failure⟩
  · rintro (fails | ⟨e, counted, worded, lasting⟩)
    · exact stay.unmended_of_cleanup busy repetition fails
    · exact stay.unmended_of_decision busy repetition counted worded lasting

end Failed

/-- What a decided commit fails with, and whether it is the text of a failure not mended. -/
theorem Fresh.unmended_iff {inputs : List Input} (fresh : d.Fresh first ids)
    (decides : ∃ m ∈ d.moments inputs, m.stage = some .commitAll)
    (reached : verdict ∈ d.verdicts inputs) (failed : verdict.conclusion = .failure message) :
    Cohort.failureText (d.countedIn (· == .commitAll) inputs)
        (d.countedIn Stage.isCleanup inputs) = some message ∧
      (d.Unmended inputs message ↔
        (∃ f ∈ d.countedIn Stage.isCleanup inputs, f.isFailure = true) ∨
          ∃ e ∈ d.countedIn (· == .commitAll) inputs, e.text? = some message ∧
            (e.isLoss = true ∨ ∃ id, e.id? = some id ∧ d.Forgotten inputs id)) := by
  obtain ⟨m, inRun, seen⟩ := decides
  -- the run is cut where the decision is sent, and where its cohort closes
  obtain ⟨xs, rest, asked, rfl, -, enters⟩ := exists_enters fresh.busy fresh.opened inRun seen
  rw [verdicts_append, verdicts_eq_nil_of_running fresh.busy enters.busy, List.nil_append] at reached
  obtain ⟨ys, i, zs, rfl, round, later⟩ := exists_round_of_verdict enters.busy reached
  have stay : d.Stay .commitAll xs ys i asked := ⟨enters, round⟩
  have repetition := stay.repetition later
  rw [failed, ← stay.countedIn_cleanup fresh.busy] at repetition
  refine ⟨?_, stay.unmended_iff fresh.busy repetition⟩
  have concludes := repetition.concludes
  rw [stay.countedIn_eq]
  cases text : Cohort.failureText ((d.run xs).entries (ys ++ [i]))
      (d.countedIn Stage.isCleanup (xs ++ (ys ++ i :: zs))) with
  | none =>
    rw [text] at concludes
    exact absurd concludes (by simp [Conclusion.ofFailure])
  | some other =>
    rw [text] at concludes
    exact congrArg some (Conclusion.failure.inj concludes).symm

end Docket

/-- **Which failure a failed commit names.** The message of a commit that is decided and fails is the
first text that the cleanup counted or, if it counted none, the first that `XA COMMIT` counted. It is
the text of a failure that is not mended iff the cleanup counted a failure, or `XA COMMIT` counted a
failure with this text that the cleanup could not mend: a loss, or an error of a participant that was
gone when its cohort closed. On an open session the client is sent that message. -/
theorem commit_names_unmended_iff {c begun : Coordinator} {first : Stage} {effect : Effect}
    {d : Docket} {inputs : List Input} {verdict : Verdict} {message : String}
    (h : c.begin first = (begun, .ok effect)) (start : d = Docket.ofBegun begun effect)
    (decides : ∃ m ∈ d.moments inputs, m.stage = some .commitAll)
    (reached : verdict ∈ d.verdicts inputs) (failed : verdict.conclusion = .failure message) :
    Cohort.failureText (d.countedIn (· == .commitAll) inputs)
        (d.countedIn Stage.isCleanup inputs) = some message ∧
      (d.Unmended inputs message ↔
        (∃ f ∈ d.countedIn Stage.isCleanup inputs, f.isFailure = true) ∨
          ∃ e ∈ d.countedIn (· == .commitAll) inputs, e.text? = some message ∧
            (e.isLoss = true ∨ ∃ id, e.id? = some id ∧ d.Forgotten inputs id)) ∧
      (¬ d.Interrupted inputs → c.session.isClosed = false → (∀ i ∈ inputs, i.closes = false) →
        (d.run inputs).untold = [] →
        d.packets inputs = [Coordinator.errorPacket (c.session.packetId + 1) message]) := by
  subst start
  rcases Docket.fresh_or_atRest h with ⟨ids, fresh⟩ | rests
  case inr =>
    obtain ⟨m, inRun, seen⟩ := decides
    rw [Docket.stage_of_atRest rests inRun] at seen
    exact absurd seen (by simp)
  obtain ⟨numbered, sameClosed⟩ := Coordinator.session_begin h
  obtain ⟨text, blames⟩ := fresh.unmended_iff decides reached failed
  refine ⟨text, blames, ?_⟩
  intro quiet reachable stays told
  -- without an interrupt the verdict's packet is the only one
  rw [Docket.packets_of_running fresh.busy fresh.uninterrupted fresh.untold quiet
    (sameClosed.trans reachable) stays reached told]
  show [Coordinator.verdictPacket (begun.session.packetId + 1) verdict] = _
  rw [numbered, Coordinator.verdictPacket, failed]

namespace Sample

/-- The first shard has to be asked twice to commit, and the second is lost. -/
def blamed : List Input :=
  votes ++ [.event (.error shardA.id (some 1205) "busy"), .event (.closed shardB "gone"),
    ok shardA, .tell]

/-- The same with the loss counted first. -/
def owned : List Input :=
  votes ++ [.event (.closed shardB "gone"), .event (.error shardA.id (some 1205) "busy"),
    ok shardA, .tell]

end Sample

open Sample in
/-- The case of two shards, of which one is lost before the other has to be asked twice: the loss is
named. -/
theorem commit_of_two_names_loss :
    (coordinator true).beginCommit = (started.1, .ok started.2) ∧
      outset.Unmended owned (shardB.info.closedMessage "gone") ∧
      outset.packets owned =
        [Coordinator.errorPacket 1 (shardB.info.closedMessage "gone")] := by
  have reached : ⟨.failure (shardB.info.closedMessage "gone"), some okFrame, false⟩ ∈
      outset.verdicts owned := by decide +kernel
  obtain ⟨-, blames, told⟩ :=
    commit_names_unmended_iff begins (d := outset) rfl (by decide +kernel) reached rfl
  have lost : Cohort.Entry.closed shardB.id (shardB.info.closedMessage "gone") ∈
      outset.countedIn (· == .commitAll) owned := by decide +kernel
  exact ⟨begins, blames.mpr (.inr ⟨_, lost, rfl, .inl rfl⟩),
    told (by decide +kernel) rfl (by decide +kernel) (by decide +kernel)⟩

open Sample in
/-- **A mended error is named.** The first shard answers `XA COMMIT` with an error and the second is
lost. The cleanup mends the error, and the commit fails with its text all the same. -/
theorem commit_names_mended_error :
    (coordinator true).beginCommit = (started.1, .ok started.2) ∧
      ⟨.failure "busy", some okFrame, false⟩ ∈ outset.verdicts blamed ∧
      outset.packets blamed = [Coordinator.errorPacket 1 "busy"] ∧
      ¬ outset.Unmended blamed "busy" := by
  have reached : ⟨.failure "busy", some okFrame, false⟩ ∈ outset.verdicts blamed := by decide +kernel
  refine ⟨begins, reached, by decide +kernel, ?_⟩
  rcases Docket.fresh_or_atRest begins with ⟨ids, fresh⟩ | rests
  · rw [(Docket.Fresh.unmended_iff (d := outset) fresh (by decide +kernel) reached rfl).2]
    have mended : ∀ f ∈ outset.countedIn Stage.isCleanup blamed, ¬ f.isFailure = true := by
      decide +kernel
    have only : ∀ e ∈ outset.countedIn (· == .commitAll) blamed, e.text? = some "busy" →
        e = .error shardA.id "busy" := by decide +kernel
    have bound : ¬ outset.Forgotten blamed shardA.id := by decide +kernel
    rintro (⟨f, counted, failure⟩ | ⟨e, counted, worded, lasting⟩)
    · exact mended f counted failure
    · obtain rfl := only e counted worded
      rcases lasting with loss | ⟨id, names, forgotten⟩
      · exact absurd loss (by simp [Cohort.Entry.isLoss])
      · obtain rfl : shardA.id = id := Option.some.inj names
        exact bound forgotten
  · have inFlight : outset.coordinator.operation.stage = some (.start .commit) := by decide +kernel
    rw [show outset.coordinator.operation = {} from rests] at inFlight
    exact absurd inFlight (by simp)

end AtomicCommit
