import AtomicCommit.Proofs.Identity

/-!
# Why the last operation was interrupted

A session has on record why an operation was interrupted. The first interrupt that an operation
accepts is put on record, and nothing else touches the record: no operation that begins and none that
ends takes it back. So what is on record after an operation is about that operation if it was
interrupted, and about an earlier one if it was not.

* **step** — `Docket.record_act`: an act leaves the record alone unless it calls an operation off.
* **operation** — `Docket.record_of_uncalled`: what an operation puts on record, by induction on its
  acts, after `Docket.record_of_silent` for what follows the first interrupt.
* **life** — `Docket.record_eq_none_iff`: nothing is on record iff nothing was ever interrupted.
-/

namespace AtomicCommit

open Wire

/-! ## What is on record -/

/-- Whether an act puts a reason on record without interrupting anything. -/
def Act.records : Act → Bool
  | .setInterruptReason _ => true
  | _ => false

namespace Docket

/-- Why the last operation was interrupted, as far as the session knows. -/
def record (d : Docket) : Option String :=
  d.coordinator.session.interruptReason

/-- Whether the operation in flight was interrupted. -/
def calledOff (d : Docket) : Bool :=
  d.coordinator.operation.interrupted.isSome

/-- The reason of an interrupt that is accepted. -/
def accepted? (d : Docket) : Act → Option String
  | .input (.interrupt reason) =>
    match d.coordinator.interrupt reason with
    | .ok _ => some reason
    | .error _ => none
  | _ => none

/-- The reasons of the interrupts that are accepted in a life, in order. -/
def reasons (d : Docket) (acts : List Act) : List String :=
  (d.scenes acts).filterMap fun m => m.docket.accepted? m.act

/-- Whether an operation begins in a life. -/
def Begins (d : Docket) (acts : List Act) : Prop :=
  ∃ m ∈ d.scenes acts, (m.docket.opening? m.act).isSome = true

variable {d : Docket} {a : Act} {acts : List Act} {s : Stage}

theorem reasons_cons (d : Docket) (a : Act) (rest : List Act) :
    d.reasons (a :: rest) = (d.accepted? a).toList ++ (d.act a).reasons rest := by
  unfold reasons
  rw [scenes, List.filterMap_cons]
  dsimp only
  cases d.accepted? a <;> rfl

theorem not_begins_cons {rest : List Act} (alone : ¬ d.Begins (a :: rest)) :
    d.opening? a = none ∧ ¬ (d.act a).Begins rest := by
  constructor
  · by_contra opens
    exact alone ⟨⟨d, a⟩, List.mem_cons_self, Option.isSome_iff_ne_none.mpr opens⟩
  · rintro ⟨m, later, opens⟩
    exact alone ⟨m, List.mem_cons_of_mem _ later, opens⟩

theorem calledOff_of_atRest (rest : d.coordinator.AtRest) : d.calledOff = false := by
  unfold calledOff
  rw [show d.coordinator.operation = {} from rest]
  rfl

theorem accepted?_of_atRest (rest : d.coordinator.AtRest) (a : Act) : d.accepted? a = none := by
  cases a with
  | input i =>
    cases i with
    | interrupt reason =>
      simp only [accepted?]
      rw [interrupt_of_atRest rest]
    | _ => rfl
  | _ => rfl

/-- While a stage is running every interrupt is accepted. -/
theorem accepted?_of_running (running : d.coordinator.Running s) (i : Input) :
    d.accepted? (.input i) = i.reason? := by
  cases i with
  | interrupt reason =>
    obtain ⟨session, packet, -, accepted⟩ := Coordinator.interrupt_of_running running reason
    simp only [accepted?, accepted]
    rfl
  | event | tell | closeSession | clientClosed => rfl

end Docket

/-! ## One act -/

namespace Coordinator

theorem interruptReason_handle {c : Coordinator} (settled : c.Settled) (e : Event) :
    (c.handle e).1.session.interruptReason = c.session.interruptReason := by
  obtain ⟨on, same⟩ := session_handle settled e
  rw [same]
  cases e <;> rfl

theorem interruptReason_begin {c : Coordinator} (idle : c.operation.stage = none) (s : Stage) :
    (c.begin s).1.session.interruptReason = c.session.interruptReason := by
  rw [begin_eq_follow idle]
  obtain ⟨on, same⟩ := (c.fresh s).session_follow (.enter s) none
  dsimp only
  rw [same]
  unfold fresh
  split <;> rfl

theorem interruptReason_conclude (c : Coordinator) (verdict : Verdict) :
    (c.conclude verdict).1.session.interruptReason = c.session.interruptReason := by
  unfold conclude
  dsimp only
  split <;> rfl

end Coordinator

namespace Docket

variable {d : Docket} {a : Act} {acts : List Act} {s : Stage}

theorem record_begun (out : Coordinator × Except Fault Effect) :
    (d.begun out).record = out.1.session.interruptReason := by
  obtain ⟨c, _ | effect⟩ := out <;> rfl

theorem record_step (settled : d.coordinator.Settled) (i : Input) :
    (d.step i).1.record =
      (if d.calledOff then none else d.accepted? (.input i)).or d.record := by
  cases i with
  | event e =>
    rw [show d.accepted? (.input (.event e)) = none from rfl, ite_self, Option.none_or]
    exact Coordinator.interruptReason_handle settled e
  | interrupt reason =>
    rcases settled with ⟨s, running⟩ | rest
    · rw [accepted?_of_running running]
      -- An interrupt after the first one of the same operation leaves the record as it is.
      cases before : d.coordinator.operation.interrupted with
      | some first =>
        have again := Coordinator.interrupt_of_interrupted running (by simp [before]) reason
        simp [step, again, calledOff, before]
      | none =>
        have first := Coordinator.interrupt_of_uninterrupted running before reason
        simp only [step, first, calledOff, before, record]
        split <;> rfl
    · rw [accepted?_of_atRest rest, ite_self, Option.none_or]
      simp [step, interrupt_of_atRest rest reason]
  | tell =>
    rw [show d.accepted? (.input .tell) = none from rfl, ite_self, Option.none_or]
    simp only [step]
    split
    · rfl
    · exact Coordinator.interruptReason_conclude _ _
  | closeSession | clientClosed =>
    simp only [accepted?, ite_self, Option.none_or]
    rfl

/-- **Step.** An act leaves the record alone, unless it is the first interrupt that an operation
accepts. -/
theorem record_act (settled : d.coordinator.Settled) (other : a.records = false) :
    (d.act a).record = (if d.calledOff then none else d.accepted? a).or d.record := by
  -- Whatever records nothing gives no reason, so the right-hand side falls back on the record.
  have unheard : d.accepted? a = none → (d.act a).record = d.record →
      (d.act a).record = (if d.calledOff then none else d.accepted? a).or d.record := by
    intro none same
    rw [none, ite_self, Option.none_or, same]
  cases opens : d.opening? a with
  | some t =>
    obtain ⟨idle, begins, -⟩ := idle_of_opening opens
    have rest : d.coordinator.AtRest := settled.atRest idle
    refine unheard (accepted?_of_atRest rest a) ?_
    rw [begins, record_begun]
    exact Coordinator.interruptReason_begin idle t
  | none =>
    cases a with
    | input i => exact record_step settled i
    | begin stage | commit | rollback =>
      exact unheard rfl (congrArg record (begun_of_refused settled opens rfl))
    | attach link =>
      refine unheard rfl ?_
      show (d.coordinator.session.attach link).interruptReason = _
      unfold Session.attach
      dsimp only
      split <;> split <;> rfl
    | setInterruptReason reason => exact absurd other (by simp [Act.records])
    | _ => exact unheard rfl rfl

/-- An operation that begins was not interrupted yet. -/
theorem calledOff_of_opening (opens : d.opening? a = some s) : (d.act a).calledOff = false := by
  obtain ⟨idle, begins, -⟩ := idle_of_opening opens
  rw [begins, Coordinator.begin_eq_follow idle]
  have fresh := Coordinator.interrupted_fresh d.coordinator s
  by_cases nobody : s.targets (d.coordinator.fresh s).session.participantIds = []
  · rw [Coordinator.follow_of_nobody nobody]
    rfl
  · rw [Coordinator.follow_of_somebody nobody]
    simp [calledOff, begun, file, Coordinator.landed, fresh]

/-- An operation is called off by the first interrupt that it accepts, and stays so until its end. -/
theorem calledOff_act (settled : d.coordinator.Settled) (opens : d.opening? a = none) :
    (d.act a).coordinator.AtRest ∨
      (d.act a).calledOff = (d.calledOff || (d.accepted? a).isSome) := by
  rcases settled with ⟨s, running⟩ | rest
  · cases a with
    | input i =>
      -- What an input does to the mark is done before the stage is left, if it is left at all.
      have absorbed : ((d.absorb i).operation.interrupted).isSome =
          (d.calledOff || (d.accepted? (.input i)).isSome) := by
        rw [interrupted_absorb running, accepted?_of_running running, Option.isSome_or]
        rfl
      rcases step_turn running i with stays | leaves
      · right
        rw [← absorbed, ← stays.after]
        rfl
      · rcases leaves.lands running with ⟨t, -, after, -, -⟩ | ⟨-, rests, -⟩
        · right
          rw [← absorbed]
          exact congrArg (·.operation.interrupted.isSome) after
        · exact .inl rests
    | begin stage | commit | rollback =>
      right
      have same := begun_of_refused (.inl ⟨s, running⟩) opens rfl
      rw [show d.accepted? _ = none from rfl, Option.isSome_none, Bool.or_false]
      exact congrArg calledOff same
    | _ => exact .inr (Bool.or_false _).symm
  · exact .inl (act_of_atRest rest opens).2

/-! ## One operation -/

/-- Nothing is put on record any more before another operation begins. -/
def Silent (d : Docket) : Prop :=
  d.calledOff = true ∨ d.coordinator.AtRest

theorem Silent.act (silent : d.Silent) (settled : d.coordinator.Settled)
    (opens : d.opening? a = none) (other : a.records = false) :
    (d.act a).Silent ∧ (d.act a).record = d.record := by
  rw [record_act settled other]
  rcases silent with calledOff | rest
  · refine ⟨?_, by rw [calledOff, if_pos rfl, Option.none_or]⟩
    rcases calledOff_act settled opens with rests | same
    · exact .inr rests
    · exact .inl (by rw [same, calledOff, Bool.true_or])
  · exact ⟨.inr (act_of_atRest rest opens).2,
      by rw [accepted?_of_atRest rest, ite_self, Option.none_or]⟩

theorem record_of_silent (silent : d.Silent) (settled : d.coordinator.Settled)
    (alone : ¬ d.Begins acts) (unset : ∀ a ∈ acts, a.records = false) :
    (d.live acts).record = d.record := by
  induction acts generalizing d with
  | nil => rfl
  | cons a rest ih =>
    obtain ⟨opens, aloneNext⟩ := not_begins_cons alone
    rw [List.forall_mem_cons] at unset
    obtain ⟨silentNext, same⟩ := silent.act settled opens unset.1
    exact (ih silentNext (settled_act settled a) aloneNext unset.2).trans same

/-- **Operation.** Until another operation begins, the first interrupt that is accepted is put on
record. -/
theorem record_of_uncalled (uncalled : d.calledOff = false) (settled : d.coordinator.Settled)
    (alone : ¬ d.Begins acts) (unset : ∀ a ∈ acts, a.records = false) :
    (d.live acts).record = (d.reasons acts).head?.or d.record := by
  induction acts generalizing d with
  | nil => rfl
  | cons a rest ih =>
    obtain ⟨opens, aloneNext⟩ := not_begins_cons alone
    rw [List.forall_mem_cons] at unset
    have settledNext := settled_act settled a
    have next := record_act settled unset.1
    rw [uncalled, if_neg Bool.false_ne_true] at next
    have called := calledOff_act settled opens
    rw [uncalled, Bool.false_or] at called
    rw [reasons_cons]
    -- Up to the first reason the operation stays uncalled; from there on it is silent.
    cases heard : d.accepted? a with
    | some reason =>
      rw [heard, Option.isSome_some] at called
      have kept := record_of_silent (d := d.act a) called.symm settledNext aloneNext unset.2
      rw [show (d.live (a :: rest)).record = _ from kept, next, heard]
      rfl
    | none =>
      rw [heard, Option.isSome_none] at called
      have uncalledNext : (d.act a).calledOff = false := by
        rcases called with rests | same
        · exact calledOff_of_atRest rests
        · exact same
      rw [heard, Option.none_or] at next
      have kept := ih uncalledNext settledNext aloneNext unset.2
      rw [next] at kept
      exact kept

/-! ## A life -/

/-- **Life.** Nothing is on record iff no interrupt was ever accepted. The invariant is that an
operation that was called off is on record. -/
theorem record_eq_none_iff (settled : d.coordinator.Settled)
    (recorded : d.calledOff = true → d.record ≠ none) (unset : ∀ a ∈ acts, a.records = false) :
    (d.live acts).record = none ↔ d.record = none ∧ d.reasons acts = [] := by
  induction acts generalizing d with
  | nil => simp [live, reasons, scenes]
  | cons a rest ih =>
    rw [List.forall_mem_cons] at unset
    have next := record_act settled unset.1
    rw [reasons_cons]
    -- The invariant: a mark on the operation means that something has been recorded.
    cases heard : d.accepted? a with
    | some reason =>
      have kept : (d.act a).record ≠ none := by
        rw [next, heard]
        cases called : d.calledOff with
        | true => simpa using recorded called
        | false => simp
      have later := ih (settled_act settled a) (fun _ => kept) unset.2
      simp only [Option.toList_some, List.cons_append, reduceCtorEq, and_false, iff_false]
      exact fun none => kept (later.mp none).1
    | none =>
      rw [heard, ite_self, Option.none_or] at next
      have recordedNext : (d.act a).calledOff = true → (d.act a).record ≠ none := by
        intro called
        cases opens : d.opening? a with
        | some s =>
          rw [calledOff_of_opening opens] at called
          exact absurd called Bool.false_ne_true
        | none =>
          rcases calledOff_act settled opens with rests | same
          · rw [calledOff_of_atRest rests] at called
            exact absurd called Bool.false_ne_true
          · rw [heard, Option.isSome_none, Bool.or_false] at same
            rw [next]
            exact recorded (same ▸ called)
      have later := ih (settled_act settled a) recordedNext unset.2
      rw [next] at later
      exact later

theorem record_act_of_opening (opens : (d.opening? a).isSome = true) :
    (d.act a).record = d.record := by
  obtain ⟨s, opening⟩ := Option.isSome_iff_exists.mp opens
  obtain ⟨idle, begins, -⟩ := idle_of_opening opening
  rw [begins, record_begun]
  exact Coordinator.interruptReason_begin idle s

end Docket

/-- **What is on record.** Take any life of a session, and an operation that begins in it, until
another one begins. What is on record then is the reason of the first interrupt that the operation
accepted or, if it accepted none, what was on record when it began. Nothing was on record iff no
operation had been interrupted before. So the record is about the operation, whether or not it has
concluded, iff the operation was interrupted or none before it was. -/
theorem record_describes_last_iff {id : UInt64} {issuer : String} {d : Docket}
    {history acts : List Act} {a : Act} (past : d = (Docket.born id issuer).live history)
    (unset : ∀ b ∈ history ++ acts, b.records = false) (opens : (d.opening? a).isSome = true)
    (alone : ¬ (d.act a).Begins acts) :
    ((d.act a).live acts).record = ((d.act a).reasons acts).head?.or d.record ∧
      (d.record = none ↔ (Docket.born id issuer).reasons history = []) ∧
      (((d.act a).live acts).record = ((d.act a).reasons acts).head? ↔
        (d.act a).reasons acts ≠ [] ∨ (Docket.born id issuer).reasons history = []) := by
  obtain ⟨before, during⟩ := List.forall_mem_append.mp unset
  have settled : d.coordinator.Settled := past ▸ Docket.settled_live (Docket.settled_born ..) _
  have uncalled : (d.act a).calledOff = false := by
    obtain ⟨s, opening⟩ := Option.isSome_iff_exists.mp opens
    exact Docket.calledOff_of_opening opening
  have first := Docket.record_of_uncalled uncalled (Docket.settled_act settled a) alone during
  rw [Docket.record_act_of_opening opens] at first
  have earlier : d.record = none ↔ (Docket.born id issuer).reasons history = [] := by
    rw [past, Docket.record_eq_none_iff (Docket.settled_born ..) (by simp [Docket.calledOff,
      Docket.born]) before]
    exact and_iff_right rfl
  refine ⟨first, earlier, ?_⟩
  rw [first, ← earlier]
  cases (d.act a).reasons acts with
  | nil => simp
  | cons reason rest => simp

namespace Sample

/-- A commit that is interrupted before it is answered. -/
def killed : List Act :=
  [.attach shardA, .commit, .input (.interrupt "killed"), .input (ok shardA), .input .tell]

end Sample

open Sample in
/-- The case of a commit that is interrupted twice, after one that was interrupted, too. -/
theorem record_of_interrupted_again :
    let d := ((Docket.born 7 "x").live (killed ++ [.attach shardA])).act .commit
    (d.live [.input (.interrupt "slow"), .input (.interrupt "late"), .input (ok shardA)]).record =
      some "slow" := by
  intro d
  have described := @record_describes_last_iff 7 "x" _ (killed ++ [.attach shardA])
    [.input (.interrupt "slow"), .input (.interrupt "late"), .input (ok shardA)] .commit rfl
    (by decide) (by decide +kernel) (by unfold Docket.Begins; decide +kernel)
  have reasons : d.reasons
      [.input (.interrupt "slow"), .input (.interrupt "late"), .input (ok shardA)] =
        ["slow", "late"] := by
    decide +kernel
  refine (described.2.2.mpr (.inl ?_)).trans ?_
  · rw [reasons]
    simp
  · rw [reasons]
    rfl

open Sample in
/-- **A stale record.** A commit succeeds without an interrupt, and the reason of an earlier
interrupt is on record when it has concluded. -/
theorem record_of_uninterrupted :
    let d := ((Docket.born 7 "x").live (killed ++ [.attach shardA])).act .commit
    let acts := [.input (ok shardA), .input .tell]
    d.reasons acts = [] ∧ d.verdictsOf acts = [⟨.success, some okFrame, false⟩] ∧
      (d.live acts).coordinator.inFlight = false ∧ (d.live acts).record = some "killed" := by
  decide +kernel

end AtomicCommit
