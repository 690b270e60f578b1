import AtomicCommit.Proofs.Acknowledgement
import AtomicCommit.Proofs.Scene

/-!
# Giving commands out

A stage gives out its commands in session order, and they are sent one by one. What is sent may fail
at any time, and then the stage after it can be entered while commands of this one are still to be
sent. A `Dispatch` keeps the books: the orders given out, those still to be sent, those sent, and
what the cohorts have counted.

* **stages** — `Stage.Visits.courses`: the commands of the stages that an operation visits begin one
  of the courses of its first stage.
* **giving out** — `Dispatch.Charted`: whoever is still bound was given the command of every stage
  visited, and of a cleanup if its error was counted.
* **the second copy** — `Charted.repeats_take`: a decision is repeated when its stage is left, to
  those whose error it counted, and at no other time.
-/

namespace AtomicCommit

open Wire

/-! ## Courses -/

namespace Stage

/-- The commands that can be sent from this stage on. -/
def courses : Stage → List (List CommandKind)
  | .start .commit => [[.xaEnd, .xaPrepare, .xaCommit, .xaCommit],
      [.xaEnd, .xaPrepare, .xaRollback, .xaRollback], [.xaEnd, .xaRollback, .xaRollback]]
  | .start .rollback => [[.xaEnd, .xaRollback, .xaRollback]]
  | .prepare => [[.xaPrepare, .xaCommit, .xaCommit], [.xaPrepare, .xaRollback, .xaRollback]]
  | .commitAll => [[.xaCommit, .xaCommit]]
  | .rollbackAll _ => [[.xaRollback, .xaRollback]]
  | .cleanup .commit .. => [[.xaCommit]]
  | .cleanup .rollback .. => [[.xaRollback]]
  | .plainCommit => [[.commit]]
  | .plainRollback => [[.rollback]]

/-- A course of the next stage goes on one of this. -/
theorem cons_mem_courses {s t : Stage} {o : Outcome} (h : s.next o = .enter t)
    {course : List CommandKind} (mem : course ∈ t.courses) : s.command :: course ∈ s.courses := by
  cases s with
  | start intent =>
    cases intent with
    | commit =>
      simp only [next, Transition.enter.injEq] at h
      subst h
      cases failed : o.failed with
      | true => simp_all [courses, command]
      | false =>
        -- behind XA END, what is left of a course tells whether the branch failed
        have either : course = [.xaPrepare, .xaCommit, .xaCommit] ∨
            course = [.xaPrepare, .xaRollback, .xaRollback] := by
          simpa [failed, courses] using mem
        rcases either with rfl | rfl <;> simp [courses, command]
    | rollback =>
      simp only [next, Transition.enter.injEq] at h
      subst h
      simp_all [courses, command]
  | prepare =>
    simp only [next, Transition.enter.injEq] at h
    subst h
    cases failed : o.failed <;> simp_all [courses, command]
  | commitAll | rollbackAll cause =>
    simp only [next, Transition.enter.injEq] at h
    subst h
    simp_all [courses, command]
  | cleanup decision retry cause lost => cases cause <;> simp [next] at h
  | plainCommit | plainRollback => simp [next] at h

/-- Every stage has a course, which begins with its command. -/
theorem exists_course (s : Stage) : ∃ rest, s.command :: rest ∈ s.courses := by
  cases s with
  | start intent => cases intent <;> exact ⟨_, List.mem_cons_self⟩
  | cleanup decision => cases decision <;> exact ⟨_, List.mem_cons_self⟩
  | prepare | commitAll | rollbackAll | plainCommit | plainRollback =>
    exact ⟨_, List.mem_cons_self⟩

theorem mem_of_target {s : Stage} {ids : List ParticipantId} {id : ParticipantId}
    (target : id ∈ s.targets ids) : id ∈ ids := by
  rw [← s.filter_targets] at target
  exact (List.mem_filter.mp target).1

/-- Whether the stage repeats a decision. -/
def isCleanup : Stage → Bool
  | .cleanup .. => true
  | _ => false

/-- A stage that is followed by another is no cleanup. -/
theorem not_isCleanup_of_next {s t : Stage} {o : Outcome} (h : s.next o = .enter t) :
    s.isCleanup = false := by
  cases s with
  | cleanup decision retry cause lost => cases cause <;> simp [next] at h
  | start | prepare | commitAll | rollbackAll | plainCommit | plainRollback => rfl

/-- Only a decision is followed by a cleanup. -/
theorem isDecision_of_next {s t : Stage} {o : Outcome} (h : s.next o = .enter t)
    (cleanup : t.isCleanup = true) : s.isDecision = true := by
  cases s with
  | commitAll | rollbackAll cause => rfl
  | start intent =>
    cases intent <;>
      · simp only [next, Transition.enter.injEq] at h
        subst h
        cases failed : o.failed <;> simp_all [isCleanup]
  | prepare =>
    simp only [next, Transition.enter.injEq] at h
    subst h
    cases failed : o.failed <;> simp_all [isCleanup]
  | cleanup decision retry cause lost => cases cause <;> simp [next] at h
  | plainCommit | plainRollback => simp [next] at h

theorem targets_of_not_isCleanup {s : Stage} (asksAll : s.isCleanup = false)
    (ids : List ParticipantId) : s.targets ids = ids := by
  cases s with
  | cleanup => exact absurd asksAll (by simp [isCleanup])
  | start | prepare | commitAll | rollbackAll | plainCommit | plainRollback => rfl

/-- The stages `past` are visited one after the other from `first` on, and then `last`. -/
inductive Visits (first : Stage) : List Stage → Stage → Prop where
  | first : Visits first [] first
  | next {past : List Stage} {s t : Stage} {o : Outcome} (earlier : Visits first past s)
      (moves : s.next o = .enter t) : Visits first (past ++ [s]) t

namespace Visits

variable {first last : Stage} {past : List Stage}

theorem append_mem_courses (visits : Visits first past last) {course : List CommandKind}
    (mem : course ∈ last.courses) : past.map command ++ course ∈ first.courses := by
  induction visits generalizing course with
  | first => exact mem
  | next earlier moves ih =>
    rw [List.map_append, List.append_assoc]
    exact ih (cons_mem_courses moves mem)

/-- The commands of the stages visited begin a course. -/
theorem courses (visits : Visits first past last) :
    ∃ course ∈ first.courses, (past ++ [last]).map command <+: course := by
  obtain ⟨rest, mem⟩ := last.exists_course
  refine ⟨_, visits.append_mem_courses mem, ?_⟩
  rw [List.map_append, List.prefix_append_right_inj]
  exact ⟨rest, rfl⟩

/-- Stages are visited down the ranks. -/
theorem rank_lt (visits : Visits first past last) {s : Stage} (mem : s ∈ past) :
    last.rank < s.rank := by
  induction visits with
  | first => exact absurd mem List.not_mem_nil
  | next earlier moves ih =>
    have falls := rank_lt_of_next moves
    rcases List.mem_append.mp mem with before | here
    · have above := ih before
      omega
    · rw [List.mem_singleton.mp here]
      exact falls

end Visits

end Stage

namespace Cohort.Account

variable {ids : List ParticipantId} {es : List Entry} {c : Cohort}

theorem errored_contains (account : Account ids es c) (id : ParticipantId) :
    c.errored.contains id = es.any (Entry.refuses id) := by
  rw [account.errored_eq, Bool.eq_iff_iff, List.contains_iff_mem, List.any_eq_true,
    List.mem_filterMap]
  refine exists_congr fun e => and_congr_right fun _ => ?_
  cases e <;> simp [Entry.errored?, Entry.refuses]

/-- Nobody is counted with a success and with an error. -/
theorem not_accepted_of_refused (account : Account ids es c) {id : ParticipantId}
    (refused : es.any (Entry.refuses id) = true) : es.any (Entry.accepts id) = false := by
  rw [Bool.eq_false_iff]
  intro accepted
  obtain ⟨e, mem, refuses⟩ := List.any_eq_true.mp refused
  obtain ⟨f, other, accepts⟩ := List.any_eq_true.mp accepted
  obtain ⟨message, rfl⟩ := Entry.refuses_iff.mp refuses
  obtain ⟨packet, rfl⟩ := Entry.accepts_iff.mp accepts
  exact absurd (account.entry_unique mem other rfl rfl) (by simp)

end Cohort.Account

/-! ## Orders -/

/-- A command that a stage has given out. -/
structure Order where
  stage : Stage
  link : Link
  command : Command
  deriving DecidableEq, Repr

/-- The orders of a step that leaves this stage in flight. -/
def Effect.ordersOf (stage : Option Stage) (effect : Effect) : List Order :=
  stage.toList.flatMap fun s => effect.commands.map fun p => ⟨s, p.1, p.2⟩

def Order.forShard (orders : List Order) (id : ParticipantId) : List Order :=
  orders.filter fun o => o.link.id = id

def Order.ofStage (orders : List Order) (s : Stage) : List Order :=
  orders.filter fun o => o.stage = s

theorem Order.forShard_append (xs ys : List Order) (id : ParticipantId) :
    Order.forShard (xs ++ ys) id = Order.forShard xs id ++ Order.forShard ys id :=
  List.filter_append ..

theorem Order.ofStage_append (xs ys : List Order) (s : Stage) :
    Order.ofStage (xs ++ ys) s = Order.ofStage xs s ++ Order.ofStage ys s :=
  List.filter_append ..

/-- The orders given out and what has become of them. -/
structure Dispatch where
  docket : Docket
  /-- All orders, as they were given out. -/
  given : List Order := []
  /-- Those not sent yet. -/
  left : List Order := []
  /-- Those sent, as they were sent, whether or not they arrived. -/
  sent : List Order := []
  /-- What the cohorts counted, with their stages. -/
  counted : List (Stage × Cohort.Entry) := []

namespace Dispatch

/-- What can happen while orders are sent. -/
inductive Move where
  | input (i : Input)
  /-- The order at this place is sent, or fails to be. -/
  | send (place : Nat) (failure : Option String)
  deriving DecidableEq, Repr

/-- The docket takes an input, and gives out what it has to send. -/
def take (x : Dispatch) (i : Input) : Dispatch :=
  let out := x.docket.step i
  let orders := out.2.effect.ordersOf out.1.coordinator.operation.stage
  let entry := x.docket.coordinator.inputEntryOf i
  { docket := out.1
    given := x.given ++ orders
    left := x.left ++ orders
    sent := x.sent
    counted := x.counted ++
      x.docket.coordinator.operation.stage.toList.flatMap fun s => entry.toList.map (s, ·) }

/-- An order leaves, whether or not it arrives. -/
def leave (x : Dispatch) (place : Nat) (o : Order) : Dispatch :=
  { x with left := x.left.eraseIdx place, sent := x.sent ++ [o] }

def move (x : Dispatch) : Move → Dispatch
  | .input i => x.take i
  | .send place failure =>
    match x.left[place]? with
    | none => x
    | some o =>
      match failure with
      | none => x.leave place o
      -- the caller hears of the failure at once
      | some text => (x.leave place o).take (.event (.error o.link.id none text))

def after (x : Dispatch) (moves : List Move) : Dispatch :=
  moves.foldl move x

/-- The books of an operation that a session has just begun. -/
def ofBegun (d : Docket) (begun : Coordinator) (effect : Effect) : Dispatch where
  docket := d.file (begun, effect)
  given := effect.ordersOf begun.operation.stage
  left := effect.ordersOf begun.operation.stage

end Dispatch

/-! ## Orders of one stage -/

namespace Coordinator

theorem AtRest.not_running {c : Coordinator} (rest : c.AtRest) {s : Stage} : ¬ c.Running s := by
  intro busy
  have stage := busy.stage
  rw [show c.operation = {} from rest] at stage
  exact absurd stage (by simp)

/-- An input that is counted as this participant's error: it owes an answer, and answers with an
error that is not tolerated or fails to be reached. The end of an unexpected result set is such an
error, as is a command that could not be sent. -/
def Refuses (c : Coordinator) (id : ParticipantId) (i : Input) : Prop :=
  id ∈ c.operation.cohort.pending ∧
    ((∃ code message, i = .event (.error id code message) ∧ c.tolerates code = false) ∨
      ∃ fault, i = .event (.connectError (some id) fault))

theorem any_refuses_iff {c : Coordinator} {id : ParticipantId} {i : Input} :
    (c.inputEntryOf i).any (Cohort.Entry.refuses id) = true ↔ c.Refuses id i := by
  have member : id ∈ c.operation.cohort.pending ↔ c.operation.cohort.isPending id = true :=
    List.contains_iff_mem.symm
  -- only an error that is counted refuses, and it names whoever it is from
  unfold Refuses
  rw [member]
  cases i with
  | event e =>
    cases e with
    | ok other packet =>
      simp only [inputEntryOf, entryOf]
      split <;> simp [Cohort.Entry.refuses]
    | error other code message =>
      simp only [inputEntryOf, entryOf]
      split
      · split <;> simp [Cohort.Entry.refuses] <;> grind
      · simp
        grind
    | closed link reason =>
      simp only [inputEntryOf, entryOf]
      split <;> simp [Cohort.Entry.refuses]
    | connectError other fault =>
      cases other with
      | none =>
        simp only [inputEntryOf, entryOf]
        split <;> simp [Cohort.Entry.refuses]
      | some other =>
        simp only [inputEntryOf, entryOf]
        split <;> simp [Cohort.Entry.refuses] <;> grind
  | interrupt | tell | closeSession | clientClosed => simp [inputEntryOf]

/-- The orders of a stage that is entered. -/
def issue (c : Coordinator) (s : Stage) : List Order :=
  (c.orders s).map fun p => ⟨s, p.1, p.2⟩

theorem ordersOf_send (c : Coordinator) (s : Stage) :
    (Effect.send (c.orders s)).ordersOf (some s) = c.issue s := by
  simp [Effect.ordersOf, Effect.commands, issue]

theorem links_issue (c : Coordinator) (s : Stage) :
    (c.issue s).map Order.link = c.session.participants.filter fun link =>
      (s.targets c.session.participantIds).contains link.id := by
  unfold issue orders
  rw [List.map_map, List.map_map]
  exact List.map_id _

theorem ids_issue (c : Coordinator) (s : Stage) :
    (c.issue s).map (·.link.id) = s.targets c.session.participantIds := by
  rw [← c.ids_orders s]
  unfold issue
  rw [List.map_map]
  rfl

theorem of_mem_issue {c : Coordinator} {s : Stage} {o : Order} (mem : o ∈ c.issue s) :
    o.stage = s ∧ o.command.kind = s.command ∧ o.link.id ∈ s.targets c.session.participantIds := by
  have named : o.link.id ∈ (c.issue s).map (·.link.id) := List.mem_map_of_mem mem
  rw [ids_issue] at named
  obtain ⟨p, ordered, rfl⟩ := List.mem_map.mp mem
  exact ⟨rfl, Docket.kind_of_mem_orders ordered, named⟩

theorem ofStage_issue (c : Coordinator) (s t : Stage) :
    Order.ofStage (c.issue t) s = if s = t then c.issue t else [] := by
  by_cases here : s = t
  · subst here
    rw [if_pos rfl]
    apply List.filter_eq_self.mpr
    intro o mem
    exact decide_eq_true (of_mem_issue mem).1
  · rw [if_neg here]
    apply List.filter_eq_nil_iff.mpr
    intro o mem same
    exact here ((of_decide_eq_true same).symm.trans (of_mem_issue mem).1)

/-- Of orders of one stage with one for each of several participants, everyone has its own. -/
theorem stages_of_nodup {orders : List Order} {s : Stage}
    (once : (orders.map (·.link.id)).Nodup) (same : ∀ o ∈ orders, o.stage = s)
    (id : ParticipantId) : (Order.forShard orders id).map Order.stage =
      if id ∈ orders.map (·.link.id) then [s] else [] := by
  induction orders with
  | nil => rfl
  | cons o rest ih =>
    obtain ⟨fresh, others⟩ := List.nodup_cons.mp once
    have later := ih others fun p mem => same p (List.mem_cons_of_mem _ mem)
    unfold Order.forShard at later ⊢
    by_cases here : o.link.id = id
    · subst here
      rw [if_neg fresh] at later
      have named : o.link.id ∈ (o :: rest).map (·.link.id) := List.mem_cons_self
      rw [List.filter_cons_of_pos (by simp), List.map_cons, later, same o List.mem_cons_self,
        if_pos named]
    · have elsewhere : id ∈ (o :: rest).map (·.link.id) ↔ id ∈ rest.map (·.link.id) := by
        simp [Ne.symm here]
      rw [List.filter_cons_of_neg (by simpa using here), later]
      simp only [elsewhere]

/-- Whoever a stage asks is given one order of it, and nobody else any. -/
theorem stages_issue {c : Coordinator} (distinct : c.session.participantIds.Nodup) (s : Stage)
    (id : ParticipantId) : (Order.forShard (c.issue s) id).map Order.stage =
      if id ∈ s.targets c.session.participantIds then [s] else [] := by
  have once : ((c.issue s).map (·.link.id)).Nodup := by
    rw [ids_issue, ← s.filter_targets]
    exact distinct.filter _
  rw [stages_of_nodup once fun o mem => (of_mem_issue mem).1, ids_issue]

end Coordinator

/-! ## Giving out -/

namespace Dispatch

/-- What the books say while the stages `past` and then `last` are visited, by an operation that
began with `bound`. -/
structure Charted (x : Dispatch) (first : Stage) (bound : List Link) (past : List Stage)
    (last : Stage) : Prop where
  visits : Stage.Visits first past last
  phase : x.docket.coordinator.Running last ∨ x.docket.coordinator.AtRest
  shrinks : x.docket.coordinator.session.participants.Sublist bound
  distinct : (bound.map Link.id).Nodup
  /-- Everyone was given commands of the first stages visited. -/
  asked : ∀ id, (Order.forShard x.given id).map Order.stage <+: past ++ [last]
  /-- Whoever is still bound was given those of all, besides a cleanup. -/
  whole : x.docket.coordinator.Running last → last.isCleanup = false →
    ∀ id ∈ x.docket.ids, (Order.forShard x.given id).map Order.stage = past ++ [last]
  worded : ∀ o ∈ x.given, o.stage ∈ past ++ [last] ∧ o.command.kind = o.stage.command
  inOrder : ∀ s, ((Order.ofStage x.given s).map Order.link).Sublist bound
  account : x.docket.coordinator.Running last → ∃ ids, Cohort.Account ids
    ((x.counted.filter fun p => p.1 = last).map Prod.snd) x.docket.coordinator.operation.cohort
  tagged : ∀ p ∈ x.counted, p.1 ∈ past ++ [last]

variable {x : Dispatch} {first last : Stage} {bound : List Link} {past : List Stage}

theorem Charted.settled (charted : x.Charted first bound past last) :
    x.docket.coordinator.Settled :=
  charted.phase.imp_left fun busy => ⟨last, busy⟩

theorem Charted.distinct_ids (charted : x.Charted first bound past last) : x.docket.ids.Nodup :=
  charted.distinct.sublist (charted.shrinks.map _)

theorem Charted.leave (charted : x.Charted first bound past last) (place : Nat) (o : Order) :
    (x.leave place o).Charted first bound past last :=
  { charted with }

/-! ### Taking an input -/

variable {i : Input}

/-- Within a stage, what the cohort counts is tagged with it. -/
theorem counted_take (busy : x.docket.coordinator.Running last) :
    (x.take i).counted =
      x.counted ++ (x.docket.coordinator.inputEntryOf i).toList.map (last, ·) := by
  simp [Dispatch.take, busy.stage]

theorem given_take_of_quiet (quiet : (x.docket.step i).2.effect.commands = []) :
    (x.take i).given = x.given ∧ (x.take i).left = x.left := by
  simp [Dispatch.take, Effect.ordersOf, quiet]

/-- What the cohort of the stage in flight has counted with the input. -/
theorem counted_filter_take (busy : x.docket.coordinator.Running last) :
    ((x.take i).counted.filter fun p => p.1 = last).map Prod.snd =
      (x.counted.filter fun p => p.1 = last).map Prod.snd ++
        (x.docket.coordinator.inputEntryOf i).toList := by
  rw [counted_take busy, List.filter_append, List.map_append]
  cases x.docket.coordinator.inputEntryOf i <;> simp

theorem Charted.tagged_take (charted : x.Charted first bound past last) (i : Input) :
    ∀ p ∈ (x.take i).counted, p.1 ∈ past ++ [last] := by
  intro p mem
  rcases charted.phase with busy | rest
  · rw [counted_take busy] at mem
    rcases List.mem_append.mp mem with earlier | now
    · exact charted.tagged p earlier
    · obtain ⟨entry, -, rfl⟩ := List.mem_map.mp now
      exact List.mem_append_right _ List.mem_cons_self
  · have none : x.docket.coordinator.operation.stage = none := by
      rw [show x.docket.coordinator.operation = {} from rest]
    simp only [Dispatch.take, none, Option.toList_none, List.flatMap_nil, List.append_nil] at mem
    exact charted.tagged p mem

/-- An input that gives nothing out leaves the stage in flight, or none. -/
theorem Charted.take_of_quiet (charted : x.Charted first bound past last)
    (quiet : (x.docket.step i).2.effect.commands = [])
    (phase : (x.take i).docket.coordinator.Running last ∨ (x.take i).docket.coordinator.AtRest)
    (account : (x.take i).docket.coordinator.Running last → ∃ ids, Cohort.Account ids
      (((x.take i).counted.filter fun p => p.1 = last).map Prod.snd)
      (x.take i).docket.coordinator.operation.cohort)
    (busyBefore : (x.take i).docket.coordinator.Running last →
      x.docket.coordinator.Running last) : (x.take i).Charted first bound past last := by
  obtain ⟨given, -⟩ := given_take_of_quiet quiet
  have fewer := Docket.participants_step_sublist charted.settled i
  refine ⟨charted.visits, phase, fewer.trans charted.shrinks, charted.distinct, ?_, ?_, ?_, ?_,
    account, charted.tagged_take i⟩
  · rw [given]
    exact charted.asked
  · rw [given]
    intro busy asksAll id bound
    exact charted.whole (busyBefore busy) asksAll id ((fewer.map _).subset bound)
  · rw [given]
    exact charted.worded
  · rw [given]
    exact charted.inOrder

/-- The stage after the last has not been visited. -/
theorem Charted.fresh (charted : x.Charted first bound past last) {t : Stage} {o : Outcome}
    (moves : last.next o = .enter t) : t ∉ past ++ [last] := by
  intro mem
  have falls := (charted.visits.next moves).rank_lt mem
  omega

/-- Whoever the next stage asks was given the commands of all stages before. -/
theorem Charted.stages_enters (charted : x.Charted first bound past last)
    (busy : x.docket.coordinator.Running last) (asksAll : last.isCleanup = false)
    {c : Coordinator} (distinct : c.session.participantIds.Nodup)
    (fewer : c.session.participants.Sublist x.docket.coordinator.session.participants)
    {t : Stage} {id : ParticipantId} (target : id ∈ t.targets c.session.participantIds) :
    (Order.forShard (x.given ++ c.issue t) id).map Order.stage = past ++ [last] ++ [t] := by
  have attached := (fewer.map Link.id).subset (Stage.mem_of_target target)
  have before := charted.whole busy asksAll id attached
  rw [Order.forShard_append, List.map_append, before, Coordinator.stages_issue distinct t id,
    if_pos target]

/-- A stage that has not been visited gives its commands out in session order. -/
theorem Charted.inOrder_enters (charted : x.Charted first bound past last) {t : Stage}
    (fresh : t ∉ past ++ [last]) {c : Coordinator}
    (fewer : c.session.participants.Sublist bound) (s : Stage) :
    ((Order.ofStage (x.given ++ c.issue t) s).map Order.link).Sublist bound := by
  rw [Order.ofStage_append, Coordinator.ofStage_issue]
  by_cases here : s = t
  · subst here
    have none : Order.ofStage x.given s = [] := by
      apply List.filter_eq_nil_iff.mpr
      intro o mem same
      exact fresh (of_decide_eq_true same ▸ (charted.worded o mem).1)
    rw [none, if_pos rfl, List.nil_append, Coordinator.links_issue]
    exact List.filter_sublist.trans fewer
  · rw [if_neg here, List.append_nil]
    exact charted.inOrder s

/-- An input that closes the cohort can enter the next stage. -/
theorem Charted.take_of_enters (charted : x.Charted first bound past last)
    (busy : x.docket.coordinator.Running last) {t : Stage}
    (moves : last.next ((x.docket.absorb i).result last) = .enter t)
    (after : (x.docket.step i).1.coordinator = (x.docket.absorb i).settled.landed t)
    (effect : (x.docket.step i).2.effect = .send ((x.docket.absorb i).orders t))
    (nextBusy : (x.docket.step i).1.coordinator.Running t) :
    (x.take i).given = x.given ++ (x.docket.absorb i).issue t ∧
      (x.take i).left = x.left ++ (x.docket.absorb i).issue t ∧
      (x.take i).Charted first bound (past ++ [last]) t := by
  have issued : (x.docket.step i).2.effect.ordersOf
      (x.docket.step i).1.coordinator.operation.stage = (x.docket.absorb i).issue t := by
    rw [effect, nextBusy.stage, Coordinator.ordersOf_send]
  have given : (x.take i).given = x.given ++ (x.docket.absorb i).issue t :=
    congrArg (x.given ++ ·) issued
  refine ⟨given, congrArg (x.left ++ ·) issued, ?_⟩
  have fresh := charted.fresh moves
  have fewer := Docket.participants_step_sublist charted.settled i
  have shrinks := fewer.trans charted.shrinks
  have bound : (x.docket.absorb i).session.participants.Sublist
      x.docket.coordinator.session.participants := by
    rw [after] at fewer
    exact fewer
  have distinct : (x.docket.absorb i).session.participantIds.Nodup :=
    charted.distinct_ids.sublist (bound.map _)
  -- a stage that is followed by another has asked everyone
  have asksAll := Stage.not_isCleanup_of_next moves
  have asked : ∀ id, id ∈ t.targets (x.docket.absorb i).session.participantIds →
      (Order.forShard (x.take i).given id).map Order.stage = past ++ [last] ++ [t] := by
    intro id target
    rw [given]
    exact charted.stages_enters busy asksAll distinct bound target
  refine ⟨charted.visits.next moves, .inl nextBusy, shrinks, charted.distinct, ?_, ?_, ?_, ?_, ?_,
    ?_⟩
  · intro id
    by_cases target : id ∈ t.targets (x.docket.absorb i).session.participantIds
    · exact ⟨[], (List.append_nil _).trans (asked id target)⟩
    · rw [given, Order.forShard_append, List.map_append,
        Coordinator.stages_issue distinct t id, if_neg target, List.append_nil]
      exact (charted.asked id).trans (List.prefix_append _ _)
  · intro _ asksAllNext id attached
    refine asked id ?_
    rw [Stage.targets_of_not_isCleanup asksAllNext]
    rw [Docket.ids, show (x.take i).docket.coordinator = _ from after] at attached
    exact attached
  · rw [given]
    intro o mem
    rcases List.mem_append.mp mem with earlier | now
    · obtain ⟨stage, worded⟩ := charted.worded o earlier
      exact ⟨List.mem_append_left _ stage, worded⟩
    · obtain ⟨rfl, worded, -⟩ := Coordinator.of_mem_issue now
      exact ⟨List.mem_append_right _ List.mem_cons_self, worded⟩
  · intro s
    rw [given]
    exact charted.inOrder_enters fresh (bound.trans charted.shrinks) s
  · intro _
    have none : ((x.take i).counted.filter fun p => p.1 = t) = [] := by
      apply List.filter_eq_nil_iff.mpr
      intro p mem same
      exact fresh (of_decide_eq_true same ▸ charted.tagged_take i p mem)
    rw [none, show (x.take i).docket.coordinator = _ from after]
    exact ⟨_, .opened⟩
  · intro p mem
    exact List.mem_append_left _ (charted.tagged_take i p mem)

/-- **Giving out.** Whatever comes in, the books go on to say what they say. -/
theorem Charted.take (charted : x.Charted first bound past last) (i : Input) :
    ∃ past' last', (x.take i).Charted first bound past' last' := by
  rcases charted.phase with busy | rest
  · rcases Docket.step_turn busy i with stays | leaves
    · refine ⟨past, last, charted.take_of_quiet ?_ (.inl stays.running) ?_ fun _ => busy⟩
      · rw [stays.effect]
        rfl
      · intro _
        obtain ⟨ids, account⟩ := charted.account busy
        rw [counted_filter_take busy, show (x.take i).docket.coordinator = _ from stays.after]
        exact ⟨ids, Docket.account_absorb busy i account⟩
    · rcases leaves.lands busy with ⟨t, moves, after, effect, next⟩ | ⟨⟨v, effect⟩, rests, -⟩
      · exact ⟨_, _, (charted.take_of_enters busy moves after effect next).2.2⟩
      · refine ⟨past, last, charted.take_of_quiet ?_ (.inr rests)
          (fun busy => absurd busy rests.not_running) fun busy => absurd busy rests.not_running⟩
        rw [effect]
        rfl
  · obtain ⟨idle, rests⟩ := Docket.step_of_atRest rest i
    refine ⟨past, last, charted.take_of_quiet ?_ (.inr rests)
      (fun busy => absurd busy rests.not_running) fun busy => absurd busy rests.not_running⟩
    rw [idle]
    rfl

theorem Charted.move (charted : x.Charted first bound past last) (m : Move) :
    ∃ past' last', (x.move m).Charted first bound past' last' := by
  cases m with
  | input i => exact charted.take i
  | send place failure =>
    simp only [Dispatch.move]
    split
    · exact ⟨past, last, charted⟩
    · rename_i o here
      cases failure with
      | none => exact ⟨past, last, charted.leave place o⟩
      | some text => exact (charted.leave place o).take _

theorem Charted.after (charted : x.Charted first bound past last) (moves : List Move) :
    ∃ past' last', (x.after moves).Charted first bound past' last' := by
  induction moves generalizing x past last with
  | nil => exact ⟨past, last, charted⟩
  | cons m rest ih =>
    obtain ⟨past', last', next⟩ := charted.move m
    exact ih next

/-! ### The second copy -/

def stage (x : Dispatch) : Option Stage := x.docket.coordinator.operation.stage

/-- Whether a participant's error was counted in this stage. -/
def refusedIn (x : Dispatch) (s : Stage) (id : ParticipantId) : Bool :=
  x.counted.any fun p => p.1 = s && p.2.refuses id

/-- Whether a participant's success was counted in this stage. -/
def acceptedIn (x : Dispatch) (s : Stage) (id : ParticipantId) : Bool :=
  x.counted.any fun p => p.1 = s && p.2.accepts id

/-- What is given out in one step is the decision of stage `s` once more, to exactly those still
bound whose error the stage counted, in session order. -/
structure Retries (x y : Dispatch) (s : Stage) (retry : List Order) : Prop where
  given : y.given = x.given ++ retry
  links : retry.map Order.link =
    y.docket.coordinator.session.participants.filter fun link => y.refusedIn s link.id
  again : ∀ o ∈ retry, o.stage.isCleanup = true ∧ o.command.kind = s.command
  unaccepted : ∀ o ∈ retry, y.acceptedIn s o.link.id = false

theorem refusedIn_eq (x : Dispatch) (s : Stage) (id : ParticipantId) : x.refusedIn s id =
    ((x.counted.filter fun p => p.1 = s).map Prod.snd).any (Cohort.Entry.refuses id) := by
  rw [List.any_map, List.any_filter]
  rfl

theorem acceptedIn_eq (x : Dispatch) (s : Stage) (id : ParticipantId) : x.acceptedIn s id =
    ((x.counted.filter fun p => p.1 = s).map Prod.snd).any (Cohort.Entry.accepts id) := by
  rw [List.any_map, List.any_filter]
  rfl

/-- When a decision is left, the second copy goes to those whose error was counted. -/
theorem Charted.retries (charted : x.Charted first bound past last)
    (busy : x.docket.coordinator.Running last) (decision : last.isDecision = true)
    (left : (x.take i).docket.coordinator.operation.stage ≠ some last) :
    ∃ retry, Retries x (x.take i) last retry := by
  rcases Docket.step_turn busy i with stays | leaves
  · exact absurd stays.running.stage left
  · obtain ⟨ids, before⟩ := charted.account busy
    have account := Docket.account_absorb busy i before
    rw [← counted_filter_take busy] at account
    obtain ⟨intent, cause, lost, moves, command⟩ :=
      Stage.next_of_isDecision decision ((x.docket.absorb i).result last)
    have errored : ∀ id, ((x.docket.absorb i).result last).errored.contains id =
        (x.take i).refusedIn last id := by
      intro id
      rw [Coordinator.result_of_not_precedes (Stage.not_precedes_of_isDecision decision),
        refusedIn_eq]
      exact account.errored_contains id
    have participants : (x.take i).docket.coordinator.session.participants =
        (x.docket.absorb i).session.participants :=
      Docket.participants_step busy i
    have links : ((x.docket.absorb i).session.participants.filter fun link =>
        ((Stage.cleanup intent ((x.docket.absorb i).result last).errored cause lost).targets
          (x.docket.absorb i).session.participantIds).contains link.id) =
        (x.docket.absorb i).session.participants.filter fun link =>
          (x.take i).refusedIn last link.id := by
      apply List.filter_congr
      intro link attached
      have named : link.id ∈ (x.docket.absorb i).session.participantIds :=
        List.mem_map_of_mem attached
      rw [← errored]
      simp [Stage.targets, named]
    rcases leaves.lands busy with ⟨t, enters, after, effect, next⟩ | ⟨⟨v, effect⟩, rests, nobody⟩
    · obtain rfl := Transition.enter.inj (moves.symm.trans enters)
      obtain ⟨given, -, -⟩ := charted.take_of_enters busy moves after effect next
      refine ⟨_, given, ?_, ?_, ?_⟩
      · rw [Coordinator.links_issue, participants]
        exact links
      · intro o mem
        obtain ⟨stage, worded, -⟩ := Coordinator.of_mem_issue mem
        exact ⟨stage ▸ rfl, worded.trans command⟩
      · intro o mem
        obtain ⟨-, -, target⟩ := Coordinator.of_mem_issue mem
        have refused := (List.mem_filter.mp target).2
        rw [errored, refusedIn_eq] at refused
        rw [acceptedIn_eq, account.not_accepted_of_refused refused]
    · -- nobody whose error was counted is still bound
      have none := nobody _ moves
      have quiet : (x.docket.step i).2.effect.commands = [] := by
        rw [effect]
        rfl
      refine ⟨[], ?_, ?_, by simp, by simp⟩
      · rw [(given_take_of_quiet quiet).1, List.append_nil]
      · rw [participants, ← links, none]
        simp

/-- The stage of a decision is left between `x` and `y`. -/
def LeavesDecision (x y : Dispatch) (s : Stage) : Prop :=
  s.isDecision = true ∧ x.stage = some s ∧ y.stage ≠ some s

/-- From `x` to `y`, where at most one input is heard, a decision is repeated when its stage is left
and at no other time. -/
structure Repeats (x y : Dispatch) (heard : Option Input) : Prop where
  /-- An error is counted in the stage in which it is heard. -/
  refusedIn : ∀ s id, y.refusedIn s id = true ↔ x.refusedIn s id = true ∨
    x.stage = some s ∧ ∃ i ∈ heard, x.docket.coordinator.Refuses id i
  retries : ∀ s, LeavesDecision x y s → ∃ retry, Retries x y s retry
  only : (∀ s, ¬ LeavesDecision x y s) →
    ∀ o ∈ y.given, o.stage.isCleanup = true → o ∈ x.given

theorem refusedIn_take (x : Dispatch) (i : Input) (s : Stage) (id : ParticipantId) :
    (x.take i).refusedIn s id = true ↔ x.refusedIn s id = true ∨
      x.stage = some s ∧ x.docket.coordinator.Refuses id i := by
  rw [← Coordinator.any_refuses_iff]
  unfold refusedIn stage
  simp only [Dispatch.take, List.any_append, Bool.or_eq_true]
  refine or_congr_right ?_
  cases x.docket.coordinator.operation.stage <;>
    cases x.docket.coordinator.inputEntryOf i <;> simp

/-- **The second copy.** What is heard is counted, and a decision that is left is repeated. -/
theorem Charted.repeats_take (charted : x.Charted first bound past last) (i : Input) :
    Repeats x (x.take i) (some i) := by
  refine ⟨?_, ?_, ?_⟩
  · intro s id
    rw [refusedIn_take]
    simp
  · rintro s ⟨decision, inFlight, left⟩
    rcases charted.phase with busy | rest
    · obtain rfl : last = s := Option.some.inj (busy.stage.symm.trans inFlight)
      exact charted.retries busy decision left
    · rw [stage, show x.docket.coordinator.operation = {} from rest] at inFlight
      exact absurd inFlight (by simp)
  · intro none o mem cleanup
    have unchanged : (x.docket.step i).2.effect.commands = [] → o ∈ x.given := by
      intro quiet
      rw [(given_take_of_quiet quiet).1] at mem
      exact mem
    rcases charted.phase with busy | rest
    · rcases Docket.step_turn busy i with stays | leaves
      · exact unchanged (by rw [stays.effect]; rfl)
      · rcases leaves.lands busy with ⟨t, moves, after, effect, next⟩ | ⟨⟨v, effect⟩, -, -⟩
        · -- a new order is one of the stage entered, and that is no cleanup
          rw [(charted.take_of_enters busy moves after effect next).1] at mem
          refine (List.mem_append.mp mem).resolve_right fun new => ?_
          obtain ⟨rfl, -, -⟩ := Coordinator.of_mem_issue new
          refine none last ⟨Stage.isDecision_of_next moves cleanup, busy.stage, ?_⟩
          intro same
          have falls := Stage.rank_lt_of_next moves
          rw [← Option.some.inj (same.symm.trans next.stage)] at falls
          omega
        · exact unchanged (by rw [effect]; rfl)
    · exact unchanged (by rw [(Docket.step_of_atRest rest i).1]; rfl)

end Dispatch

end AtomicCommit
