import AtomicCommit.Proofs.Dispatch

/-!
# Commands in order

Commands are sent one by one, and each of them may fail to be sent. `Dispatch.permits` says what may
happen in between: an input comes when nothing is left to be sent, or is not the answer of somebody
who has yet to be sent the command.

* **leaving** — `Orderly.absent_of_leaves`: when a stage is left with orders to be sent, these are
  for participants that are not bound any more.
* **sending** — `Dispatch.Orderly`: so nobody has two orders to come, and each participant, and each
  stage, is served in the order in which orders are given out.
* **runs** — `Charted.repeats_move`: a move that leaves a decision gives it out once more.
-/

namespace AtomicCommit

open Wire

namespace Dispatch

variable {x : Dispatch} {first last : Stage} {bound : List Link} {past : List Stage} {i : Input}

/-! ## Sending -/

/-- Whether an input can come while orders are still to be sent: whoever has yet to be sent one can
only close, as it has nothing to answer. -/
def timely (x : Dispatch) : Input → Bool
  | .event e => e.about?.any fun id =>
    (x.left.all fun o => o.link.id != id) || (Input.event e).closed?.isSome
  | _ => true

/-- Inputs come when there is nothing to be sent, or in time. A stage sends its orders one after the
other, whatever other stages are doing. -/
def permits (x : Dispatch) : Move → Bool
  | .input i => x.left.isEmpty || x.timely i
  | .send place _ => x.left[place]?.any fun o => (x.left.take place).all (·.stage != o.stage)

/-- Each of these moves is permitted when it is made. -/
def proceeds (x : Dispatch) : List Move → Bool
  | [] => true
  | m :: rest => x.permits m && (x.move m).proceeds rest

/-- What the books say about orders that are still to be sent. -/
structure Orderly (x : Dispatch) : Prop where
  once : (x.left.map (·.link.id)).Nodup
  owed : ∀ o ∈ x.left, o.link.id ∈ x.docket.owing ∨ o.link.id ∉ x.docket.ids
  slotless : x.left = [] ∨ x.docket.coordinator.operation.cohort.unreachable = 0
  byShard : ∀ id, Order.forShard x.sent id ++ Order.forShard x.left id = Order.forShard x.given id
  byStage : ∀ s, Order.ofStage x.sent s ++ Order.ofStage x.left s = Order.ofStage x.given s

/-- A timely input takes no slot for anybody unknown. -/
theorem unreachable_of_timely (busy : x.docket.coordinator.Running last)
    (timely : x.timely i = true) : (x.docket.absorb i).operation.cohort.unreachable =
      x.docket.coordinator.operation.cohort.unreachable := by
  rw [Docket.cohort_absorb busy]
  cases entered : x.docket.coordinator.inputEntryOf i with
  | none => rfl
  | some entry =>
    cases i with
    | event e =>
      obtain ⟨id, about, -⟩ := (Option.any_eq_true _ _).mp timely
      exact Cohort.unreachable_book ((Coordinator.id_of_entryOf entered).trans about)
    | interrupt | tell | closeSession | clientClosed =>
      exact absurd entered (by simp [Coordinator.inputEntryOf])

/-- Whoever has yet to be sent an order goes on to owe the answer, or is not bound any more. -/
theorem Orderly.owed_absorb (orderly : x.Orderly) (charted : x.Charted first bound past last)
    (busy : x.docket.coordinator.Running last) (timely : x.timely i = true) {o : Order}
    (waits : o ∈ x.left) : o.link.id ∈ (x.docket.absorb i).operation.cohort.pending ∨
      o.link.id ∉ (x.take i).docket.ids := by
  have fewer := Docket.ids_step_sublist charted.settled i
  rcases orderly.owed o waits with owes | absent
  · rw [Docket.pending_absorb busy]
    cases entered : x.docket.coordinator.inputEntryOf i with
    | none => exact .inl owes
    | some entry =>
      cases i with
      | event e =>
        obtain ⟨id, about, rest⟩ := (Option.any_eq_true _ _).mp timely
        have named := (Coordinator.id_of_entryOf entered).trans about
        rw [Option.bind_some, named, Option.map_some, Option.getD_some]
        by_cases same : o.link.id = id
        · -- it is the order's own participant, so this is its close
          have closes : (Input.event e).closed?.isSome = true := by
            refine (Bool.or_eq_true _ _ ▸ rest).resolve_left ?_
            intro others
            exact absurd same (by simpa using List.all_eq_true.mp others o waits)
          cases e with
          | closed link reason =>
            have named : link.id = o.link.id := (Option.some.inj about).trans same.symm
            refine .inr fun here => ?_
            rw [Docket.ids, Session.participantIds, Dispatch.take,
              Docket.participants_step busy, Docket.session_absorb_event, ← named] at here
            exact Session.absent_of_detach charted.distinct_ids link.id here
          | ok | error | connectError => exact absurd closes (by simp [Input.closed?])
        · exact .inl ((List.mem_erase_of_ne same).mpr owes)
      | interrupt | tell | closeSession | clientClosed =>
        exact absurd entered (by simp [Coordinator.inputEntryOf])
  · exact .inr fun here => absent (fewer.subset here)

/-- When a stage is left, whoever has yet to be sent its order is not bound any more. -/
theorem Orderly.absent_of_leaves (orderly : x.Orderly) (charted : x.Charted first bound past last)
    (busy : x.docket.coordinator.Running last) (permitted : x.left = [] ∨ x.timely i = true)
    (leaves : x.docket.Leaves last i) {o : Order} (waits : o ∈ x.left) :
    o.link.id ∉ (x.take i).docket.ids := by
  rcases permitted with none | timely
  · rw [none] at waits
    exact absurd waits List.not_mem_nil
  · have slotless : (x.docket.absorb i).operation.cohort.unreachable = 0 := by
      rw [unreachable_of_timely busy timely]
      exact orderly.slotless.resolve_left (List.ne_nil_of_mem waits)
    have nobody : (x.docket.absorb i).operation.cohort.pending = [] := by
      have closes := leaves.closes
      exact List.length_eq_zero_iff.mp (by omega)
    refine (orderly.owed_absorb charted busy timely waits).resolve_left ?_
    rw [nobody]
    exact List.not_mem_nil

theorem Orderly.lists_take (orderly : x.Orderly) (i : Input) :
    (∀ id, Order.forShard (x.take i).sent id ++ Order.forShard (x.take i).left id =
        Order.forShard (x.take i).given id) ∧
      ∀ s, Order.ofStage (x.take i).sent s ++ Order.ofStage (x.take i).left s =
        Order.ofStage (x.take i).given s := by
  constructor
  · intro id
    show Order.forShard x.sent id ++ Order.forShard (x.left ++ _) id =
      Order.forShard (x.given ++ _) id
    rw [Order.forShard_append, Order.forShard_append, ← orderly.byShard, List.append_assoc]
  · intro s
    show Order.ofStage x.sent s ++ Order.ofStage (x.left ++ _) s = Order.ofStage (x.given ++ _) s
    rw [Order.ofStage_append, Order.ofStage_append, ← orderly.byStage, List.append_assoc]

theorem Orderly.take_of_enters (orderly : x.Orderly) (charted : x.Charted first bound past last)
    (busy : x.docket.coordinator.Running last) {t : Stage}
    (moves : last.next ((x.docket.absorb i).result last) = .enter t)
    (after : (x.docket.step i).1.coordinator = (x.docket.absorb i).settled.landed t)
    (effect : (x.docket.step i).2.effect = .send ((x.docket.absorb i).orders t))
    (next : (x.docket.step i).1.coordinator.Running t)
    (absent : ∀ {o}, o ∈ x.left → o.link.id ∉ (x.take i).docket.ids) : (x.take i).Orderly := by
  obtain ⟨byShard, byStage⟩ := orderly.lists_take i
  obtain ⟨-, left, charts⟩ := charted.take_of_enters busy moves after effect next
  have attached : (x.take i).docket.ids = (x.docket.absorb i).session.participantIds := by
    rw [Docket.ids, show (x.take i).docket.coordinator = _ from after]
    rfl
  have distinct := charts.distinct_ids
  rw [attached] at distinct
  have operation : (x.take i).docket.coordinator.operation.cohort =
      Cohort.opened (t.targets (x.docket.absorb i).session.participantIds) := by
    rw [show (x.take i).docket.coordinator = _ from after]
    rfl
  refine ⟨?_, ?_, .inr ?_, byShard, byStage⟩
  · rw [left, List.map_append, List.nodup_append, Coordinator.ids_issue]
    refine ⟨orderly.once, ?_, ?_⟩
    · rw [← t.filter_targets]
      exact distinct.filter _
    · -- whoever was left behind is not asked again
      rintro id waits other target rfl
      obtain ⟨o, here, rfl⟩ := List.mem_map.mp waits
      apply absent here
      rw [attached]
      exact Stage.mem_of_target target
  · intro o waits
    rw [left] at waits
    rcases List.mem_append.mp waits with earlier | now
    · exact .inr (absent earlier)
    · obtain ⟨-, -, target⟩ := Coordinator.of_mem_issue now
      rw [Docket.owing, operation]
      exact .inl (List.mem_eraseDups.mpr target)
  · rw [operation]
    rfl

/-- An input that comes in time, or when nothing is to be sent, keeps the books in order. -/
theorem Orderly.take (orderly : x.Orderly) (charted : x.Charted first bound past last)
    (permitted : x.left = [] ∨ x.timely i = true) : (x.take i).Orderly := by
  obtain ⟨byShard, byStage⟩ := orderly.lists_take i
  have fewer := Docket.ids_step_sublist charted.settled i
  rcases charted.phase with busy | rest
  · rcases Docket.step_turn busy i with stays | leaves
    · have quiet : (x.docket.step i).2.effect.commands = [] := by
        rw [stays.effect]
        rfl
      have left := (given_take_of_quiet quiet).2
      have after : (x.take i).docket.coordinator = x.docket.absorb i := stays.after
      refine ⟨left ▸ orderly.once, ?_, ?_, byShard, byStage⟩
      · intro o waits
        rw [left] at waits
        -- an input in time does not settle anybody who waits for its command
        rcases permitted with none | timely
        · rw [none] at waits
          exact absurd waits List.not_mem_nil
        · rw [Docket.owing, after]
          exact orderly.owed_absorb charted busy timely waits
      · rw [left, after]
        rcases permitted with none | timely
        · exact .inl none
        · rw [unreachable_of_timely busy timely]
          exact orderly.slotless
    · have absent := fun {o} => orderly.absent_of_leaves charted busy permitted leaves (o := o)
      rcases leaves.lands busy with ⟨t, moves, after, effect, next⟩ | ⟨⟨v, effect⟩, rests, -⟩
      · exact orderly.take_of_enters charted busy moves after effect next absent
      · have quiet : (x.docket.step i).2.effect.commands = [] := by
          rw [effect]
          rfl
        have left := (given_take_of_quiet quiet).2
        refine ⟨left ▸ orderly.once, ?_, .inr ?_, byShard, byStage⟩
        · intro o waits
          rw [left] at waits
          exact .inr (absent waits)
        · rw [show (x.take i).docket.coordinator.operation = {} from rests]
  · obtain ⟨idle, rests⟩ := Docket.step_of_atRest rest i
    have quiet : (x.docket.step i).2.effect.commands = [] := by
      rw [idle]
      rfl
    have left := (given_take_of_quiet quiet).2
    refine ⟨left ▸ orderly.once, ?_, .inr ?_, byShard, byStage⟩
    · intro o waits
      rw [left] at waits
      refine .inr fun here => ?_
      -- at rest nobody owes anything, so whoever waits is no longer attached
      rcases orderly.owed o waits with owes | absent
      · rw [Docket.owing_of_atRest rest] at owes
        exact absurd owes List.not_mem_nil
      · exact absent (fewer.subset here)
    · rw [show (x.take i).docket.coordinator.operation = {} from rests]

/-- An order that leaves before all others of its kind keeps the order among them. -/
theorem filter_leave {sent before behind : List Order} {o : Order} {P : Order → Bool}
    (first : P o = true → ∀ p ∈ before, P p = false) :
    (sent ++ [o]).filter P ++ (before ++ behind).filter P =
      sent.filter P ++ (before ++ o :: behind).filter P := by
  by_cases here : P o = true
  · have none : before.filter P = [] := by
      apply List.filter_eq_nil_iff.mpr
      intro p mem
      simp [first here p mem]
    simp [List.filter_append, here, none]
  · simp [List.filter_append, here]

/-- An order that leaves is the only one to come for its participant, and the first of its stage. -/
theorem Orderly.leave (orderly : x.Orderly) {before behind : List Order} {o : Order}
    (around : x.left = before ++ o :: behind) (first : ∀ p ∈ before, p.stage ≠ o.stage) :
    Orderly { x with left := before ++ behind, sent := x.sent ++ [o] } ∧
      ∀ p ∈ before ++ behind, p.link.id ≠ o.link.id := by
  have once := orderly.once
  rw [around] at once
  have perm : (before ++ o :: behind).Perm (o :: (before ++ behind)) := List.perm_middle
  obtain ⟨alone, others⟩ := List.nodup_cons.mp ((perm.map (·.link.id)).nodup_iff.mp once)
  have distinct : ∀ p ∈ before ++ behind, p.link.id ≠ o.link.id := by
    intro p waits same
    have named : p.link.id ∈ (before ++ behind).map (·.link.id) := List.mem_map_of_mem waits
    rw [same] at named
    exact alone named
  have fewer : ∀ p ∈ before ++ behind, p ∈ x.left := by
    intro p waits
    rw [around, perm.mem_iff]
    exact List.mem_cons_of_mem _ waits
  refine ⟨⟨others, fun p waits => orderly.owed p (fewer p waits), ?_, ?_, ?_⟩, distinct⟩
  · refine .inr (orderly.slotless.resolve_left ?_)
    rw [around]
    simp
  · intro id
    rw [← orderly.byShard id, around]
    apply filter_leave
    -- none of those before it is for the same shard
    intro here p waits
    have other := distinct p (List.mem_append_left _ waits)
    rw [of_decide_eq_true here] at other
    exact decide_eq_false other
  · intro s
    rw [← orderly.byStage s, around]
    apply filter_leave
    intro here p waits
    have other := first p waits
    rw [of_decide_eq_true here] at other
    exact decide_eq_false other

/-- **Sending.** Moves that are permitted keep the books in order. -/
theorem Orderly.move (orderly : x.Orderly) (charted : x.Charted first bound past last) {m : Move}
    (permitted : x.permits m = true) : (x.move m).Orderly := by
  cases m with
  | input i =>
    rcases Bool.or_eq_true _ _ ▸ permitted with none | timely
    · exact orderly.take charted (.inl (List.isEmpty_iff.mp none))
    · exact orderly.take charted (.inr timely)
  | send place failure =>
    obtain ⟨o, here, before⟩ := (Option.any_eq_true _ _).mp permitted
    have first : ∀ p ∈ x.left.take place, p.stage ≠ o.stage := by
      intro p waits
      simpa using List.all_eq_true.mp before p waits
    obtain ⟨bound, same⟩ := List.getElem?_eq_some_iff.mp here
    have around : x.left = x.left.take place ++ o :: x.left.drop (place + 1) := by
      rw [← same, ← List.drop_eq_getElem_cons, List.take_append_drop]
    obtain ⟨left, others⟩ := orderly.leave around first
    have leaves : x.leave place o = { x with
        left := x.left.take place ++ x.left.drop (place + 1), sent := x.sent ++ [o] } := by
      rw [Dispatch.leave, List.eraseIdx_eq_take_drop_succ]
    rw [← leaves] at left
    simp only [Dispatch.move, here]
    cases failure with
    | none => exact left
    | some text =>
      -- what fails is the only order that was to come for its participant
      refine left.take (charted.leave place o) (.inr ?_)
      rw [leaves]
      simp only [timely, Event.about?, Option.any_some, Bool.or_eq_true, List.all_eq_true]
      refine .inl fun p waits => ?_
      simpa using others p waits

theorem Orderly.after (orderly : x.Orderly) (charted : x.Charted first bound past last)
    {moves : List Move} (permitted : x.proceeds moves = true) : (x.after moves).Orderly := by
  induction moves generalizing x past last with
  | nil => exact orderly
  | cons m rest ih =>
    obtain ⟨now, later⟩ := Bool.and_eq_true _ _ ▸ permitted
    obtain ⟨past', last', next⟩ := charted.move m
    exact ih (orderly.move charted now) next later

/-! ## Runs -/

/-- What a move lets the coordinator hear. -/
def heard (x : Dispatch) : Move → Option Input
  | .input i => some i
  | .send place failure =>
    x.left[place]?.bind fun o => failure.map fun text => .event (.error o.link.id none text)

theorem Charted.repeats_move (charted : x.Charted first bound past last) (m : Move) :
    Repeats x (x.move m) (x.heard m) := by
  have unheard : Repeats x x none :=
    ⟨by simp, fun s left => absurd left.2.1 left.2.2, fun _ o mem _ => mem⟩
  cases m with
  | input i => exact charted.repeats_take i
  | send place failure =>
    simp only [Dispatch.move, heard]
    cases x.left[place]? with
    | none => exact unheard
    | some o =>
      cases failure with
      | none => exact ⟨unheard.refusedIn, fun s left => absurd left.2.1 left.2.2, unheard.only⟩
      | some text =>
        obtain ⟨refusedIn, retries, only⟩ := (charted.leave place o).repeats_take
          (.event (.error o.link.id none text))
        refine ⟨refusedIn, ?_, only⟩
        intro s left
        obtain ⟨retry, repeated⟩ := retries s left
        exact ⟨retry, { repeated with }⟩

/-- What has been sent in an operation that began with this stage and these links: everyone was sent
a course, and every stage sent its command in session order, once to each at most. What was given
out and is not left has been sent, in the same order. -/
structure InOrder (x : Dispatch) (first : Stage) (bound : List Link) : Prop where
  courses : ∀ id, ∃ course ∈ first.courses,
    (Order.forShard x.sent id).map (·.command.kind) <+: course
  session : ∀ s, ((Order.ofStage x.sent s).map Order.link).Sublist bound
  once : ∀ s, ((Order.ofStage x.sent s).map (·.link.id)).Nodup
  worded : ∀ o ∈ x.sent, o.command.kind = o.stage.command
  byShard : ∀ id, Order.forShard x.sent id ++ Order.forShard x.left id = Order.forShard x.given id
  byStage : ∀ s, Order.ofStage x.sent s ++ Order.ofStage x.left s = Order.ofStage x.given s

theorem Orderly.mem_given (orderly : x.Orderly) {o : Order} (mem : o ∈ x.sent) : o ∈ x.given := by
  have here : o ∈ Order.ofStage x.sent o.stage := List.mem_filter.mpr ⟨mem, by simp⟩
  have there : o ∈ Order.ofStage x.given o.stage := by
    rw [← orderly.byStage]
    exact List.mem_append_left _ here
  exact (List.mem_filter.mp there).1

theorem Orderly.inOrder (orderly : x.Orderly) (charted : x.Charted first bound past last) :
    x.InOrder first bound := by
  have session : ∀ s, ((Order.ofStage x.sent s).map Order.link).Sublist bound := by
    intro s
    refine List.Sublist.trans ?_ (charted.inOrder s)
    rw [← orderly.byStage, List.map_append]
    exact List.sublist_append_left _ _
  refine ⟨?_, session, ?_, ?_, orderly.byShard, orderly.byStage⟩
  · intro id
    obtain ⟨course, mem, begins⟩ := charted.visits.courses
    refine ⟨course, mem, List.IsPrefix.trans ?_ begins⟩
    have kinds : (Order.forShard x.given id).map (·.command.kind) =
        ((Order.forShard x.given id).map Order.stage).map Stage.command := by
      rw [List.map_map]
      apply List.map_congr_left
      intro o given
      exact (charted.worded o (List.mem_filter.mp given).1).2
    -- what was sent to a shard and what is left for it make up what it was given
    have sent : (Order.forShard x.sent id).map (·.command.kind) <+:
        (Order.forShard x.given id).map (·.command.kind) := by
      rw [← orderly.byShard, List.map_append]
      exact List.prefix_append _ _
    exact sent.trans (kinds ▸ (charted.asked id).map Stage.command)
  · intro s
    have ids := (session s).map Link.id
    rw [List.map_map] at ids
    exact charted.distinct.sublist ids
  · exact fun o mem => (charted.worded o (orderly.mem_given mem)).2

/-! ## Operations -/

section Begun

variable {d : Docket} {begun : Coordinator} {effect : Effect}

/-- The orders of an operation that begins are those of its first stage, unless it is over. -/
theorem given_ofBegun (h : d.coordinator.begin first = (begun, .ok effect)) :
    (begun.Running first ∧ begun = (d.coordinator.fresh first).landed first ∧
        (ofBegun d begun effect).given = (d.coordinator.fresh first).issue first) ∨
      begun.AtRest ∧ (ofBegun d begun effect).given = [] := by
  rcases Docket.begun_lands h with ⟨landed, sends, busy⟩ | ⟨concluded, rests⟩
  · refine .inl ⟨busy, landed, ?_⟩
    rw [ofBegun, sends, busy.stage]
    exact Coordinator.ordersOf_send ..
  · refine .inr ⟨rests, ?_⟩
    rw [ofBegun, concluded, show begun.operation = {} from rests]
    rfl

theorem charted_ofBegun (h : d.coordinator.begin first = (begun, .ok effect))
    (distinct : d.ids.Nodup) (asksAll : first.isCleanup = false) :
    (ofBegun d begun effect).Charted first d.coordinator.session.participants [] first := by
  have same : begun.session.participants = d.coordinator.session.participants := by
    rw [← Coordinator.participants_begin d.coordinator first, h]
  have ids : (d.coordinator.fresh first).session.participantIds = d.ids := by
    rw [Session.participantIds, Coordinator.participants_fresh]
    rfl
  rcases given_ofBegun h with ⟨busy, landed, given⟩ | ⟨rests, given⟩
  · -- everyone attached is given the first command, and nobody else is
    have stages : ∀ id, (Order.forShard (ofBegun d begun effect).given id).map Order.stage =
        if id ∈ d.ids then [first] else [] := by
      intro id
      rw [given, Coordinator.stages_issue (ids ▸ distinct), ids,
        Stage.targets_of_not_isCleanup asksAll]
    refine ⟨.first, .inl busy, ?_, distinct, ?_, ?_, ?_, ?_, ?_, fun p mem => absurd mem List.not_mem_nil⟩
    · exact same ▸ List.Sublist.refl _
    · intro id
      rw [stages]
      split
      · exact List.prefix_rfl
      · exact List.nil_prefix
    · intro _ _ id bound
      have attached : id ∈ d.ids := by
        rw [Docket.ids, Session.participantIds, ← same]
        exact bound
      rw [stages, if_pos attached, List.nil_append]
    · rw [given]
      intro o mem
      obtain ⟨rfl, worded, -⟩ := Coordinator.of_mem_issue mem
      exact ⟨List.mem_cons_self, worded⟩
    · intro s
      rw [given]
      refine (List.filter_sublist.map Order.link).trans ?_
      rw [Coordinator.links_issue, Coordinator.participants_fresh]
      exact List.filter_sublist
    · intro _
      show ∃ ids, Cohort.Account ids [] begun.operation.cohort
      rw [landed]
      exact ⟨_, .opened⟩
  · refine ⟨.first, .inr rests, ?_, distinct, ?_, ?_, ?_, ?_, ?_, fun p mem => absurd mem List.not_mem_nil⟩
    · exact same ▸ List.Sublist.refl _
    · intro id
      rw [given]
      exact List.nil_prefix
    · exact fun busy => absurd busy rests.not_running
    · rw [given]
      exact fun o mem => absurd mem List.not_mem_nil
    · intro s
      rw [given]
      exact List.nil_sublist _
    · exact fun busy => absurd busy rests.not_running

theorem orderly_ofBegun (h : d.coordinator.begin first = (begun, .ok effect))
    (distinct : d.ids.Nodup) : (ofBegun d begun effect).Orderly := by
  have left : (ofBegun d begun effect).left = (ofBegun d begun effect).given := rfl
  rcases given_ofBegun h with ⟨busy, landed, given⟩ | ⟨rests, given⟩
  · have opened : begun.operation.cohort =
        Cohort.opened (first.targets (d.coordinator.fresh first).session.participantIds) := by
      rw [landed]
      rfl
    refine ⟨?_, ?_, .inr ?_, fun _ => rfl, fun _ => rfl⟩
    · rw [left, given, Coordinator.ids_issue, ← first.filter_targets, Session.participantIds,
        Coordinator.participants_fresh]
      exact distinct.filter _
    · rw [left, given]
      intro o mem
      obtain ⟨-, -, target⟩ := Coordinator.of_mem_issue mem
      refine .inl ?_
      show o.link.id ∈ begun.operation.cohort.pending
      rw [opened]
      exact List.mem_eraseDups.mpr target
    · show begun.operation.cohort.unreachable = 0
      rw [opened]
      rfl
  · rw [given] at left
    refine ⟨left ▸ List.nodup_nil, ?_, .inl left, fun _ => rfl, fun _ => rfl⟩
    rw [left]
    exact fun o mem => absurd mem List.not_mem_nil

end Begun

end Dispatch

/-- **Commands in order.** Take an operation of a session that has lived in any way, and any moves
that are permitted: orders are sent, some of them fail to be, and inputs come when nothing is left
to be sent or from those who have been sent their orders. Then everyone is sent the beginning of a
course, every stage sends its command once at most to each and in session order, and whenever a
decision is left, by an input or by an order that cannot be sent, it is given out once more to
exactly those still bound whose error it counted, and to nobody whose success it counted. -/
theorem commands_in_order {id : UInt64} {issuer : String} {history : List Act} {d : Docket}
    (past : d = (Docket.born id issuer).live history) {intent : Intent} {begun : Coordinator}
    {effect : Effect}
    (h : d.coordinator.begin (Stage.initial d.coordinator.session.xa intent) = (begun, .ok effect))
    {moves : List Dispatch.Move}
    (permitted : (Dispatch.ofBegun d begun effect).proceeds moves = true) :
    ((Dispatch.ofBegun d begun effect).after moves).InOrder
        (Stage.initial d.coordinator.session.xa intent) d.coordinator.session.participants ∧
      ∀ before m behind x, moves = before ++ m :: behind →
        x = (Dispatch.ofBegun d begun effect).after before → x.Repeats (x.move m) (x.heard m) := by
  have settled := Docket.settled_born id issuer
  have distinct : d.ids.Nodup := past ▸ Docket.nodup_live settled List.nodup_nil history
  have asksAll : (Stage.initial d.coordinator.session.xa intent).isCleanup = false := by
    cases d.coordinator.session.xa <;> cases intent <;> rfl
  have charted := Dispatch.charted_ofBegun h distinct asksAll
  have orderly := Dispatch.orderly_ofBegun h distinct
  constructor
  · obtain ⟨_, _, charts⟩ := charted.after moves
    exact (orderly.after charted permitted).inOrder charts
  · rintro before m behind x - rfl
    obtain ⟨_, _, charts⟩ := charted.after before
    exact charts.repeats_move m

namespace Sample

def coupled : Docket :=
  (Docket.born 7 "x").live [.attach shardA, .attach shardB, .setXa true]

/-- Both shards have ended and prepared their branches and are told to commit; the first answers
with an error, and the second cannot be told. Then both are told again. -/
def twice : List Dispatch.Move :=
  [.send 0 none, .send 0 none, .input (ok shardA), .input (ok shardB),
    .send 0 none, .send 0 none, .input (ok shardA), .input (ok shardB),
    .send 0 none, .input (.event (.error shardA.id (some 1205) "busy")),
    .send 0 (some "broken pipe"), .send 0 none, .send 0 none]

end Sample

open Sample in
/-- The case of two shards that both fail to commit: both are sent the whole course. -/
theorem commands_in_order_of_two :
    ∃ begun effect, coupled.coordinator.begin (.start .commit) = (begun, .ok effect) ∧
      (Dispatch.ofBegun coupled begun effect).proceeds twice = true ∧
      ((Dispatch.ofBegun coupled begun effect).after twice).InOrder (.start .commit)
        [shardA, shardB] ∧
      (((Dispatch.ofBegun coupled begun effect).after twice).sent.map fun o =>
          (o.link, o.command.kind)) =
        [.xaEnd, .xaPrepare, .xaCommit, .xaCommit].flatMap fun kind =>
          [(shardA, kind), (shardB, kind)] := by
  refine ⟨_, _, Coordinator.begin_eq_follow (c := coupled.coordinator) rfl _, ?_, ?_, ?_⟩
  · decide +kernel
  · exact (commands_in_order (show coupled = (Docket.born 7 "x").live _ from rfl)
      (show coupled.coordinator.begin
          (Stage.initial coupled.coordinator.session.xa .commit) = _ from
        Coordinator.begin_eq_follow rfl _) (by decide +kernel)).1
  · decide +kernel

end AtomicCommit
