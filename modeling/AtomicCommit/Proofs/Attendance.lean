import AtomicCommit.Proofs.Lockstep
import AtomicCommit.Proofs.Wiring

/-!
# Attendance

A participant that owes an answer is attended to if its command is still to be sent, or it was sent
and its connection is open, or the close of a connection is still to be told for its shard.
`Attended` says that nobody who owes an answer goes unattended while certain tasks wait.

* **events** — `Coordinator.heard`: an event settles whomever it is about, and leaves the others
  owing what they owed, or asked by the next stage.
* **tasks** — `Attended.quiet` for those that do not reach the coordinator, `Attended.handle` for
  those that do, and `Attended.perform` for all.
-/

namespace AtomicCommit

open Wire Transport

/-! ## Events -/

/-- The command that the stage in flight has for a link. -/
def Operation.order? (o : Operation) (link : Link) : Option Command :=
  o.stage.map fun s => Command.worded s.command o.xid link.id.shard

theorem Operation.order?_congr {o o' : Operation} (stage : o'.stage = o.stage)
    (xid : o'.xid = o.xid) : o'.order? = o.order? := by
  unfold order?
  rw [stage, xid]

namespace Coordinator

variable {c c' : Coordinator}

/-- Everyone who owes an answer is bound. -/
def Accounted (c : Coordinator) : Prop :=
  ∀ id ∈ c.operation.cohort.pending, ∃ link ∈ c.session.participants, link.id = id

theorem Accounted.of_same (accounted : c.Accounted)
    (cohort : c'.operation.cohort = c.operation.cohort)
    (participants : c'.session.participants = c.session.participants) : c'.Accounted := by
  unfold Accounted
  rw [cohort, participants]
  exact accounted

/-- A stage has been entered, and its commands are for those who now owe an answer. -/
structure Enters (c : Coordinator) (commands : List (Link × Command)) : Prop where
  accounted : c.Accounted
  asked : ∀ link ∈ c.session.participants, link.id ∈ c.operation.cohort.pending →
    ∃ command, (link, command) ∈ commands ∧ c.operation.order? link = some command

theorem enters_landed (c : Coordinator) (t : Stage) : (c.landed t).Enters (c.orders t) := by
  constructor
  · intro id owes
    obtain ⟨q, ordered, rfl⟩ := Docket.sent_of_landed owes
    obtain ⟨link, bound, rfl⟩ := List.mem_map.mp ordered
    exact ⟨link, (List.mem_filter.mp bound).1, rfl⟩
  · intro link bound owes
    have target : link.id ∈ t.targets c.session.participantIds := List.mem_eraseDups.mp owes
    refine ⟨_, List.mem_map_of_mem (List.mem_filter.mpr ⟨bound, ?_⟩), rfl⟩
    exact List.contains_iff_mem.mpr target

/-- Whoever owes an answer after an event did so before, and the event is about somebody else. -/
theorem owed_of_absorb (sound : c.Sound) {s : Stage} (busy : c.Running s) (e : Event)
    {id : ParticipantId}
    (owes : id ∈ ((Docket.mk c []).absorb (.event e)).operation.cohort.pending) :
    id ∈ c.operation.cohort.pending ∧ e.about? ≠ some id := by
  let d : Docket := ⟨c, []⟩
  have owed : id ∈ c.operation.cohort.pending :=
    (Docket.pending_absorb_sublist (d := d) busy _).subset owes
  refine ⟨owed, ?_⟩
  intro about
  rw [Docket.pending_absorb (d := d) busy] at owes
  obtain ⟨entry, entered, named⟩ := entryOf_of_owed about owed
  have settles : (d.coordinator.inputEntryOf (.event e)).bind Cohort.Entry.id? = some id := by
    show (c.entryOf e).bind _ = _
    rw [entered]
    exact named
  -- Nobody owes twice, so the one who has been counted is no longer pending.
  rw [settles] at owes
  exact sound.owing.not_mem_erase owes

/-- What an event comes to for those who owe an answer. -/
inductive Heard (c : Coordinator) (e : Event) (out : Coordinator × Effect) : Prop where
  /-- The stage stays as it is, and whomever the event is about owes nothing. -/
  | stays (effect : out.2 = .idle) (stage : out.1.operation.stage = c.operation.stage)
      (xid : out.1.operation.xid = c.operation.xid)
      (fewer : ∀ id ∈ out.1.operation.cohort.pending,
        id ∈ c.operation.cohort.pending ∧ e.about? ≠ some id)
  | enters {commands : List (Link × Command)} (effect : out.2 = .send commands)
      (inFlight : c.operation.stage ≠ none) (enters : out.1.Enters commands)
  | rests {verdict : Verdict} (effect : out.2 = .conclude verdict) (rests : out.1.AtRest)

theorem heard (sound : c.Sound) (e : Event) : c.Heard e (c.handle e) := by
  rcases sound.settled with ⟨s, busy⟩ | rest
  · let d : Docket := ⟨c, []⟩
    rcases Docket.step_turn (d := d) busy (.event e) with stays | leaves
    · have after : (c.handle e).1 = d.absorb (.event e) := stays.after
      have xid : (c.handle e).1.operation.xid = c.operation.xid := by
        rw [after]
        exact Docket.xid_absorb (d := d) busy _
      refine .stays stays.effect (stays.running.stage.trans busy.stage.symm) xid ?_
      intro id owes
      rw [after] at owes
      exact owed_of_absorb sound busy e owes
    · -- The cohort has closed: the next stage asks everyone bound, or nobody is asked any more.
      rcases leaves.lands busy with ⟨t, -, after, effect, -⟩ | ⟨⟨verdict, effect⟩, rests, -⟩
      · have inFlight : c.operation.stage ≠ none := by simp [busy.stage]
        have after : (c.handle e).1 = (d.absorb (.event e)).settled.landed t := after
        exact .enters effect inFlight (after ▸ enters_landed (d.absorb (.event e)).settled t)
      · exact .rests effect rests
  · rw [handle_of_atRest rest]
    refine .stays rfl rfl rfl ?_
    intro id owes
    rw [show c.operation = {} from rest] at owes
    exact absurd owes List.not_mem_nil

/-- Whoever is bound stays so unless the event is about it. -/
theorem mem_unbind {e : Event} {link : Link} (bound : link ∈ c.session.participants)
    (other : e.about? ≠ some link.id) : link ∈ (c.unbind e).participants := by
  cases e with
  | closed closed reason =>
    have different : ¬ (link.id == closed.id) = true := by
      intro same
      exact other (congrArg some (eq_of_beq same).symm)
    exact (List.mem_eraseP_of_neg (p := fun other => other.id == closed.id) different).mpr bound
  | ok | error | connectError => exact bound

theorem participants_handle (sound : c.Sound) (e : Event) :
    (c.handle e).1.session.participants = (c.unbind e).participants := by
  obtain ⟨on, same⟩ := session_handle sound.settled e
  rw [same, Session.participants_discardIf]

/-- Those who go on to owe an answer are still bound. -/
theorem accounted_handle (sound : c.Sound) (accounted : c.Accounted) {e : Event}
    (fewer : ∀ id ∈ (c.handle e).1.operation.cohort.pending,
      id ∈ c.operation.cohort.pending ∧ e.about? ≠ some id) : (c.handle e).1.Accounted := by
  intro id owes
  obtain ⟨owed, other⟩ := fewer id owes
  obtain ⟨link, bound, rfl⟩ := accounted id owed
  exact ⟨link, participants_handle sound e ▸ mem_unbind bound other, rfl⟩

theorem Sound.handle (sound : c.Sound) (e : Event) : (c.handle e).1.Sound :=
  sound.of_leadsTo ⟨[], [.input (.event e)], rfl⟩

theorem Sound.of_same (sound : c.Sound) (operation : c'.operation = c.operation)
    (participants : c'.session.participants = c.session.participants) : c'.Sound where
  settled := sound.settled.of_operation operation
  bound := by
    unfold Session.participantIds
    rw [participants]
    exact sound.bound
  owing := operation ▸ sound.owing

theorem Sound.of_unbound (sound : c.Sound) (operation : c'.operation = c.operation)
    (nobody : c'.session.participants = []) : c'.Sound where
  settled := sound.settled.of_operation operation
  bound := by
    unfold Session.participantIds
    rw [nobody]
    exact List.nodup_nil
  owing := operation ▸ sound.owing

end Coordinator

/-! ## Attendance -/

namespace Network

/-- Somebody who owes an answer is attended to. -/
inductive Attends (b : Board) (pool : List Task) (sent : List (Link × Command)) (link : Link) :
    Prop where
  /-- The command of the stage is still to be sent. -/
  | ordered {command : Command} (order : b.operation.order? link = some command)
      (waits : .command link command ∈ pool)
  /-- The command was sent, and the connection is open. -/
  | asked {command : Command} (order : b.operation.order? link = some command)
      (was : (link, command) ∈ sent) (listens : b.Listens link.handle link)
      (isOpen : b.IsOpen link.handle)
  /-- A backend of the same shard is still to be told that its connection closed. -/
  | closing {service : Nat} {other : Link} {reason : String}
      (told : .notify service reason ∈ pool) (listens : b.Listens service other)
      (same : other.id = link.id)

/-- While these tasks wait and these commands have been sent since the stage was entered, everyone
who owes an answer is attended to, besides perhaps one. If a transaction was released since the
operation in flight began, nobody is bound who could owe an answer. -/
structure Attended (n : Network) (pool : List Task) (sent : List (Link × Command))
    (released : Bool) (but : Option ParticipantId) : Prop where
  sound : n.coordinator.Sound
  wired : n.board.Wired
  accounted : released = false → n.coordinator.Accounted
  attends : released = false → ∀ link ∈ n.coordinator.session.participants,
    link.id ∈ n.coordinator.operation.cohort.pending → but ≠ some link.id →
      Attends n.board pool sent link
  unbound : released = true → n.coordinator.operation.stage ≠ none →
    n.coordinator.session.participants = []

variable {n n' : Network} {pool pool' : List Task} {sent : List (Link × Command)}
  {released : Bool} {but : Option ParticipantId}

/-- Without an operation in flight nobody owes anything. -/
theorem attended_of_rest (sound : n.coordinator.Sound) (wired : n.board.Wired)
    (rest : n.coordinator.operation.stage = none) : Attended n pool sent released but := by
  have nobody : n.coordinator.operation.cohort.pending = [] := by
    rw [sound.inStep.rest rest]
  refine ⟨sound, wired, ?_, ?_, fun _ busy => absurd rest busy⟩
  · intro _ id owes
    rw [nobody] at owes
    exact absurd owes List.not_mem_nil
  · intro _ link _ owes
    rw [nobody] at owes
    exact absurd owes List.not_mem_nil

theorem Attended.of_board (attended : Attended n pool sent released but)
    (same : n'.board = n.board) : Attended n' pool sent released but := by
  have operation : n'.coordinator.operation = n.coordinator.operation :=
    congrArg Board.operation same
  have participants : n'.coordinator.session.participants = n.coordinator.session.participants :=
    congrArg Board.participants same
  refine ⟨attended.sound.of_same operation participants, same ▸ attended.wired, ?_, ?_, ?_⟩
  · intro kept
    exact (attended.accounted kept).of_same (congrArg Operation.cohort operation) participants
  · rw [operation, participants, same]
    exact attended.attends
  · rw [operation, participants]
    exact attended.unbound

/-! ### Steps that do not reach the coordinator -/

/-- A step that leaves stage and cohort alone, and what it leads to. -/
structure Quiet (n : Network) (out : Network × List Task) : Prop where
  tends : n.board.Tends out.1.board out.2
  sound : n.coordinator.Sound → out.1.coordinator.Sound

theorem quiet_of_board {out : Network × List Task} (wired : n.board.Wired)
    (same : out.1.board = n.board) : Quiet n out where
  tends := wired.tends_of_eq same _
  sound sound := sound.of_same (congrArg Board.operation same) (congrArg Board.participants same)

/-- What waits goes on to wait. -/
theorem Attended.quiet {out : Network × List Task} (attended : Attended n pool sent released but)
    (quiet : Quiet n out) : Attended out.1 (out.2 ++ pool) sent released but := by
  obtain ⟨tends, sound⟩ := quiet
  have participants : out.1.coordinator.session.participants =
    n.coordinator.session.participants := tends.participants
  have stage : out.1.coordinator.operation.stage = n.coordinator.operation.stage := tends.stage
  have cohort : out.1.coordinator.operation.cohort = n.coordinator.operation.cohort := tends.cohort
  have orders : out.1.board.operation.order? = n.board.operation.order? :=
    Operation.order?_congr tends.stage tends.xid
  refine ⟨sound attended.sound, tends.wired, ?_, ?_, ?_⟩
  · intro kept
    exact (attended.accounted kept).of_same cohort participants
  · rw [participants, cohort]
    intro kept link bound owes other
    cases attended.attends kept link bound owes other with
    | ordered order waits => exact .ordered (orders ▸ order) (List.mem_append_right _ waits)
    | asked order was listens isOpen =>
      have listensNow := tends.listens _ _ listens
      -- a connection that closes in this step leaves a notice behind
      rcases tends.opens link bound isOpen with still | ⟨reason, told⟩
      · exact .asked (orders ▸ order) was listensNow still
      · exact .closing (List.mem_append_left _ told) listensNow rfl
    | closing told listens same =>
      exact .closing (List.mem_append_right _ told) (tends.listens _ _ listens) same
  · rw [stage, participants]
    exact attended.unbound

/-! ### More tasks and fewer -/

/-- More tasks do no harm. -/
theorem Attended.more (attended : Attended n pool sent released but)
    (still : ∀ task ∈ pool, task ∈ pool') : Attended n pool' sent released but := by
  refine ⟨attended.sound, attended.wired, attended.accounted, ?_, attended.unbound⟩
  intro kept link bound owes other
  cases attended.attends kept link bound owes other with
  | ordered order waits => exact .ordered order (still _ waits)
  | asked order was listens isOpen => exact .asked order was listens isOpen
  | closing told listens same => exact .closing (still _ told) listens same

/-- A link may be attended to by this task. -/
def Concerns (b : Board) (link : Link) : Task → Prop
  | .command other _ => other = link
  | .notify service _ => ∃ other, b.Listens service other ∧ other.id = link.id
  | _ => False

/-- A task is done that concerns nobody, besides perhaps one. -/
theorem Attended.done {task : Task} (attended : Attended n (task :: pool) sent released none)
    (others : ∀ link ∈ n.coordinator.session.participants, but ≠ some link.id →
      ¬ Concerns n.board link task) : Attended n pool sent released but := by
  refine ⟨attended.sound, attended.wired, attended.accounted, ?_, attended.unbound⟩
  intro kept link bound owes other
  have unconcerned := others link bound other
  -- What attends to a participant is another task than the one that is done.
  cases attended.attends kept link bound owes (by simp) with
  | ordered order waits =>
    rcases List.mem_cons.mp waits with rfl | later
    · exact absurd rfl unconcerned
    · exact .ordered order later
  | asked order was listens isOpen => exact .asked order was listens isOpen
  | closing told listens same =>
    rcases List.mem_cons.mp told with rfl | later
    · exact absurd ⟨_, listens, same⟩ unconcerned
    · exact .closing later listens same

/-! ### Events -/

/-- What was sent since the stage in flight was entered. -/
def carried (n n' : Network) (sent now : List (Link × Command)) : List (Link × Command) :=
  if n'.coordinator.operation.stage = n.coordinator.operation.stage then sent ++ now else []

theorem carried_of_same (same : n'.coordinator.operation.stage = n.coordinator.operation.stage)
    (sent : List (Link × Command)) : carried n n' sent [] = sent := by
  unfold carried
  rw [if_pos same, List.append_nil]

/-- Nothing shows on the board. -/
theorem Attended.still (attended : Attended n pool sent released but) (same : n'.board = n.board) :
    Attended n' ([] ++ pool) (carried n n' sent []) released but := by
  rw [carried_of_same (congrArg (fun b : Board => b.operation.stage) same)]
  exact attended.of_board same

theorem coordinator_holdAll (n : Network) (effect : Effect) :
    (n.holdAll effect).coordinator = n.coordinator := by
  cases effect with
  | idle | conclude => rfl
  | send commands =>
    simp only [holdAll]
    induction commands generalizing n with
    | nil => rfl
    | cons p rest ih => exact ih (n.hold p.1.handle)

theorem coordinator_advance (n : Network) (c : Coordinator) (effect : Effect) :
    (n.advance c effect).1.coordinator = c :=
  coordinator_holdAll ..

theorem board_advance (n : Network) (c : Coordinator) (effect : Effect) :
    (n.advance c effect).1.board = { n.board with
      participants := c.session.participants, operation := c.operation } :=
  board_holdAll ..

theorem wired_advance (wired : n.board.Wired) {c : Coordinator}
    (fewer : c.session.participants ⊆ n.coordinator.session.participants) (effect : Effect) :
    (n.advance c effect).1.board.Wired := by
  rw [board_advance]
  exact ⟨wired.backends, fun link bound => wired.bound link (fewer bound)⟩

theorem mem_tasksOf_send {commands : List (Link × Command)} {link : Link} {command : Command}
    (sends : (link, command) ∈ commands) : .command link command ∈ tasksOf (.send commands) :=
  List.mem_flatMap.mpr ⟨_, sends, List.mem_cons_self⟩

/-- While the stage stays as it is, fewer need to be attended to. -/
theorem Attended.stays {c : Coordinator} (attended : Attended n pool sent released but)
    (sound : c.Sound) (accounted : released = false → c.Accounted)
    (fewer : c.session.participants ⊆ n.coordinator.session.participants)
    (stage : c.operation.stage = n.coordinator.operation.stage)
    (xid : c.operation.xid = n.coordinator.operation.xid)
    (owed : ∀ id ∈ c.operation.cohort.pending,
      id ∈ n.coordinator.operation.cohort.pending ∧ but ≠ some id) (effect : Effect) :
    Attended (n.advance c effect).1 pool sent released none := by
  have orders : c.operation.order? = n.board.operation.order? := Operation.order?_congr stage xid
  have same := coordinator_advance n c effect
  refine ⟨by rw [same]; exact sound, wired_advance attended.wired fewer _,
    by rw [same]; exact accounted, ?_, ?_⟩
  · rw [same, board_advance]
    intro kept link bound owes _
    obtain ⟨before, other⟩ := owed _ owes
    cases attended.attends kept link (fewer bound) before other with
    | ordered order waits => exact .ordered (orders ▸ order) waits
    | asked order was listens isOpen => exact .asked (orders ▸ order) was listens isOpen
    | closing told listens same => exact .closing told listens same
  · rw [same, stage]
    intro gone busy
    exact List.subset_nil.mp (attended.unbound gone busy ▸ fewer)

/-- When a stage is entered, everyone whom it asks has a command to be sent. -/
theorem attended_of_enters {c : Coordinator} {commands : List (Link × Command)}
    (sound : c.Sound) (wired : n.board.Wired) (enters : c.Enters commands)
    (fewer : c.session.participants ⊆ n.coordinator.session.participants)
    (unbound : released = true → n.coordinator.session.participants = [])
    (new : ∀ task ∈ tasksOf (.send commands), task ∈ pool) :
    Attended (n.advance c (.send commands)).1 pool sent released but := by
  have same := coordinator_advance n c (.send commands)
  refine ⟨by rw [same]; exact sound, wired_advance wired fewer _,
    fun _ => by rw [same]; exact enters.accounted, ?_, ?_⟩
  · rw [same, board_advance]
    -- A stage that is entered has a command waiting for everyone who owes.
    intro _ link part owes _
    obtain ⟨command, sends, order⟩ := enters.asked link part owes
    exact .ordered order (new _ (mem_tasksOf_send sends))
  · rw [same]
    exact fun gone _ => List.subset_nil.mp (unbound gone ▸ fewer)

/-- **Events.** An event settles whomever it is about, so that one need not be attended to. -/
theorem Attended.handle {e : Event} (attended : Attended n pool sent released e.about?) :
    Attended (n.handle e).1 ((n.handle e).2 ++ pool) (carried n (n.handle e).1 sent []) released
      none := by
  have sound := attended.sound.handle e
  have fewer : (n.coordinator.handle e).1.session.participants ⊆
      n.coordinator.session.participants :=
    (Docket.participants_step_sublist (d := ⟨n.coordinator, []⟩) attended.sound.settled
      (.event e)).subset
  have next : (n.handle e).1 =
      (n.advance (n.coordinator.handle e).1 (n.coordinator.handle e).2).1 := rfl
  have tasks : (n.handle e).2 = tasksOf (n.coordinator.handle e).2 ++
      ((n.unboundBy? e).map fun link => .reap link.handle).toList := rfl
  have same := coordinator_advance n (n.coordinator.handle e).1 (n.coordinator.handle e).2
  rw [next, tasks]
  cases n.coordinator.heard attended.sound e with
  | stays effect stage xid owed =>
    have accounted (kept : released = false) :=
      Coordinator.accounted_handle attended.sound (attended.accounted kept) owed
    have kept : (n.advance (n.coordinator.handle e).1
        (n.coordinator.handle e).2).1.coordinator.operation.stage =
          n.coordinator.operation.stage := by
      rw [same]
      exact stage
    -- within a stage, what was sent still counts
    rw [carried_of_same kept]
    apply (attended.stays sound accounted fewer stage xid owed _).more
    exact fun task waits => List.mem_append_right _ waits
  | enters effect inFlight enters =>
    rw [effect]
    -- everyone who is asked has a command among the new tasks
    apply attended_of_enters sound attended.wired enters fewer (attended.unbound · inFlight)
    intro task waits
    exact List.mem_append_left _ (List.mem_append_left _ waits)
  | rests effect rests =>
    apply attended_of_rest
    · rw [same]
      exact sound
    · exact wired_advance attended.wired fewer _
    · rw [same, show (n.coordinator.handle e).1.operation = {} from rests]

/-! ### Tasks -/

theorem board_tell_of_silent (n : Network) {link : Link} {listener : Listener} {notice : Notice}
    (silent : listener ≠ .coordinator ∨ notice.event? link = none) :
    (n.tell link listener notice).1.board = n.board ∧ (n.tell link listener notice).2 = [] := by
  cases listener with
  | nobody => exact ⟨rfl, rfl⟩
  | coordinator =>
    have unheard := silent.resolve_left fun other => other rfl
    simp [Network.tell, unheard]
  | script full =>
    unfold Network.tell
    refine ⟨?_, rfl⟩
    dsimp only
    split <;> rfl

/-- A backend tells its listener. If that is the coordinator, the backend's shard is settled. -/
theorem Attended.tell {link : Link} {listener : Listener} {notice : Notice}
    (attended : Attended n pool sent released but)
    (about : ∀ id, but = some id →
      id = link.id ∧ listener = .coordinator ∧ notice.event? link ≠ none) :
    Attended (n.tell link listener notice).1 ((n.tell link listener notice).2 ++ pool)
      (carried n (n.tell link listener notice).1 sent []) released none := by
  by_cases spoken : listener = .coordinator ∧ notice.event? link ≠ none
  · obtain ⟨rfl, spoken⟩ := spoken
    obtain ⟨e, heard⟩ := Option.ne_none_iff_exists'.mp spoken
    have told : n.tell link .coordinator notice = n.handle e := by
      simp only [Network.tell, heard]
    rw [told]
    apply Attended.handle
    refine { attended with attends := ?_ }
    intro kept link' bound owes other
    refine attended.attends kept link' bound owes fun named => ?_
    apply other
    rw [Notice.about_of_event heard, (about _ named).1]
  · -- nobody hears this, and so nobody may be left out
    have nobody : but = none := by
      rw [Option.eq_none_iff_forall_ne_some]
      intro id named
      exact spoken (about id named).2
    have silent : listener ≠ .coordinator ∨ notice.event? link = none := by
      by_cases here : listener = .coordinator
      · exact .inr (by_contra fun heard => spoken ⟨here, heard⟩)
      · exact .inl here
    obtain ⟨same, none⟩ := n.board_tell_of_silent silent
    subst nobody
    rw [none]
    exact attended.still same

theorem post_of_service {service : Nat} {s : Service} (there : n.services[service]? = some s) :
    n.board.posts[service]? = some s.post := by
  rw [getElem?_posts, there]
  rfl

/-- A service is told that its connection closed. -/
theorem Attended.notify {service : Nat} {reason : String}
    (attended : Attended n (.notify service reason :: pool) sent released none) :
    Attended (n.notify service reason).1 ((n.notify service reason).2 ++ pool)
      (carried n (n.notify service reason).1 sent []) released none := by
  have unheard : (∀ link, ¬ n.board.Listens service link) → Attended n pool sent released none := by
    intro nobody
    apply attended.done
    rintro link - - ⟨other, listens, -⟩
    exact nobody other listens
  unfold Network.notify
  cases there : n.services[service]? with
  | none =>
    refine (unheard ?_).still (show n.board = n.board from rfl)
    intro link listens
    obtain ⟨s, _, found, -⟩ := reports_of_listens listens
    rw [there] at found
    exact absurd found (by simp)
  | some s =>
    have speaks : ∀ {link}, n.board.Listens service link →
        ∃ replies, s.role = .backend link replies .coordinator := by
      intro link listens
      obtain ⟨s', replies, found, role⟩ := reports_of_listens listens
      obtain rfl := Option.some.inj (there.symm.trans found)
      exact ⟨replies, role⟩
    dsimp only
    cases role : s.role with
    | recorder key actions seen =>
      refine (unheard ?_).still (show (n.observe _).board = n.board from rfl)
      intro link listens
      obtain ⟨_, backend⟩ := speaks listens
      rw [role] at backend
      exact absurd backend (by simp)
    | backend link replies listener =>
      dsimp only
      by_cases here : listener = .coordinator
      · subst here
        -- whoever waited for this notice is settled by it
        have settled : Attended n pool sent released (some link.id) := by
          apply attended.done
          rintro other - different ⟨heard, listens, same⟩
          obtain ⟨_, backend⟩ := speaks listens
          obtain ⟨rfl, -, -⟩ := Role.backend.inj (role.symm.trans backend)
          exact different (congrArg some same)
        apply settled.tell
        rintro id ⟨rfl⟩
        exact ⟨rfl, rfl, by simp [Notice.event?]⟩
      · refine (unheard ?_).tell (by simp)
        intro other listens
        obtain ⟨_, backend⟩ := speaks listens
        obtain ⟨-, -, coordinates⟩ := Role.backend.inj (role.symm.trans backend)
        exact here coordinates

/-- A frame is handed to a service. -/
theorem Attended.deliver {service : Nat} {frame : Bytes}
    (attended : Attended n (.deliver service frame :: pool) sent released none) :
    Attended (n.deliver service frame).1 ((n.deliver service frame).2 ++ pool)
      (carried n (n.deliver service frame).1 sent []) released none := by
  have rest : Attended n pool sent released none := attended.done fun _ _ _ => id
  unfold Network.deliver
  cases there : n.services[service]? with
  | none => exact rest.still rfl
  | some s =>
    dsimp only
    cases role : s.role with
    | recorder key actions seen =>
      dsimp only
      let counted := n.updateService service fun s =>
        { s with role := .recorder key (actions.partition (isDue (seen + 1))).2 (seen + 1) }
      have same : counted.board = n.board := n.board_updateRole there (by rw [role]; rfl)
      have observed : (counted.observe (.frame key frame)).board = n.board := same
      exact (rest.still observed).more fun task waits => List.mem_append_right _ waits
    | backend link replies listener =>
      dsimp only
      let moved := n.updateService service fun s =>
        { s with role := .backend link (replies.hear frame).1 listener }
      have same : moved.board = n.board := n.board_updateRole there (by rw [role]; rfl)
      cases Notice.ofFrame? frame (replies.hear frame).2 with
      | none => exact rest.still same
      | some notice =>
        have told : Attended (moved.tell link listener notice).1
            ((moved.tell link listener notice).2 ++ pool)
            (carried n (moved.tell link listener notice).1 sent []) released none :=
          (rest.of_board same).tell (by simp)
        -- A fault also closes the connection; the task for that waits behind the telling.
        have closing : ∀ (a : Address) (reason : String),
            Attended (moved.tell link listener notice).1
              ((moved.tell link listener notice).2 ++ [.close a reason] ++ pool)
              (carried n (moved.tell link listener notice).1 sent []) released none := by
          intro a reason
          apply told.more
          intro task waits
          simp only [List.mem_append] at waits ⊢
          exact waits.imp_left .inl
        dsimp only
        split
        · exact told
        · exact closing ..
        · exact told

/-- Whether the backend of a link takes a command. -/
def accepts (n : Network) (link : Link) (command : Command) : Bool :=
  match n.services[link.handle]? with
  | some s => (n.write s.address (command.append [])).2.isOk
  | none => false

def dispatched (n : Network) : Task → List (Link × Command)
  | .command link command => if n.accepts link command then [(link, command)] else []
  | _ => []

/-- From when a command is sent, the coordinator listens to the backend. -/
theorem Attended.listen {link : Link} {command : Command} {now : List (Link × Command)}
    (attended : Attended n (.command link command :: pool) sent released none)
    (board : n'.board = n.board.listen link.handle .coordinator)
    (served : but = some link.id ∨ (link, command) ∈ now ∧
      (link ∈ n.coordinator.session.participants → n.board.IsOpen link.handle)) :
    Attended n' pool (sent ++ now) released but := by
  have operation : n'.coordinator.operation = n.coordinator.operation :=
    congrArg Board.operation board
  have participants : n'.coordinator.session.participants = n.coordinator.session.participants :=
    congrArg Board.participants board
  refine ⟨attended.sound.of_same operation participants, board ▸ attended.wired.listen _ _,
    ?_, ?_, by rw [operation, participants]; exact attended.unbound⟩
  · intro kept
    exact (attended.accounted kept).of_same (congrArg Operation.cohort operation) participants
  · rw [operation, participants, board]
    intro kept other bound owes different
    cases attended.attends kept other bound owes (by simp) with
    | ordered order waits =>
      rcases List.mem_cons.mp waits with this | later
      · -- the command that is carried out now has been sent
        obtain ⟨rfl, rfl⟩ := Task.command.inj this
        obtain ⟨was, isOpen⟩ := served.resolve_left different
        exact .asked order (List.mem_append_right _ was)
          (attended.wired.listens_of_bound bound) (Board.isOpen_listen _ (isOpen bound))
      · exact .ordered order later
    | asked order was listens isOpen =>
      exact .asked order (List.mem_append_left _ was) (Board.listens_listen listens)
        (Board.isOpen_listen _ isOpen)
    | closing told listens same =>
      exact .closing ((List.mem_cons.mp told).resolve_left (by simp))
        (Board.listens_listen listens) same

theorem write_updateService (n : Network) (service : Nat) (f : Service → Service) (a : Address)
    (data : Bytes) : ((n.updateService service f).write a data).2 = (n.write a data).2 := by
  have hub : (n.updateService service f).hub a.side = n.hub a.side := by
    cases a.side <;> rfl
  unfold write
  rw [hub]
  generalize (n.hub a.side).write a.place data = out
  obtain ⟨h, result⟩ := out
  cases result with
  | error fault => rfl
  | ok woken => cases woken <;> rfl

/-- What sending a command can come to. -/
theorem command_cases (n : Network) (link : Link) (command : Command) :
    (n.services[link.handle]? = none ∧ n.command link command = (n, []) ∧
        n.accepts link command = false) ∨
      ∃ s after, n.services[link.handle]? = some s ∧
        after.board = n.board.listen link.handle .coordinator ∧
        ((n.command link command = (after, []) ∧ n.accepts link command = true ∧
            (n.write s.address (command.append [])).2.isOk = true) ∨
          ∃ fault : Fault, n.command link command =
            after.handle (.error link.id none fault.message) ∧ n.accepts link command = false) := by
  unfold Network.command accepts
  cases there : n.services[link.handle]? with
  | none => exact .inl ⟨rfl, rfl, rfl⟩
  | some s =>
    have board := (board_write (n.updateService link.handle fun s =>
      { s with role := s.role.listen .coordinator }) s.address (command.append [])).trans
        (n.board_listen link.handle .coordinator)
    have same := n.write_updateService link.handle
      (fun s => { s with role := s.role.listen .coordinator }) s.address (command.append [])
    dsimp only
    generalize (n.updateService link.handle fun s =>
      { s with role := s.role.listen .coordinator }).write s.address (command.append []) = out
        at board same
    obtain ⟨after, result⟩ := out
    refine .inr ⟨s, after, rfl, board, ?_⟩
    rw [← same]
    cases result with
    | ok => exact .inl ⟨rfl, rfl, rfl⟩
    | error fault => exact .inr ⟨fault, rfl, rfl⟩

/-- **Sending.** A command is sent, or counts as answered with an error. -/
theorem Attended.command {link : Link} {command : Command}
    (attended : Attended n (.command link command :: pool) sent released none) :
    Attended (n.command link command).1 ((n.command link command).2 ++ pool)
      (carried n (n.command link command).1 sent (n.dispatched (.command link command))) released
      none := by
  have bound : link ∈ n.coordinator.session.participants → ∃ p t,
      n.board.posts[link.handle]? = some p ∧ n.board.tie? p.address = some t := by
    intro part
    obtain ⟨p, listener, found, backend⟩ := attended.wired.bound link part
    obtain ⟨-, t, tie, -⟩ := attended.wired.backends _ p link listener found backend
    exact ⟨p, t, found, tie⟩
  show Attended _ _ (carried n _ sent
    (if n.accepts link command = true then [(link, command)] else [])) released none
  rcases n.command_cases link command with ⟨nobody, same, refused⟩ |
    ⟨s, after, there, board, ⟨same, accepted, wrote⟩ | ⟨fault, same, refused⟩⟩
  · rw [same, refused, if_neg Bool.false_ne_true, carried_of_same rfl]
    apply attended.done
    -- a link without a service is not bound
    rintro other part - rfl
    obtain ⟨p, -, found, -⟩ := bound part
    rw [getElem?_posts, nobody] at found
    exact absurd found (by simp)
  · have stage : after.coordinator.operation.stage = n.coordinator.operation.stage :=
      congrArg (fun b : Board => b.operation.stage) board
    have kept : carried n after sent [(link, command)] = sent ++ [(link, command)] := if_pos stage
    rw [same, accepted, if_pos rfl]
    show Attended after pool (carried n after sent [(link, command)]) released none
    rw [kept]
    refine attended.listen board (.inr ⟨List.mem_cons_self, fun part => ?_⟩)
    obtain ⟨p, t, found, tie⟩ := bound part
    obtain rfl := Option.some.inj ((post_of_service there).symm.trans found)
    have isOpen := isOk_write tie (command.append [])
    rw [show s.post.address = s.address from rfl, wrote] at isOpen
    obtain ⟨closed, own⟩ := t
    obtain rfl : closed = false := by simpa using isOpen.symm
    exact ⟨_, own, found, tie⟩
  · have stage : after.coordinator.operation.stage = n.coordinator.operation.stage :=
      congrArg (fun b : Board => b.operation.stage) board
    rw [same, refused, if_neg Bool.false_ne_true]
    have settled : Attended after pool (sent ++ []) released (some link.id) :=
      attended.listen board (.inl rfl)
    rw [List.append_nil] at settled
    have about : (Event.error link.id none fault.message).about? = some link.id := rfl
    have handled := (about ▸ settled).handle
    unfold carried at handled ⊢
    rw [stage] at handled
    exact handled

/-- Whether a task releases the participants. -/
def Task.concludes : Task → Bool
  | .conclude _ => true
  | _ => false

/-- Whether a task releases the participants while an operation is in flight. -/
def releases (n : Network) (task : Task) : Bool :=
  task.concludes && n.coordinator.inFlight

theorem stage_of_not_inFlight {c : Coordinator} (idle : c.inFlight = false) :
    c.operation.stage = none := by
  simpa [Coordinator.inFlight] using idle

/-- **Conclusions.** When the transaction is released, nobody is left to be attended to, unless the
next operation has begun. -/
theorem Attended.conclude {verdict : Verdict}
    (attended : Attended n (.conclude verdict :: pool) sent released none) :
    Attended (n.conclude verdict) ([] ++ pool) (carried n (n.conclude verdict) sent [])
      (released || n.coordinator.inFlight) none := by
  have operation := Coordinator.operation_conclude n.coordinator verdict
  have nobody : (n.coordinator.conclude verdict).1.session.participants = [] := by
    unfold Coordinator.conclude
    dsimp only
    split <;> rfl
  let unbound : Network := { n with coordinator := (n.coordinator.conclude verdict).1 }
  have wired : unbound.board.Wired := by
    refine ⟨attended.wired.backends, ?_⟩
    intro link bound
    rw [show unbound.board.participants = [] from nobody] at bound
    exact absurd bound List.not_mem_nil
  let services := n.coordinator.session.participants.map Link.handle
  obtain ⟨spared, still⟩ := unbound.reapAll_spares services
  have told := board_tellClient (unbound.reapAll services) (n.coordinator.conclude verdict).2.1
  have operationThen : (n.conclude verdict).coordinator.operation = n.coordinator.operation :=
    (congrArg Board.operation told).trans (spared.trans operation)
  have bound : (n.conclude verdict).coordinator.session.participants = [] :=
    (congrArg Board.participants told).trans (still.trans nobody)
  have sound : (n.conclude verdict).coordinator.Sound :=
    attended.sound.of_unbound operationThen bound
  have wiredThen : (n.conclude verdict).board.Wired := by
    rw [show (n.conclude verdict).board = _ from told]
    exact wired_reapAll wired services
  cases inFlight : n.coordinator.inFlight with
  | false =>
    apply attended_of_rest sound wiredThen
    rw [operationThen]
    exact stage_of_not_inFlight inFlight
  | true =>
    -- an operation that began meanwhile has lost its participants
    rw [Bool.or_true]
    exact ⟨sound, wiredThen, nofun, nofun, fun _ _ => bound⟩

/-! ### The other tasks -/

theorem quiet_close (wired : n.board.Wired) (a : Address) (reason : String) :
    Quiet n (n.close a reason) where
  tends := tends_close wired a reason
  sound sound := sound.of_same (n.close_spares a reason).1 (n.close_spares a reason).2

theorem quiet_reap (wired : n.board.Wired) (service : Nat) : Quiet n (n.reap service) where
  tends := tends_reap wired service
  sound sound := sound.of_same (n.reap_spares service).1 (n.reap_spares service).2

/-- What is quiet after nothing has shown on the board is quiet. -/
theorem Quiet.of_board {out : Network × List Task} (quiet : Quiet n' out)
    (same : n'.board = n.board) : Quiet n out where
  tends := same ▸ quiet.tends
  sound sound := quiet.sound (sound.of_same (congrArg Board.operation same)
    (congrArg Board.participants same))

theorem quiet_release (wired : n.board.Wired) (service : Nat) : Quiet n (n.release service) := by
  have same : (n.updateService service fun s => { s with holds := s.holds - 1 }).board = n.board :=
    n.board_updateService_of_post fun _ _ => rfl
  exact (quiet_reap (same ▸ wired) service).of_board same

theorem quiet_act (wired : n.board.Wired) (a : Address) (action : Action) :
    Quiet n (n.act a action) := by
  cases action with
  | close reason => exact quiet_close wired a reason
  | write data =>
    have same := n.board_write a data
    unfold act
    dsimp only
    generalize n.write a data = out at same
    obtain ⟨after, result⟩ := out
    cases result <;> exact quiet_of_board wired same

/-- Whatever else a task does is quiet. -/
theorem quiet_perform (wired : n.board.Wired) {task : Task}
    (other : match task with
      | .deliver .. | .notify .. | .command .. | .conclude _ => False
      | _ => True) : Quiet n (n.perform task) := by
  cases task with
  | read a crew => exact quiet_of_board wired (n.board_read a crew)
  | send a crew => exact quiet_of_board wired (n.board_send a crew)
  | settle a crew service split => exact quiet_of_board wired (n.board_settle a crew service split)
  | resume a crew => exact quiet_of_board wired (n.board_setHub_of_ties (Hub.counts_shrink ..).ties)
  | endReader a crew =>
    exact quiet_of_board wired (n.board_setHub_of_ties (Hub.counts_endReader ..).ties)
  | endWriter a crew =>
    exact quiet_of_board wired (n.board_setHub_of_ties (Hub.counts_endWriter ..).ties)
  | close a reason => exact quiet_close wired a reason
  | act a action => exact quiet_act wired a action
  | release service => exact quiet_release wired service
  | reap service => exact quiet_reap wired service
  | deliver | notify | command | conclude => exact other.elim

theorem or_releases_of_not_concludes {task : Task} (other : task.concludes = false) :
    (released || n.releases task) = released := by
  simp [releases, other]

/-- **Tasks.** Whatever is done, nobody who owes an answer goes unattended, unless the transaction
of an operation before is released while one is in flight. -/
theorem Attended.perform {task : Task} (attended : Attended n (task :: pool) sent released none) :
    Attended (n.perform task).1 ((n.perform task).2 ++ pool)
      (carried n (n.perform task).1 sent (n.dispatched task)) (released || n.releases task)
      none := by
  have others : ∀ {task : Task}, Attended n (task :: pool) sent released none →
      (match task with
        | .deliver .. | .notify .. | .command .. | .conclude _ => False
        | _ => True) → Attended (n.perform task).1 ((n.perform task).2 ++ pool)
          (carried n (n.perform task).1 sent []) released none := by
    intro task attended other
    -- these tasks do not reach the coordinator, and concern nobody
    have quiet := quiet_perform attended.wired other
    rw [carried_of_same quiet.tends.stage]
    have rest : Attended n pool sent released none := by
      apply attended.done
      intro link _ _ concerns
      cases task <;> first | exact concerns | exact other
    exact rest.quiet quiet
  cases task with
  | conclude verdict => exact attended.conclude
  | deliver service frame =>
    rw [or_releases_of_not_concludes rfl]
    exact attended.deliver
  | notify service reason =>
    rw [or_releases_of_not_concludes rfl]
    exact attended.notify
  | command link command =>
    rw [or_releases_of_not_concludes rfl]
    exact attended.command
  | read | send | settle | resume | endReader | endWriter | close | act | release | reap =>
    rw [or_releases_of_not_concludes rfl]
    exact others attended trivial

end Network

end AtomicCommit
