import AtomicCommit.Notice
import AtomicCommit.Proofs.Life
import AtomicCommit.Proofs.Prospect

/-!
# A life, scene by scene

`Docket.scenes` lists the acts of a life together with the docket that each of them found. A scene
*reports* what its act has sent, told and concluded, and *shows* what others can see of that: the
stage entered, the commands sent, the packet to the client. A callback of a backend's link is the
act that `Act.heard` makes of it, if it makes one.

* **counting** — `owing_act`: whoever owes an answer after an act owed it before, or has been
  sent a command by the act.
-/

namespace AtomicCommit

open Wire

/-- Whoever is not bound cannot be unbound. -/
theorem Session.detach_of_absent {s : Session} {id : ParticipantId}
    (absent : id ∉ s.participantIds) : (s.detach id).2 = s := by
  have none : s.participants.eraseP (·.id == id) = s.participants := by
    apply List.eraseP_of_forall_not
    intro p bound same
    apply absent
    rw [← eq_of_beq same]
    exact List.mem_map_of_mem bound
  simp only [detach]
  rw [none]

/-! ## Reports -/

/-- What a call that begins an operation leaves to be done. -/
def begunEffect : Except Fault Effect → Effect
  | .ok effect => effect
  | .error _ => .idle

namespace Docket

/-- What an act does besides changing the docket. -/
def report (d : Docket) : Act → Report
  | .begin stage => { effect := begunEffect (d.coordinator.begin stage).2 }
  | .commit => { effect := begunEffect d.coordinator.beginCommit.2 }
  | .rollback => { effect := begunEffect d.coordinator.beginRollback.2 }
  | .input i => (d.step i).2
  | _ => {}

end Docket

/-- What a backend's link has to say, as acts on the session. The rows of a result set and their
end are none. -/
def Act.heard (link : Link) (notice : Notice) : List Act :=
  (notice.event? link).toList.map fun e => .input (.event e)

/-! ## Whom an event is about -/

/-- The participant that an event names. -/
def Event.about? : Event → Option ParticipantId
  | .ok id _ | .error id _ _ => some id
  | .closed link _ => some link.id
  | .connectError id _ => id

/-- What a link says is about its own participant. -/
theorem Notice.about_of_event {link : Link} {notice : Notice} {e : Event}
    (heard : notice.event? link = some e) : e.about? = some link.id := by
  cases notice with
  | ok | error | closed | connectError | columnsEnd =>
    obtain rfl := Option.some.inj heard
    rfl
  | row | rowsEnd => exact absurd heard (by simp [Notice.event?])

namespace Coordinator

variable {c : Coordinator} {e : Event} {id : ParticipantId}

/-- An event about a participant that owes an answer is counted for it. -/
theorem entryOf_of_owed (about : e.about? = some id) (owes : id ∈ c.operation.cohort.pending) :
    ∃ entry, c.entryOf e = some entry ∧ entry.id? = some id := by
  have pending : c.operation.cohort.isPending id = true := List.contains_iff_mem.mpr owes
  cases e with
  | ok other packet =>
    obtain rfl := Option.some.inj about
    exact ⟨_, if_pos pending, rfl⟩
  | error other code message =>
    obtain rfl := Option.some.inj about
    simp only [entryOf, pending, if_true]
    split
    · exact ⟨_, rfl, rfl⟩
    · exact ⟨_, rfl, rfl⟩
  | closed link reason =>
    obtain rfl := Option.some.inj about
    exact ⟨_, if_pos pending, rfl⟩
  | connectError other fault =>
    obtain rfl : other = some id := about
    exact ⟨_, if_pos pending, rfl⟩

/-- What is counted of an event names whom the event is about. -/
theorem id_of_entryOf {entry : Cohort.Entry} (entered : c.entryOf e = some entry) :
    entry.id? = e.about? := by
  cases e with
  | connectError other fault =>
    cases other <;> simp only [entryOf] at entered <;> split at entered <;> cases entered <;> rfl
  | error other code message =>
    simp only [entryOf] at entered
    split at entered
    · split at entered <;> cases entered <;> rfl
    · exact absurd entered (by simp)
  | ok | closed =>
    simp only [entryOf] at entered
    split at entered <;> cases entered
    rfl

/-- An event about a participant that owes nothing is not counted. -/
theorem entryOf_of_unowed (about : e.about? = some id)
    (free : id ∉ c.operation.cohort.pending) : c.entryOf e = none := by
  have notPending : ¬ c.operation.cohort.isPending id = true := by
    intro pending
    exact free (List.contains_iff_mem.mp pending)
  cases e with
  | ok other packet =>
    obtain rfl := Option.some.inj about
    exact if_neg notPending
  | error other code message =>
    obtain rfl := Option.some.inj about
    exact if_neg notPending
  | closed link reason =>
    obtain rfl := Option.some.inj about
    exact if_neg notPending
  | connectError other fault =>
    obtain rfl : other = some id := about
    exact if_neg notPending

end Coordinator

/-! ## Scenes -/

/-- One act of a life. -/
structure Scene where
  docket : Docket
  act : Act
  deriving DecidableEq, Repr

/-- What others see of a session. -/
inductive Sign where
  | entered (stage : Stage)
  | sent (link : Link) (command : Command)
  | told (packet : Bytes)
  deriving DecidableEq, Repr

namespace Scene

def after (m : Scene) : Docket := m.docket.act m.act

def report (m : Scene) : Report := m.docket.report m.act

def stage (m : Scene) : Option Stage := m.docket.coordinator.operation.stage

/-- The entry that the open cohort makes of the act. -/
def entryOf (m : Scene) : Option Cohort.Entry :=
  match m.act with
  | .input i => m.docket.coordinator.inputEntryOf i
  | _ => none

/-- What others see of the act, in order. -/
def signs (m : Scene) : List Sign :=
  let entered := m.after.coordinator.operation.stage
  (if entered = m.stage then [] else entered.toList.map .entered) ++
    m.report.effect.commands.map (fun p => .sent p.1 p.2) ++ m.report.packet.toList.map .told

end Scene

namespace Docket

/-- The acts of a life, each with the docket that it finds. -/
def scenes (d : Docket) : List Act → List Scene
  | [] => []
  | a :: rest => ⟨d, a⟩ :: (d.act a).scenes rest

/-- What others see of a life. -/
def signs (d : Docket) (acts : List Act) : List Sign :=
  (d.scenes acts).flatMap Scene.signs

def commandsOf (d : Docket) (acts : List Act) : List (Link × Command) :=
  (d.scenes acts).flatMap fun m => m.report.effect.commands

def verdictsOf (d : Docket) (acts : List Act) : List Verdict :=
  (d.scenes acts).flatMap fun m => m.report.effect.verdicts

variable {d : Docket}

theorem live_append (d : Docket) (xs ys : List Act) : d.live (xs ++ ys) = (d.live xs).live ys := by
  induction xs generalizing d with
  | nil => rfl
  | cons a xs ih => exact ih _

theorem scenes_append (d : Docket) (xs ys : List Act) :
    d.scenes (xs ++ ys) = d.scenes xs ++ (d.live xs).scenes ys := by
  induction xs generalizing d with
  | nil => rfl
  | cons a xs ih => exact congrArg (_ :: ·) (ih _)

/-- Every scene of a life starts where a part of the life has led. -/
theorem exists_of_mem_scenes {acts : List Act} {m : Scene} (h : m ∈ d.scenes acts) :
    ∃ xs ys, acts = xs ++ m.act :: ys ∧ m.docket = d.live xs := by
  induction acts generalizing d with
  | nil => exact absurd h List.not_mem_nil
  | cons a rest ih =>
    rcases List.mem_cons.mp h with rfl | later
    · exact ⟨[], rest, rfl, rfl⟩
    · obtain ⟨xs, ys, rfl, found⟩ := ih later
      exact ⟨a :: xs, ys, rfl, found⟩

theorem signs_append (d : Docket) (xs ys : List Act) :
    d.signs (xs ++ ys) = d.signs xs ++ (d.live xs).signs ys := by
  unfold signs
  rw [scenes_append, List.flatMap_append]

theorem signs_cons (d : Docket) (a : Act) (rest : List Act) :
    d.signs (a :: rest) = Scene.signs ⟨d, a⟩ ++ (d.act a).signs rest := rfl

theorem commandsOf_cons (d : Docket) (a : Act) (rest : List Act) :
    d.commandsOf (a :: rest) =
      (d.report a).effect.commands ++ (d.act a).commandsOf rest := rfl

theorem commandsOf_append (d : Docket) (xs ys : List Act) :
    d.commandsOf (xs ++ ys) = d.commandsOf xs ++ (d.live xs).commandsOf ys := by
  unfold commandsOf
  rw [scenes_append, List.flatMap_append]

theorem verdictsOf_cons (d : Docket) (a : Act) (rest : List Act) :
    d.verdictsOf (a :: rest) =
      (d.report a).effect.verdicts ++ (d.act a).verdictsOf rest := rfl

/-! ## Who owes an answer -/

def owing (d : Docket) : List ParticipantId :=
  d.coordinator.operation.cohort.pending

theorem owing_of_atRest (rest : d.coordinator.AtRest) : d.owing = [] := by
  unfold owing
  rw [show d.coordinator.operation = {} from rest]

/-- An input takes whoever it is counted for out of those who owe an answer. -/
theorem pending_absorb {s : Stage} (busy : d.coordinator.Running s) (i : Input) :
    (d.absorb i).operation.cohort.pending =
      (((d.coordinator.inputEntryOf i).bind Cohort.Entry.id?).map d.owing.erase).getD d.owing := by
  rw [cohort_absorb busy]
  cases d.coordinator.inputEntryOf i with
  | none => rfl
  | some entry => exact Cohort.Account.pending_book _ entry

theorem pending_absorb_sublist {s : Stage} (busy : d.coordinator.Running s) (i : Input) :
    (d.absorb i).operation.cohort.pending.Sublist d.owing := by
  rw [pending_absorb busy]
  cases (d.coordinator.inputEntryOf i).bind Cohort.Entry.id? with
  | none => exact List.Sublist.refl _
  | some id => exact List.erase_sublist

/-- Whoever a stage asks when it is entered is sent its command. -/
theorem sent_of_landed {c : Coordinator} {t : Stage} {id : ParticipantId}
    (owes : id ∈ (c.landed t).operation.cohort.pending) : ∃ q ∈ c.orders t, q.1.id = id := by
  have target : id ∈ t.targets c.session.participantIds := List.mem_eraseDups.mp owes
  have bound : id ∈ c.session.participantIds := by
    cases t with
    | cleanup decision retry => exact (List.mem_filter.mp target).1
    | start | prepare | commitAll | rollbackAll | plainCommit | plainRollback => exact target
  obtain ⟨link, attached, rfl⟩ := List.mem_map.mp bound
  refine ⟨_, List.mem_map_of_mem (List.mem_filter.mpr ⟨attached, ?_⟩), rfl⟩
  exact List.contains_iff_mem.mpr target

/-- **Counting.** After an input, whoever owes an answer still does so with the input taken in, or
is sent a command by the step. -/
theorem owing_step {s : Stage} (busy : d.coordinator.Running s) {i : Input} {id : ParticipantId}
    (owes : id ∈ (d.step i).1.owing) :
    id ∈ (d.absorb i).operation.cohort.pending ∨
      ∃ q ∈ (d.step i).2.effect.commands, q.1.id = id := by
  rcases step_turn busy i with stays | leaves
  · unfold owing at owes
    rw [stays.after] at owes
    exact .inl owes
  · rcases leaves.lands busy with ⟨t, -, after, effect, -⟩ | ⟨-, rests, -⟩
    · unfold owing at owes
      rw [after] at owes
      rw [effect]
      exact .inr (sent_of_landed (c := (d.absorb i).settled) owes)
    · rw [owing_of_atRest rests] at owes
      exact absurd owes List.not_mem_nil

/-- A call that begins an operation is refused, enters a stage, or has nobody to ask. -/
theorem begun_cases (settled : d.coordinator.Settled) (s : Stage) :
    (d.begun (d.coordinator.begin s) = d ∧ begunEffect (d.coordinator.begin s).2 = .idle) ∨
      (∃ c : Coordinator, (d.begun (d.coordinator.begin s)).coordinator = c.landed s ∧
        begunEffect (d.coordinator.begin s).2 = .send (c.orders s)) ∨
      (d.begun (d.coordinator.begin s)).coordinator.AtRest ∧
        (begunEffect (d.coordinator.begin s).2).commands = [] := by
  rcases settled with ⟨current, busy⟩ | rest
  · rw [Coordinator.begin_of_inFlight busy.stage]
    exact .inl ⟨rfl, rfl⟩
  · have idle : d.coordinator.operation.stage = none := by
      rw [show d.coordinator.operation = {} from rest]
    rw [Coordinator.begin_eq_follow idle]
    by_cases nobody : s.targets (d.coordinator.fresh s).session.participantIds = []
    · rw [Coordinator.follow_of_nobody nobody]
      exact .inr (.inr ⟨rfl, rfl⟩)
    · rw [Coordinator.follow_of_somebody nobody]
      exact .inr (.inl ⟨_, rfl, rfl⟩)

/-- Whoever owes an answer after an act owed it before, or is sent a command by the act. -/
theorem owing_act (settled : d.coordinator.Settled) {a : Act} {id : ParticipantId}
    (owes : id ∈ (d.act a).owing) :
    id ∈ d.owing ∨ ∃ q ∈ (d.report a).effect.commands, q.1.id = id := by
  have begins : ∀ s, id ∈ (d.begun (d.coordinator.begin s)).owing →
      id ∈ d.owing ∨ ∃ q ∈ (begunEffect (d.coordinator.begin s).2).commands, q.1.id = id := by
    intro s owes
    rcases begun_cases settled s with ⟨refused, -⟩ | ⟨c, landed, sends⟩ | ⟨rests, -⟩
    · rw [refused] at owes
      exact .inl owes
    · unfold owing at owes
      rw [landed] at owes
      rw [sends]
      exact .inr (sent_of_landed owes)
    · rw [owing_of_atRest rests] at owes
      exact absurd owes List.not_mem_nil
  cases a with
  | begin s => exact begins s owes
  | commit | rollback => exact begins _ owes
  | input i =>
    rcases settled with ⟨s, busy⟩ | rest
    · rcases owing_step busy owes with before | sent
      · exact .inl ((pending_absorb_sublist busy i).subset before)
      · exact .inr sent
    · rw [show (d.act (.input i)).owing = [] from owing_of_atRest (step_of_atRest rest i).2] at owes
      exact absurd owes List.not_mem_nil
  | _ =>
    -- the other acts leave the cohort alone
    exact .inl owes

theorem nodup_owing_act (settled : d.coordinator.Settled) (distinct : d.owing.Nodup) (a : Act) :
    (d.act a).owing.Nodup := by
  have begins : ∀ s, (d.begun (d.coordinator.begin s)).owing.Nodup := by
    intro s
    rcases begun_cases settled s with ⟨refused, -⟩ | ⟨c, landed, -⟩ | ⟨rests, -⟩
    · rw [refused]
      exact distinct
    · unfold owing
      rw [landed]
      exact Cohort.Account.nodup_eraseDups _
    · rw [owing_of_atRest rests]
      exact List.nodup_nil
  cases a with
  | begin s => exact begins s
  | commit | rollback => exact begins _
  | input i =>
    show (d.step i).1.owing.Nodup
    rcases settled with ⟨s, busy⟩ | rest
    · rcases step_turn busy i with stays | leaves
      · unfold owing
        rw [stays.after]
        exact distinct.sublist (pending_absorb_sublist busy i)
      · rcases leaves.lands busy with ⟨t, -, after, -⟩ | ⟨-, rests, -⟩
        · unfold owing
          rw [after]
          exact Cohort.Account.nodup_eraseDups _
        · rw [owing_of_atRest rests]
          exact List.nodup_nil
    · rw [owing_of_atRest (step_of_atRest rest i).2]
      exact List.nodup_nil
  | _ => exact distinct

/-- Nobody owes two answers. -/
theorem nodup_owing_live (settled : d.coordinator.Settled) (distinct : d.owing.Nodup)
    (acts : List Act) : (d.live acts).owing.Nodup := by
  induction acts generalizing d with
  | nil => exact distinct
  | cons a rest ih => exact ih (settled_act settled a) (nodup_owing_act settled distinct a)

/-- Whoever is counted owes nothing more, unless it is sent a command in the same step. -/
theorem sent_of_counted (settled : d.coordinator.Settled) (distinct : d.owing.Nodup)
    {i : Input} {entry : Cohort.Entry} {id : ParticipantId}
    (entered : d.coordinator.inputEntryOf i = some entry) (named : entry.id? = some id)
    (owes : id ∈ (d.step i).1.owing) :
    ∃ q ∈ (d.step i).2.effect.commands, q.1.id = id := by
  rcases settled with ⟨s, busy⟩ | rest
  · rcases owing_step busy owes with before | sent
    · rw [pending_absorb busy, entered, Option.bind_some, named] at before
      exact absurd before distinct.not_mem_erase
    · exact sent
  · rw [owing_of_atRest (step_of_atRest rest i).2] at owes
    exact absurd owes List.not_mem_nil

end Docket

end AtomicCommit
