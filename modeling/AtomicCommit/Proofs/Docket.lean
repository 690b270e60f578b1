import AtomicCommit.Proofs.Uptake

/-!
# Dockets: a session while its operations run

A docket is a coordinator with the verdicts that it has reached and that nobody has told yet. Its
steps are everything that can happen between the calls that begin operations: events of backends,
interrupts, the telling of a verdict, and the session or its client going away. `Docket.moments`
lists the steps of a run together with the docket that each of them found.

* **inversion** — `step_turn`: while a stage is running, a step leaves it running with the input
  taken in, or the input closes the cohort and the stage proceeds. `step_lands` says where to.
* **rest** — `step_of_atRest`: without an operation nothing is sent and no verdict is reached.
-/

namespace AtomicCommit

open Wire

/-! ## Inputs and reports -/

def Effect.commands : Effect → List (Link × Command)
  | .send commands => commands
  | _ => []

/-- The verdict that an effect leaves to be told. -/
def Effect.verdicts : Effect → List Verdict
  | .conclude verdict => [verdict]
  | _ => []

/-- What can happen to a session while an operation runs. -/
inductive Input where
  | event (event : Event)
  | interrupt (reason : String)
  /-- The oldest verdict left to be told is told. -/
  | tell
  /-- The session is torn down. -/
  | closeSession
  /-- The link to the client closes, or is found open. -/
  | clientClosed (on : Bool)
  deriving DecidableEq, Repr

/-- What a step does besides changing the docket. -/
structure Report where
  effect : Effect := .idle
  /-- The packet that the client is sent. -/
  packet : Option Bytes := none
  /-- Whether the next statement of the query follows. -/
  continues : Bool := false
  deriving DecidableEq, Repr

/-! ## Steps -/

/-- A coordinator, and the verdicts that it left to be told, oldest first. -/
structure Docket where
  coordinator : Coordinator
  untold : List Verdict := []
  deriving DecidableEq, Repr

namespace Docket

/-- The docket after a step of its coordinator. -/
def file (d : Docket) (out : Coordinator × Effect) : Docket where
  coordinator := out.1
  untold := d.untold ++ out.2.verdicts

def onSession (d : Docket) (f : Session → Session) : Docket :=
  { d with coordinator := { d.coordinator with session := f d.coordinator.session } }

/-- Take one input in. -/
def step (d : Docket) : Input → Docket × Report
  | .event e => (d.file (d.coordinator.handle e), { effect := (d.coordinator.handle e).2 })
  | .interrupt reason =>
    match d.coordinator.interrupt reason with
    | .ok (c, packet) => ({ d with coordinator := c }, { packet := packet })
    | .error _ => (d, {})
  | .tell =>
    match d.untold with
    | [] => (d, {})
    | verdict :: rest =>
      let (c, packet, continues) := d.coordinator.conclude verdict
      (⟨c, rest⟩, { packet := packet, continues := continues })
  | .closeSession => (d.onSession fun s => { s with closed := true }, {})
  | .clientClosed on => (d.onSession fun s => { s with clientClosed := on }, {})

def run (d : Docket) : List Input → Docket
  | [] => d
  | i :: rest => (d.step i).1.run rest

end Docket

/-- One step of a run. -/
structure Moment where
  docket : Docket
  input : Input
  deriving DecidableEq, Repr

namespace Moment

def after (m : Moment) : Docket := (m.docket.step m.input).1

def report (m : Moment) : Report := (m.docket.step m.input).2

def stage (m : Moment) : Option Stage := m.docket.coordinator.operation.stage

end Moment

namespace Docket

def moments (d : Docket) : List Input → List Moment
  | [] => []
  | i :: rest => ⟨d, i⟩ :: (d.step i).1.moments rest

theorem run_append (d : Docket) (xs ys : List Input) : d.run (xs ++ ys) = (d.run xs).run ys := by
  induction xs generalizing d with
  | nil => rfl
  | cons i xs ih => exact ih _

theorem moments_append (d : Docket) (xs ys : List Input) :
    d.moments (xs ++ ys) = d.moments xs ++ (d.run xs).moments ys := by
  induction xs generalizing d with
  | nil => rfl
  | cons i xs ih => exact congrArg (_ :: ·) (ih _)

/-- Every step of a run starts where a part of the run has led. -/
theorem exists_of_mem_moments {d : Docket} {inputs : List Input} {m : Moment}
    (h : m ∈ d.moments inputs) :
    ∃ xs ys, inputs = xs ++ m.input :: ys ∧ m.docket = d.run xs := by
  induction inputs generalizing d with
  | nil => exact absurd h List.not_mem_nil
  | cons i rest ih =>
    rcases List.mem_cons.mp h with rfl | later
    · exact ⟨[], rest, rfl, rfl⟩
    · obtain ⟨xs, ys, rfl, found⟩ := ih later
      exact ⟨i :: xs, ys, rfl, found⟩

end Docket

def Input.reason? : Input → Option String
  | .interrupt reason => some reason
  | _ => none

/-- The link that an input reports closed. -/
def Input.closed? : Input → Option Link
  | .event (.closed link _) => some link
  | _ => none

namespace Coordinator

/-- The entry that the open cohort makes of an input. -/
def inputEntryOf (c : Coordinator) : Input → Option Cohort.Entry
  | .event e => c.entryOf e
  | _ => none

theorem interrupt_of_interrupted {c : Coordinator} {s : Stage} (running : c.Running s)
    (interrupted : c.operation.interrupted.isSome = true) (reason : String) :
    c.interrupt reason = .ok (c, none) := by
  have inFlight : c.inFlight = true := by simp [Coordinator.inFlight, running.stage]
  simp [interrupt, inFlight, interrupted]

/-- The first interrupt tells the client, unless it is gone. -/
theorem interrupt_of_uninterrupted {c : Coordinator} {s : Stage} (running : c.Running s)
    (uninterrupted : c.operation.interrupted = none) (reason : String) :
    c.interrupt reason = .ok (
      { session :=
          if c.session.isClosed then { c.session with interruptReason := some reason }
          else { c.session with
            interruptReason := some reason, packetId := c.session.packetId + 1 }
        operation := { c.operation with interrupted := some reason } },
      if c.session.isClosed then none
      else some (errorPacket (c.session.packetId + 1) (Fault.interrupted reason).message)) := by
  have inFlight : c.inFlight = true := by simp [Coordinator.inFlight, running.stage]
  have same : Session.isClosed { c.session with interruptReason := some reason } =
    c.session.isClosed := rfl
  simp only [interrupt, inFlight, uninterrupted, same, Bool.not_true, Bool.false_eq_true, if_false,
    Option.isSome_none]
  split <;> rfl

/-- An interrupt while a stage is running is accepted, and remembered unless it is a second. -/
theorem interrupt_of_running {c : Coordinator} {s : Stage} (running : c.Running s)
    (reason : String) :
    ∃ session packet, session.participants = c.session.participants ∧
      c.interrupt reason = .ok (⟨session, { c.operation with
        interrupted := c.operation.interrupted.or (some reason) }⟩, packet) := by
  cases before : c.operation.interrupted with
  | some first =>
    refine ⟨c.session, none, rfl, ?_⟩
    rw [interrupt_of_interrupted running (by simp [before]), Option.some_or, ← before]
  | none =>
    refine ⟨_, _, ?_, interrupt_of_uninterrupted running before reason⟩
    -- the client may be told or not; the participants stay
    split <;> rfl

end Coordinator

namespace Docket

/-! ## Taking an input in -/

/-- The coordinator that has taken an input in and not moved on. -/
def absorb (d : Docket) : Input → Coordinator
  | .event e =>
    ((d.coordinator.entryOf e).map (d.coordinator.booked e)).getD (d.coordinator.pass e)
  | i => (d.step i).1.coordinator

theorem step_interrupt_of_running {d : Docket} {s : Stage} (running : d.coordinator.Running s)
    (reason : String) :
    ∃ session packet, session.participants = d.coordinator.session.participants ∧
      d.step (.interrupt reason) = ({ d with
        coordinator := ⟨session, { d.coordinator.operation with
          interrupted := d.coordinator.operation.interrupted.or (some reason) }⟩ },
        { packet := packet }) := by
  obtain ⟨session, packet, same, accepted⟩ := Coordinator.interrupt_of_running running reason
  exact ⟨session, packet, same, by simp [step, accepted]⟩

theorem operation_step_tell (d : Docket) :
    (d.step .tell).1.coordinator.operation = d.coordinator.operation := by
  simp only [step]
  split
  · rfl
  · exact Coordinator.operation_conclude _ _

theorem session_absorb_event (d : Docket) (e : Event) :
    (d.absorb (.event e)).session = d.coordinator.unbind e := by
  dsimp only [absorb]
  cases d.coordinator.entryOf e <;> rfl

section Absorb

variable {d : Docket} {s : Stage} (running : d.coordinator.Running s) (i : Input)

include running

theorem absorb_operation : ∃ cohort interrupted departed,
    (d.absorb i).operation = { d.coordinator.operation with
      cohort := cohort, interrupted := interrupted, departed := departed } := by
  cases i with
  | event e =>
    dsimp only [absorb]
    cases d.coordinator.entryOf e <;> exact ⟨_, _, _, rfl⟩
  | interrupt reason =>
    obtain ⟨session, packet, -, accepted⟩ := step_interrupt_of_running running reason
    dsimp only [absorb]
    rw [accepted]
    exact ⟨_, _, _, rfl⟩
  | tell => exact ⟨_, _, _, d.operation_step_tell⟩
  | closeSession | clientClosed => exact ⟨_, _, _, rfl⟩

theorem xid_absorb : (d.absorb i).operation.xid = d.coordinator.operation.xid := by
  obtain ⟨cohort, interrupted, departed, shape⟩ := absorb_operation running i
  rw [shape]

theorem cohort_absorb : (d.absorb i).operation.cohort =
    ((d.coordinator.inputEntryOf i).map d.coordinator.operation.cohort.book).getD
      d.coordinator.operation.cohort := by
  cases i with
  | event e =>
    dsimp only [absorb, Coordinator.inputEntryOf]
    cases d.coordinator.entryOf e <;> rfl
  | interrupt reason =>
    obtain ⟨session, packet, -, accepted⟩ := step_interrupt_of_running running reason
    dsimp only [absorb, Coordinator.inputEntryOf]
    rw [accepted]
    rfl
  | tell => exact congrArg Operation.cohort d.operation_step_tell
  | closeSession | clientClosed => rfl

theorem interrupted_absorb : (d.absorb i).operation.interrupted =
    d.coordinator.operation.interrupted.or i.reason? := by
  cases i with
  | event e =>
    dsimp only [absorb, Input.reason?]
    rw [Option.or_none]
    cases d.coordinator.entryOf e <;> rfl
  | interrupt reason =>
    obtain ⟨session, packet, -, accepted⟩ := step_interrupt_of_running running reason
    dsimp only [absorb, Input.reason?]
    rw [accepted]
  | tell =>
    exact (congrArg Operation.interrupted d.operation_step_tell).trans Option.or_none.symm
  | closeSession | clientClosed => exact Option.or_none.symm

/-- Unless an earlier verdict is told, only a close changes who takes part. -/
theorem participants_absorb (told : d.untold = []) : (d.absorb i).session.participants =
    match i.closed? with
    | some link => d.coordinator.session.participants.eraseP (·.id == link.id)
    | none => d.coordinator.session.participants := by
  cases i with
  | event e =>
    rw [session_absorb_event]
    cases e <;> rfl
  | interrupt reason =>
    obtain ⟨session, packet, same, accepted⟩ := step_interrupt_of_running running reason
    dsimp only [absorb, Input.closed?]
    rw [accepted]
    exact same
  | tell => simp [absorb, step, told, Input.closed?]
  | closeSession | clientClosed => rfl

end Absorb

/-- Verdicts are left to be told until they are. -/
theorem untold_step {d : Docket} {i : Input} (told : i = .tell → d.untold = []) :
    (d.step i).1.untold = d.untold ++ (d.step i).2.effect.verdicts := by
  cases i with
  | event e => rfl
  | interrupt reason =>
    simp only [step]
    split <;> exact (List.append_nil _).symm
  | tell => simp [step, told rfl, Effect.verdicts]
  | closeSession | clientClosed => exact (List.append_nil _).symm

/-! ## Inversion -/

variable {d : Docket} {s : Stage} {i : Input}

/-- The input is taken in and the stage stays in flight. -/
structure Stays (d : Docket) (s : Stage) (i : Input) : Prop where
  after : (d.step i).1.coordinator = d.absorb i
  effect : (d.step i).2.effect = .idle
  running : (d.step i).1.coordinator.Running s

/-- The input is taken in and closes the cohort, and the stage proceeds. -/
structure Leaves (d : Docket) (s : Stage) (i : Input) : Prop where
  after : (d.step i).1.coordinator = ((d.absorb i).proceed s).1
  effect : (d.step i).2.effect = ((d.absorb i).proceed s).2
  closes : (d.absorb i).operation.cohort.pending.length ≤
    (d.absorb i).operation.cohort.unreachable

/-- **Inversion.** While a stage is running, a step takes its input in, and the stage stays in
flight or proceeds. -/
theorem step_turn (busy : d.coordinator.Running s) (i : Input) : d.Stays s i ∨ d.Leaves s i := by
  cases i with
  | event e =>
    have taken := Coordinator.handle_uptake busy e
    have after : (d.step (.event e)).1.coordinator = (d.coordinator.handle e).1 := rfl
    have effect : (d.step (.event e)).2.effect = (d.coordinator.handle e).2 := rfl
    generalize d.coordinator.handle e = result at taken after effect
    cases taken with
    | passed uncounted =>
      have absorbed : d.absorb (.event e) = d.coordinator.pass e := by
        simp [absorb, uncounted]
      refine .inl ⟨after.trans absorbed.symm, effect, ?_⟩
      rw [after]
      exact Coordinator.running_pass busy e
    | counted entered stillRunning =>
      rename_i entry
      have absorbed : d.absorb (.event e) = d.coordinator.booked e entry := by
        simp [absorb, entered]
      exact .inl ⟨after.trans absorbed.symm, effect, after ▸ stillRunning⟩
    | closed entered closes =>
      rename_i entry
      have absorbed : d.absorb (.event e) = d.coordinator.booked e entry := by
        simp [absorb, entered]
      exact .inr ⟨absorbed ▸ after, absorbed ▸ effect, absorbed ▸ closes⟩
  | interrupt reason =>
    obtain ⟨session, packet, -, accepted⟩ := step_interrupt_of_running busy reason
    refine .inl ⟨rfl, ?_, ?_⟩
    · rw [accepted]
    · rw [accepted]
      exact ⟨busy.stage, busy.waiting, busy.fits⟩
  | tell =>
    -- the verdict is that of an earlier operation
    have same := d.operation_step_tell
    refine .inl ⟨rfl, ?_, ⟨same ▸ busy.stage, same ▸ busy.waiting, same ▸ busy.fits⟩⟩
    simp only [step]
    split <;> rfl
  | closeSession | clientClosed =>
    exact .inl ⟨rfl, rfl, busy.stage, busy.waiting, busy.fits⟩

/-- Nothing but the input itself changes who takes part. -/
theorem participants_step (busy : d.coordinator.Running s) (i : Input) :
    (d.step i).1.coordinator.session.participants = (d.absorb i).session.participants := by
  rcases step_turn busy i with stays | leaves
  · rw [stays.after]
  · rw [leaves.after]
    exact Coordinator.participants_follow _ _ _

theorem Leaves.lands (leaves : d.Leaves s i) (busy : d.coordinator.Running s) :
    (∃ t, s.next ((d.absorb i).result s) = .enter t ∧
        (d.step i).1.coordinator = (d.absorb i).settled.landed t ∧
        (d.step i).2.effect = .send ((d.absorb i).orders t) ∧
        (d.step i).1.coordinator.Running t) ∨
      (∃ verdict, (d.step i).2.effect = .conclude verdict) ∧ (d.step i).1.coordinator.AtRest ∧
        ∀ t, s.next ((d.absorb i).result s) = .enter t →
          t.targets (d.absorb i).session.participantIds = [] := by
  rw [leaves.after, leaves.effect]
  have fits : (d.absorb i).operation.xid.isSome = s.command.isXa := by
    rw [xid_absorb busy]
    exact busy.fits
  exact Coordinator.proceed_lands fits

/-- **Three ways.** A step leaves the stage in flight, enters the next, or concludes. -/
theorem step_lands (busy : d.coordinator.Running s) (i : Input) :
    ((d.step i).2.effect = .idle ∧ (d.step i).1.coordinator.Running s) ∨
      (∃ t, s.next ((d.absorb i).result s) = .enter t ∧
        (d.step i).1.coordinator = (d.absorb i).settled.landed t ∧
        (d.step i).2.effect = .send ((d.absorb i).orders t) ∧
        (d.step i).1.coordinator.Running t) ∨
      (∃ verdict, (d.step i).2.effect = .conclude verdict) ∧
        (d.step i).1.coordinator.AtRest := by
  rcases step_turn busy i with stays | leaves
  · exact .inl ⟨stays.effect, stays.running⟩
  · rcases leaves.lands busy with enters | ⟨concludes, rests, -⟩
    · exact .inr (.inl enters)
    · exact .inr (.inr ⟨concludes, rests⟩)

/-! ## Rest -/

theorem interrupt_of_atRest {c : Coordinator} (rest : c.AtRest) (reason : String) :
    c.interrupt reason = .error (.invalidState .nothingInFlight) := by
  have empty : c.operation = {} := rest
  simp [Coordinator.interrupt, Coordinator.inFlight, empty]

/-- At rest a step sends nothing, reaches no verdict and leaves the coordinator at rest. -/
theorem step_of_atRest (rest : d.coordinator.AtRest) (i : Input) :
    (d.step i).2.effect = .idle ∧ (d.step i).1.coordinator.AtRest := by
  cases i with
  | event e =>
    have taken := Coordinator.handle_of_atRest rest e
    simp only [step, file, taken]
    exact ⟨trivial, rest⟩
  | interrupt reason =>
    simp only [step, interrupt_of_atRest rest reason]
    exact ⟨trivial, rest⟩
  | tell =>
    simp only [step]
    split
    · exact ⟨rfl, rest⟩
    · exact ⟨rfl, (Coordinator.operation_conclude _ _).trans rest⟩
  | closeSession | clientClosed => exact ⟨rfl, rest⟩

theorem settled_step (settled : d.coordinator.Settled) (i : Input) :
    (d.step i).1.coordinator.Settled := by
  rcases settled with ⟨s, running⟩ | rest
  · rcases step_lands running i with ⟨-, stays⟩ | ⟨t, -, -, -, next⟩ | ⟨-, rests⟩
    · exact .inl ⟨s, stays⟩
    · exact .inl ⟨t, next⟩
    · exact .inr rests
  · exact .inr (step_of_atRest rest i).2

theorem settled_run (settled : d.coordinator.Settled) (inputs : List Input) :
    (d.run inputs).coordinator.Settled := by
  induction inputs generalizing d with
  | nil => exact settled
  | cons i rest ih => exact ih (settled_step settled i)

end Docket

/-! ## A session of two shards -/

namespace Sample

def shardA : Link := ⟨0, ⟨"a"⟩, { host := "a.db", port := 3306 }⟩

def shardB : Link := ⟨1, ⟨"b"⟩, { host := "b.db", port := 3306 }⟩

/-- Two shards bound to a session's first transaction. -/
def coordinator (xa : Bool) : Coordinator where
  session := { id := 7, xidIssuer := "x", participants := [shardA, shardB], xa := xa }

def okFrame : Bytes := [7, 0, 0, 1, 0, 0, 0, 2, 0, 0, 0]

def ok (link : Link) : Input := .event (.ok link.id okFrame)

/-- Both shards end and prepare their branches. -/
def votes : List Input := [ok shardA, ok shardB, ok shardA, ok shardB]

end Sample

end AtomicCommit
