import AtomicCommit.Session
import AtomicCommit.Stage
import AtomicCommit.Wire.Packet

/-!
# The transaction coordinator

A coordinator drives one operation of its session at a time through the stages. Every call and
every event of a backend is one atomic step on its state. The event that completes a cohort also
enters the next stage in the same step, so a cohort completes and advances exactly once; what is
left to do afterwards, sending commands or telling the client, is returned as an `Effect`.

`begin`, `interrupt` and `handle` are the steps, and `conclude` is what a concluding effect does to
the session. `rank_handle` says that every step either moves down the ranks of the stages or has
nothing left to do.
-/

namespace AtomicCommit

open Wire

/-! ## State -/

/-- The operation in flight. The default value is none. -/
structure Operation where
  /-- The stage whose cohort is open. -/
  stage : Option Stage := none
  cohort : Cohort := {}
  /-- The transaction id of an XA operation. -/
  xid : Option Xid := none
  /-- Why the client was told that the operation is off, if it was. -/
  interrupted : Option String := none
  /-- The first participant that went away between stages before the decision. -/
  departed : Option String := none
  deriving DecidableEq, Repr

/-- How many stages may still follow, none if nothing is in flight. -/
def Operation.rank (o : Operation) : Nat :=
  (o.stage.map Stage.rank).getD 0

/-- A session and the operation on it. -/
structure Coordinator where
  session : Session
  operation : Operation := {}
  deriving DecidableEq, Repr

/-- How an operation ended. -/
structure Verdict where
  conclusion : Conclusion
  /-- The OK packet to pass on, if the last cohort kept one. -/
  successPacket : Option Bytes
  /-- Whether the client was told before. -/
  interrupted : Bool
  deriving DecidableEq, Repr

/-- What a step leaves to be done. -/
inductive Effect where
  | idle
  /-- Send these commands, in order. -/
  | send (commands : List (Link × Command))
  /-- Tell the client. -/
  | conclude (verdict : Verdict)
  deriving DecidableEq, Repr

/-- What a backend, or the attempt to reach one, reports. -/
inductive Event where
  /-- An OK frame. -/
  | ok (id : ParticipantId) (packet : Bytes)
  /-- An error, with its code if the backend gave one. -/
  | error (id : ParticipantId) (code : Option UInt16) (message : String)
  /-- The link closed. -/
  | closed (link : Link) (reason : String)
  /-- A backend could not be reached or broke the protocol. -/
  | connectError (id : Option ParticipantId) (fault : Fault)
  deriving DecidableEq, Repr

/-- The text counted for a result set, which no transaction command is answered with. -/
def unexpectedResultSet : String :=
  "unexpected result set during transaction command"

/-- The event of a result set's first end. -/
def Event.resultSet (id : ParticipantId) : Event :=
  .error id none unexpectedResultSet

namespace Coordinator

def inFlight (c : Coordinator) : Bool :=
  c.operation.stage.isSome

/-! ## Entering stages -/

/-- The commands of a stage, in session order. -/
def commands (c : Coordinator) (stage : Stage) (targets : List ParticipantId) :
    Except UsageError (List (Link × Command)) :=
  (c.session.participants.filter fun link => targets.contains link.id).mapM fun link => do
    .ok (link, ← Command.ofKind stage.command c.operation.xid link.id.shard)

/-- Forget the operation and leave the verdict to be told. -/
def finish (c : Coordinator) (conclusion : Conclusion) (successPacket : Option Bytes) :
    Coordinator × Effect :=
  ({ c with operation := {} },
    .conclude ⟨conclusion, successPacket, c.operation.interrupted.isSome⟩)

/-- Enter a stage. A cohort without members is complete at once, and the stage after it is
entered in the same step. -/
def enter (c : Coordinator) (stage : Stage) : Coordinator × Except Fault Effect :=
  -- marked before any command leaves, so that no reply to one can be taken for a wanted one
  let session := if stage.marksDiscard then c.session.markDiscarding else c.session
  let targets := stage.targets session.participantIds
  match c.operation.cohort.begin targets with
  | .error e => ({ c with session := session }, .error (.invalidState e))
  | .ok cohort =>
    let c := { session := session, operation := { c.operation with cohort := cohort } }
    if cohort.complete then
      match _next : stage.next cohort.outcome with
      | .enter stage => enter c stage
      | .conclude conclusion =>
        let (c, effect) := c.finish conclusion cohort.outcome.successPacket
        (c, .ok effect)
    else
      match c.commands stage targets with
      | .error e => (c, .error (.invalidUsage e))
      | .ok commands =>
        ({ c with operation := { c.operation with stage := some stage } }, .ok (.send commands))
  termination_by stage.rank
  decreasing_by exact Stage.rank_lt_of_next _next

/-- The outcome of a cohort with what happened around it: before the decision, an interrupt or
else a departure is a failure too, and names the cause if nothing else did. -/
def Operation.withForced (o : Operation) (stage : Stage) (outcome : Outcome) : Outcome :=
  if stage.precedesDecision then
    match (o.interrupted.map fun reason => (Fault.interrupted reason).message).or o.departed with
    | some reason => { outcome with failed := true, error := outcome.error.or (some reason) }
    | none => outcome
  else outcome

/-- Move past a completed cohort. -/
def advance (c : Coordinator) : Coordinator × Effect :=
  match c.operation.stage with
  | none => ({ c with operation := { c.operation with cohort := {} } }, .idle)
  | some stage =>
    let outcome := Operation.withForced c.operation stage c.operation.cohort.outcome
    match stage.next outcome with
    | .conclude conclusion => c.finish conclusion outcome.successPacket
    | .enter next =>
      let between : Coordinator := { c with operation := { c.operation with stage := none } }
      match between.enter next with
      | (c, .ok effect) => (c, effect)
      | (c, .error e) => c.finish (.failure e.message) none

/-- Put in a cohort that an event changed, and move on if the event completed it. -/
def count (c : Coordinator) (counted : Cohort × Bool) : Coordinator × Effect :=
  let c := { c with operation := { c.operation with cohort := counted.1 } }
  if counted.2 then c.advance else (c, .idle)

/-! ## Calls -/

/-- Start an operation at a stage. -/
def begin (c : Coordinator) (stage : Stage) : Coordinator × Except Fault Effect :=
  match c.operation.stage with
  | some current => (c, .error (.invalidState (.inFlight stage.name current.name)))
  | none =>
    -- the number stays taken even if the stage cannot be entered
    let fresh : Coordinator :=
      if stage.command.isXa then
        let (xid, session) := c.session.nextXid
        { session := session, operation := { xid := some xid } }
      else { session := c.session }
    match fresh.enter stage with
    | (c, .ok effect) => (c, .ok effect)
    | (c, .error e) => ({ c with operation := {} }, .error e)

def beginCommit (c : Coordinator) : Coordinator × Except Fault Effect :=
  c.begin (Stage.initial c.session.xa .commit)

def beginRollback (c : Coordinator) : Coordinator × Except Fault Effect :=
  c.begin (Stage.initial c.session.xa .rollback)

/-- The packet that tells the client of a failure. -/
def errorPacket (sequenceId : UInt8) (message : String) : Bytes :=
  ServerError.append [] sequenceId { code := unknownErrorCode, message := message }

/-- Call the operation in flight off. The client is told at once, by the packet returned; what
backends still answer is counted but no longer told. A second interrupt changes nothing. -/
def interrupt (c : Coordinator) (reason : String) : Except Fault (Coordinator × Option Bytes) :=
  if !c.inFlight then .error (.invalidState .nothingInFlight)
  else if c.operation.interrupted.isSome then .ok (c, none)
  else
    let operation := { c.operation with interrupted := some reason }
    let session := { c.session with interruptReason := some reason }
    -- the interrupt counts for the decision also when nobody can be told
    if session.isClosed then .ok (⟨session, operation⟩, none)
    else
      let (sequenceId, session) := session.nextPacketId
      .ok (⟨session, operation⟩,
        some (errorPacket sequenceId (Fault.interrupted reason).message))

/-! ## Events -/

/-- Whether the stage in flight takes an error with this code for a success. -/
def tolerates (c : Coordinator) (code : Option UInt16) : Bool :=
  match c.operation.stage, code with
  | some stage, some code => stage.tolerates code
  | _, _ => false

/-- The part of a close that follows the detachment: an answer owed is counted as lost, and
otherwise the departure is remembered while the decision is open. -/
def countClosed (c : Coordinator) (id : ParticipantId) (message : String) : Coordinator × Effect :=
  match c.operation.cohort.linkClosed id message with
  | (cohort, .counted complete) => c.count (cohort, complete)
  | (_, .betweenStages) =>
    if (c.operation.stage.map Stage.precedesDecision).getD false then
      let departed := c.operation.departed.or (some message)
      ({ c with operation := { c.operation with departed := departed } }, .idle)
    else (c, .idle)

def detach (c : Coordinator) (id : ParticipantId) : Coordinator :=
  { c with session := (c.session.detach id).2 }

/-- Take one event in. Events from participants that owe no answer change nothing, except that a
close unbinds its participant. -/
def handle (c : Coordinator) : Event → Coordinator × Effect
  | .ok id packet =>
    if c.operation.cohort.isPending id then c.count (c.operation.cohort.respondedWith id packet)
    else (c, .idle)
  | .error id code message =>
    if c.operation.cohort.isPending id then
      if c.tolerates code then c.count (c.operation.cohort.responded id)
      else c.count (c.operation.cohort.erroredWith id message)
    else (c, .idle)
  | .closed link reason => (c.detach link.id).countClosed link.id (link.info.closedMessage reason)
  | .connectError (some id) fault =>
    if c.operation.cohort.isPending id then
      c.count (c.operation.cohort.erroredWith id fault.message)
    else (c, .idle)
  | .connectError none fault => c.count (c.operation.cohort.connectError fault.message)

/-! ## Conclusions -/

/-- The packet that tells the client how an operation ended. -/
def verdictPacket (sequenceId : UInt8) (verdict : Verdict) : Bytes :=
  match verdict.conclusion, verdict.successPacket with
  | .success, some packet => setSequenceId packet sequenceId
  | .success, none => OkPacket.append [] sequenceId { statusFlags := autocommitFlag }
  | .failure message, _ => errorPacket sequenceId message

/-- Release the transaction and tell the client, unless it was told before or is gone. Returns
the packet, and whether the next statement of the query follows. -/
def conclude (c : Coordinator) (verdict : Verdict) : Coordinator × Option Bytes × Bool :=
  -- released first: what the client sends next starts a new transaction
  let c := { c with session := c.session.clearTransaction }
  if verdict.interrupted || c.session.isClosed then (c, none, false)
  else
    let (sequenceId, session) := c.session.nextPacketId
    ({ c with session := session }, some (verdictPacket sequenceId verdict),
      verdict.conclusion.isSuccess && session.multiStatement)

/-! ## Progress -/

theorem operation_conclude (c : Coordinator) (verdict : Verdict) :
    (c.conclude verdict).1.operation = c.operation := by
  unfold conclude
  dsimp only
  split <;> rfl

@[simp] theorem rank_finish (c : Coordinator) (conclusion : Conclusion) (packet : Option Bytes) :
    (c.finish conclusion packet).1.operation.rank = 0 := rfl

theorem rank_enter_le (c : Coordinator) (stage : Stage) {effect : Effect}
    (h : (c.enter stage).2 = .ok effect) : (c.enter stage).1.operation.rank ≤ stage.rank := by
  fun_induction enter c stage with
  | case1 => simp at h
  | case2 c stage session targets cohort hc c' hcomplete next hnext ih =>
    exact Nat.le_trans (ih h) (Nat.le_of_lt (Stage.rank_lt_of_next hnext))
  | case3 c stage session targets cohort hc c' hcomplete conclusion hnext ended effect' hended =>
    have : ended = (c'.finish conclusion cohort.outcome.successPacket).1 := by rw [hended]
    simp [this]
  | case4 => simp at h
  | case5 => simp [Operation.rank]

theorem rank_advance {c : Coordinator} {stage : Stage} (h : c.operation.stage = some stage) :
    c.advance.1.operation.rank < stage.rank := by
  have positive : 0 < stage.rank := by cases stage <;> simp [Stage.rank]
  unfold advance
  rw [h]
  dsimp only
  split
  · simpa using positive
  · rename_i next hnext
    split
    · rename_i c' effect henter
      have bound := rank_enter_le _ next (by rw [henter])
      rw [henter] at bound
      exact Nat.lt_of_le_of_lt bound (Stage.rank_lt_of_next hnext)
    · simpa using positive

/-- A step that leaves something to do has moved down the ranks. -/
def Descends (before : Coordinator) (after : Coordinator × Effect) : Prop :=
  after.1.operation.rank < before.operation.rank ∨
    after.1.operation.rank = before.operation.rank ∧ after.2 = .idle

theorem descends_count (c : Coordinator) (counted : Cohort × Bool) :
    Descends c (c.count counted) := by
  unfold count
  dsimp only
  split
  · cases h : c.operation.stage with
    | none => right; simp [advance, h, Operation.rank]
    | some stage =>
      left
      have := rank_advance (c := { c with operation := { c.operation with cohort := counted.1 } }) h
      simpa [Operation.rank, h] using this
  · right; simp [Operation.rank]

theorem descends_idle (c : Coordinator) : Descends c (c, .idle) :=
  .inr ⟨rfl, rfl⟩

theorem rank_handle (c : Coordinator) (event : Event) : Descends c (c.handle event) := by
  cases event with
  | ok id packet =>
    simp only [handle]
    split
    · exact descends_count ..
    · exact descends_idle c
  | error id code message =>
    simp only [handle]
    split
    · split <;> exact descends_count ..
    · exact descends_idle c
  | closed link reason =>
    simp only [handle, countClosed]
    split
    · exact descends_count (c.detach link.id) _
    · split <;> exact .inr ⟨rfl, rfl⟩
  | connectError id fault =>
    cases id with
    | none => exact descends_count ..
    | some id =>
      simp only [handle]
      split
      · exact descends_count ..
      · exact descends_idle c

end Coordinator

end AtomicCommit
