import AtomicCommit.Fault
import AtomicCommit.Participant

/-!
# Cohorts

A cohort is the fixed set of participants that one stage sent its command to. Each of them leaves
the pending set at most once, by answering, failing or closing. A failure that names nobody takes
a slot instead. The cohort is complete when no more are pending than slots are taken, whatever
the number of failures: "all accounted for" and "all succeeded" are separate questions.
-/

namespace AtomicCommit

/-! ## Outcomes -/

/-- What a cohort has come to. -/
structure Outcome where
  /-- Participants at the start. -/
  size : Nat := 0
  /-- Whether anyone failed. -/
  failed : Bool := false
  /-- The text of the first failure. -/
  error : Option String := none
  /-- Who answered with an error. -/
  errored : List ParticipantId := []
  /-- Whose link closed before the answer. -/
  lost : List ParticipantId := []
  /-- Slots taken by failures that name nobody. -/
  unreachable : Nat := 0
  /-- The OK packet of a cohort of one. -/
  successPacket : Option Bytes := none
  deriving DecidableEq, Repr

/-- What a close means to a cohort. -/
inductive CloseEffect where
  /-- An answer was owed and the close is counted for it. -/
  | counted (complete : Bool)
  /-- Nothing was owed. -/
  | betweenStages
  deriving DecidableEq, Repr

/-! ## The state of a cohort -/

/-- Counts the answers of one cohort. The default value is a cohort that was never opened. -/
structure Cohort where
  /-- Opened, and not reset since. -/
  isOpen : Bool := false
  /-- Everyone is accounted for. -/
  complete : Bool := false
  /-- Participants at the start. -/
  expected : Nat := 0
  /-- Who still owes an answer. -/
  pending : List ParticipantId := []
  /-- Failures of any kind. -/
  errorCount : Nat := 0
  /-- Slots taken by failures that name nobody. -/
  unreachable : Nat := 0
  /-- The text of the first failure. -/
  firstError : Option String := none
  /-- Somebody has left the pending set. -/
  firstResponded : Bool := false
  errored : List ParticipantId := []
  lost : List ParticipantId := []
  successPacket : Option Bytes := none
  deriving DecidableEq, Repr

namespace Cohort

/-- Whether this participant still owes an answer. -/
def isPending (c : Cohort) (id : ParticipantId) : Bool :=
  c.pending.contains id

/-- Open a cohort. A repeated id counts once, and an empty cohort is complete at once. -/
def begin (c : Cohort) (participants : List ParticipantId) : Except StateError Cohort :=
  if c.isOpen && !c.complete then
    .error (.cohortOpen c.pending.length)
  else
    let pending := participants.eraseDups
    .ok {
      isOpen := true
      complete := pending.isEmpty
      expected := pending.length
      pending := pending }

/-- What the cohort has come to so far. -/
def outcome (c : Cohort) : Outcome where
  size := c.expected
  failed := 0 < c.errorCount
  error := c.firstError
  errored := c.errored
  lost := c.lost
  unreachable := c.unreachable
  successPacket := c.successPacket

/-! ## Steps that events are made of -/

/-- Take a participant out of the pending set, unless it owes nothing. -/
def settle (c : Cohort) (id : ParticipantId) : Option Cohort :=
  if c.isPending id then
    some { c with pending := c.pending.erase id, firstResponded := true }
  else none

/-- Count a failure and keep the first text. -/
def recordError (c : Cohort) (message : String) : Cohort :=
  { c with errorCount := c.errorCount + 1, firstError := c.firstError.or (some message) }

/-- Mark the cohort complete if this event completes it, and say whether it does. -/
def markComplete (c : Cohort) : Cohort × Bool :=
  if c.isOpen && !c.complete && c.pending.length ≤ c.unreachable then
    ({ c with complete := true }, true)
  else (c, false)

/-! ## Events

Each event says whether it completed the cohort. Events from participants that owe nothing change
nothing. -/

/-- An answer that counts as success. -/
def responded (c : Cohort) (id : ParticipantId) : Cohort × Bool :=
  match c.settle id with
  | none => (c, false)
  | some settled => settled.markComplete

/-- An OK packet. A cohort of one keeps it, to be passed on to the client. -/
def respondedWith (c : Cohort) (id : ParticipantId) (packet : Bytes) : Cohort × Bool :=
  match c.settle id with
  | none => (c, false)
  | some settled =>
    -- one packet cannot speak for several participants
    if !c.firstResponded && c.expected == 1 then
      { settled with successPacket := some packet }.markComplete
    else settled.markComplete

/-- An error answer. -/
def erroredWith (c : Cohort) (id : ParticipantId) (message : String) : Cohort × Bool :=
  match c.settle id with
  | none => (c, false)
  | some settled =>
    let counted := settled.recordError message
    { counted with errored := counted.errored ++ [id] }.markComplete

/-- A link that closed. -/
def linkClosed (c : Cohort) (id : ParticipantId) (message : String) : Cohort × CloseEffect :=
  match c.settle id with
  | none => (c, .betweenStages)
  | some settled =>
    let counted := settled.recordError message
    let (closed, complete) := { counted with lost := counted.lost ++ [id] }.markComplete
    (closed, .counted complete)

/-- A failure that names nobody. It takes a slot of a cohort that still waits. -/
def connectError (c : Cohort) (message : String) : Cohort × Bool :=
  if !c.isOpen || c.complete then (c, false)
  else
    let counted := c.recordError message
    { counted with unreachable := counted.unreachable + 1 }.markComplete

end Cohort

end AtomicCommit
