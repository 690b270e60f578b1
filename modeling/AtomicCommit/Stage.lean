import AtomicCommit.Cohort
import AtomicCommit.Wire.Command

/-!
# Stages of coordinated commit and rollback

An XA commit runs `XA END`, `XA PREPARE`, `XA COMMIT` and a cleanup that sends the decision again
to those who failed it. A failure before the decision turns it into `XA ROLLBACK` and a cleanup.
A rollback that the client asks for skips the preparation. Plain transactions have one stage.

`Stage.next` is the only rule of succession. `Stage.rank` falls along it, so no operation runs
for ever and none enters a stage twice.
-/

namespace AtomicCommit

open Wire

/-- What the client asked for. -/
inductive Intent where
  | commit
  | rollback
  deriving DecidableEq, Repr

/-- One step of a coordinated operation. -/
inductive Stage where
  /-- `XA END` to every branch. -/
  | start (intent : Intent)
  /-- `XA PREPARE` to every branch. -/
  | prepare
  /-- `XA COMMIT` to every branch. -/
  | commitAll
  /-- `XA ROLLBACK` to every branch, with the reason why a commit was given up. -/
  | rollbackAll (cause : Option String)
  /-- The decision once more, to those who failed it. `lost` is set if a branch went away before
  the decision reached it. -/
  | cleanup (decision : Intent) (retry : List ParticipantId) (cause lost : Option String)
  /-- `COMMIT` to every participant. -/
  | plainCommit
  /-- `ROLLBACK` to every participant. -/
  | plainRollback
  deriving DecidableEq, Repr

/-- What the client is told about an operation. -/
inductive Conclusion where
  | success
  | failure (message : String)
  deriving DecidableEq, Repr

/-- What follows a stage. -/
inductive Transition where
  | enter (stage : Stage)
  | conclude (conclusion : Conclusion)
  deriving DecidableEq, Repr

def Conclusion.isSuccess : Conclusion → Bool
  | .success => true
  | .failure _ => false

def Outcome.errorText (o : Outcome) : String :=
  o.error.getD "unknown error"

/-- The text of a failure that sending the decision again cannot mend. -/
def Outcome.lostText (o : Outcome) : Option String :=
  if !o.lost.isEmpty || 0 < o.unreachable then some o.errorText else none

namespace Stage

/-- The first stage of an operation. -/
def initial (xa : Bool) (intent : Intent) : Stage :=
  match xa, intent with
  | true, intent => .start intent
  | false, .commit => .plainCommit
  | false, .rollback => .plainRollback

/-- How reports call the stage. -/
def name : Stage → String
  | .start _ => "XA END"
  | .prepare => "XA PREPARE"
  | .commitAll => "XA COMMIT"
  | .rollbackAll _ => "XA ROLLBACK"
  | .cleanup .. => "XA CLEANUP"
  | .plainCommit => "COMMIT"
  | .plainRollback => "ROLLBACK"

/-- What the stage tells its participants to do. -/
def command : Stage → CommandKind
  | .start _ => .xaEnd
  | .prepare => .xaPrepare
  | .commitAll => .xaCommit
  | .rollbackAll _ => .xaRollback
  | .cleanup .commit .. => .xaCommit
  | .cleanup .rollback .. => .xaRollback
  | .plainCommit => .commit
  | .plainRollback => .rollback

def isRollback : Stage → Bool
  | .rollbackAll _ | .plainRollback | .cleanup .rollback .. => true
  | _ => false

/-- Whether commit or rollback is still open, so that a failure from outside decides it. -/
def precedesDecision : Stage → Bool
  | .start .commit | .prepare => true
  | _ => false

/-- Whether late replies are dropped quietly from this stage on. -/
def marksDiscard (s : Stage) : Bool :=
  s.isRollback

/-- Whom the stage sends its command to, in session order. -/
def targets (s : Stage) (attached : List ParticipantId) : List ParticipantId :=
  match s with
  | .cleanup _ retry .. => attached.filter retry.contains
  | _ => attached

/-- Whether an error with this code counts as success: a branch that the backend does not know
is as good as rolled back. -/
def tolerates (s : Stage) (code : UInt16) : Bool :=
  code == unknownBranchCode && s.command == .xaRollback

/-- What follows a stage whose cohort came to this outcome. -/
def next (s : Stage) (o : Outcome) : Transition :=
  match s with
  | .start .commit =>
    .enter (if o.failed then .rollbackAll (some o.errorText) else .prepare)
  | .start .rollback => .enter (.rollbackAll none)
  | .prepare => .enter (if o.failed then .rollbackAll (some o.errorText) else .commitAll)
  | .commitAll => .enter (.cleanup .commit o.errored none o.lostText)
  | .rollbackAll cause => .enter (.cleanup .rollback o.errored cause o.lostText)
  | .cleanup _ _ (some cause) _ => .conclude (.failure cause)
  | .cleanup _ _ none lost =>
    .conclude <|
      if o.failed then .failure o.errorText
      else match lost with
        | some lost => .failure lost
        | none => .success
  | .plainCommit | .plainRollback =>
    .conclude (if o.failed then .failure o.errorText else .success)

/-! ## Progress -/

/-- How many stages may still follow, the last of them counted. -/
def rank : Stage → Nat
  | .start _ => 4
  | .prepare => 3
  | .commitAll | .rollbackAll _ => 2
  | .cleanup .. | .plainCommit | .plainRollback => 1

theorem rank_lt_of_next {s t : Stage} {o : Outcome} (h : s.next o = .enter t) :
    t.rank < s.rank := by
  cases s with
  | start intent =>
    cases intent
    · simp only [next, Transition.enter.injEq] at h
      subst h
      split <;> simp [rank]
    · simp only [next, Transition.enter.injEq] at h
      subst h
      simp [rank]
  | prepare =>
    simp only [next, Transition.enter.injEq] at h
    subst h
    split <;> simp [rank]
  | commitAll | rollbackAll cause =>
    simp only [next, Transition.enter.injEq] at h
    subst h
    simp [rank]
  | cleanup decision retry cause lost => cases cause <;> simp [next] at h
  | plainCommit | plainRollback => simp [next] at h

end Stage

end AtomicCommit
