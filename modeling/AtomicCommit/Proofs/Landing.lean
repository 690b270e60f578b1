import AtomicCommit.Coordinator
import AtomicCommit.Proofs.Account

/-!
# Where a transition lands

Entering a stage either asks somebody and leaves the stage in flight, or falls through every stage
that follows, because each of them has nobody to ask, and concludes in the same step.
`Coordinator.follow` says so without recursion: a stage with nobody to ask concludes as
`Stage.ifNobody` says, and marks the session as `Stage.abandons` says. `enter_eq_follow` is the
equation for `enter`, and `advance_eq_follow` and `begin_eq_follow` are those for its callers.
They also say that no stage is ever refused.
-/

namespace AtomicCommit

open Wire

/-! ## Commands -/

/-- The command that `Command.ofKind` words when it refuses nothing. -/
def Wire.Command.worded (kind : CommandKind) (xid : Option Xid) (qualifier : String) : Command where
  kind := kind
  sql := match xid with
    | some xid => if kind.isXa then kind.keyword ++ " " ++ xid.branch qualifier else kind.keyword
    | none => kind.keyword

theorem Wire.Command.ofKind_eq_worded {kind : CommandKind} {xid : Option Xid} (qualifier : String)
    (h : xid.isSome = kind.isXa) :
    Command.ofKind kind xid qualifier = .ok (worded kind xid qualifier) := by
  unfold Command.ofKind Command.worded
  cases xid with
  | none =>
    rw [if_neg (by simp [← h])]
  | some xid =>
    have isXa : kind.isXa = true := by simp [← h]
    rw [if_pos isXa, isXa]
    rfl

/-! ## Stages with nobody to ask -/

namespace Stage

/-- What an operation comes to that enters the stage with nobody to ask. -/
def ifNobody : Stage → Conclusion
  | .rollbackAll (some cause) | .cleanup _ _ (some cause) _ => .failure cause
  | .cleanup _ _ none (some lost) => .failure lost
  | _ => .success

/-- Whether the stage undoes work, or is followed by one that does. -/
def abandons : Stage → Bool
  | .start .rollback => true
  | s => s.isRollback

/-- All stages of an operation send XA commands, or none does. -/
theorem isXa_of_next {s t : Stage} {o : Outcome} (h : s.next o = .enter t) :
    t.command.isXa = s.command.isXa := by
  cases s with
  | start intent =>
    cases intent with
    | commit =>
      simp only [next, Transition.enter.injEq] at h
      subst h
      split <;> rfl
    | rollback =>
      simp only [next, Transition.enter.injEq] at h
      subst h
      rfl
  | prepare =>
    simp only [next, Transition.enter.injEq] at h
    subst h
    split <;> rfl
  | commitAll | rollbackAll =>
    simp only [next, Transition.enter.injEq] at h
    subst h
    rfl
  | cleanup decision retry cause lost => cases cause <;> simp [next] at h
  | plainCommit | plainRollback => simp [next] at h

/-- Only a cleanup chooses among those attached. -/
theorem targets_nil_of_next {s t : Stage} {o : Outcome} {ids : List ParticipantId}
    (h : s.next o = .enter t) (nobody : s.targets ids = []) : t.targets ids = [] := by
  have none : ids = [] := by
    cases s with
    | cleanup decision retry cause lost => cases cause <;> simp [next] at h
    | _ => exact nobody
  subst none
  cases t <;> rfl

/-- A stage asks some of those attached, in session order. -/
theorem filter_targets (s : Stage) (ids : List ParticipantId) :
    ids.filter (s.targets ids).contains = s.targets ids := by
  cases s with
  | cleanup decision retry cause lost =>
    apply List.filter_congr
    intro id attached
    simp [targets, attached]
  | start | prepare | commitAll | rollbackAll | plainCommit | plainRollback =>
    apply List.filter_eq_self.mpr
    intro id attached
    simpa [targets] using attached

theorem next_of_nobody {s t : Stage} (h : s.next {} = .enter t) :
    t.ifNobody = s.ifNobody ∧ (s.marksDiscard || t.abandons) = s.abandons := by
  cases s with
  | start intent =>
    cases intent <;> simp only [next, Transition.enter.injEq] at h <;> subst h <;>
      exact ⟨rfl, rfl⟩
  | rollbackAll cause =>
    simp only [next, Transition.enter.injEq] at h
    subst h
    cases cause <;> exact ⟨rfl, rfl⟩
  | prepare | commitAll =>
    simp only [next, Transition.enter.injEq] at h
    subst h
    exact ⟨rfl, rfl⟩
  | cleanup decision retry cause lost => cases cause <;> simp [next] at h
  | plainCommit | plainRollback => simp [next] at h

theorem conclusion_of_nobody {s : Stage} {conclusion : Conclusion}
    (h : s.next {} = .conclude conclusion) :
    conclusion = s.ifNobody ∧ s.marksDiscard = s.abandons := by
  cases s with
  | start intent => cases intent <;> simp [next] at h
  | prepare | commitAll | rollbackAll => simp [next] at h
  | cleanup decision retry cause lost =>
    cases cause <;> cases lost <;> simp only [next, Transition.conclude.injEq] at h <;>
      exact ⟨h.symm, rfl⟩
  | plainCommit | plainRollback =>
    simp only [next, Transition.conclude.injEq] at h
    exact ⟨h.symm, rfl⟩

end Stage

/-- Mark the session as discarding if told so. -/
def Session.discardIf (s : Session) (on : Bool) : Session :=
  { s with discarding := s.discarding || on }

@[simp] theorem Session.participants_discardIf (s : Session) (on : Bool) :
    (s.discardIf on).participants = s.participants := rfl

@[simp] theorem Session.participantIds_discardIf (s : Session) (on : Bool) :
    (s.discardIf on).participantIds = s.participantIds := rfl

theorem Session.discardIf_false (s : Session) : s.discardIf false = s := by
  simp [discardIf]

theorem Session.discardIf_discardIf (s : Session) (first second : Bool) :
    (s.discardIf first).discardIf second = s.discardIf (first || second) := by
  simp [discardIf, Bool.or_assoc]

theorem Session.markDiscarding_if (s : Session) (on : Bool) :
    (if on then s.markDiscarding else s) = s.discardIf on := by
  cases on <;> simp [markDiscarding, discardIf]

namespace Coordinator

/-! ## Following a transition -/

/-- The commands that a stage sends, in session order. -/
def orders (c : Coordinator) (s : Stage) : List (Link × Command) :=
  (c.session.participants.filter fun link =>
      (s.targets c.session.participantIds).contains link.id).map fun link =>
    (link, Command.worded s.command c.operation.xid link.id.shard)

/-- A stage that asks everybody words its command for each participant. -/
theorem orders_eq_map {c : Coordinator} {s : Stage}
    (everybody : s.targets c.session.participantIds = c.session.participantIds) :
    c.orders s = c.session.participants.map fun link =>
      (link, Command.worded s.command c.operation.xid link.id.shard) := by
  unfold orders
  rw [everybody, List.filter_eq_self.mpr]
  intro link attached
  exact List.contains_iff_mem.mpr (List.mem_map_of_mem attached)

/-- A stage sends its command to whom it asks. -/
theorem ids_orders (c : Coordinator) (s : Stage) :
    (c.orders s).map (·.1.id) = s.targets c.session.participantIds := by
  unfold orders
  rw [List.map_map]
  have chosen := s.filter_targets c.session.participantIds
  unfold Session.participantIds at chosen ⊢
  rw [List.filter_map] at chosen
  exact chosen

/-- The coordinator with a stage in flight that has somebody to ask. -/
def landed (c : Coordinator) (s : Stage) : Coordinator where
  session := c.session.discardIf s.marksDiscard
  operation := { c.operation with
    stage := some s
    cohort := Cohort.opened (s.targets c.session.participantIds) }

/-- Where a transition takes the coordinator, and what is left to do then. -/
def follow (c : Coordinator) : Transition → Option Bytes → Coordinator × Effect
  | .conclude conclusion, packet => c.finish conclusion packet
  | .enter s, _ =>
    if s.targets c.session.participantIds = [] then
      ({ session := c.session.discardIf s.abandons },
        .conclude ⟨s.ifNobody, none, c.operation.interrupted.isSome⟩)
    else (c.landed s, .send (c.orders s))

theorem follow_of_somebody {c : Coordinator} {s : Stage}
    (somebody : s.targets c.session.participantIds ≠ []) (packet : Option Bytes) :
    c.follow (.enter s) packet = (c.landed s, .send (c.orders s)) :=
  if_neg somebody

theorem follow_of_nobody {c : Coordinator} {s : Stage}
    (nobody : s.targets c.session.participantIds = []) (packet : Option Bytes) :
    c.follow (.enter s) packet = ({ session := c.session.discardIf s.abandons },
      .conclude ⟨s.ifNobody, none, c.operation.interrupted.isSome⟩) :=
  if_pos nobody

/-- To a session a transition does no more than to mark it as discarding. -/
theorem session_follow (c : Coordinator) (t : Transition) (packet : Option Bytes) :
    ∃ on, (c.follow t packet).1.session = c.session.discardIf on := by
  cases t with
  | conclude conclusion => exact ⟨false, (Session.discardIf_false _).symm⟩
  | enter s =>
    unfold follow
    dsimp only
    split
    · exact ⟨_, rfl⟩
    · exact ⟨_, rfl⟩

theorem participants_follow (c : Coordinator) (t : Transition) (packet : Option Bytes) :
    (c.follow t packet).1.session.participants = c.session.participants := by
  obtain ⟨on, same⟩ := c.session_follow t packet
  rw [same]
  rfl

/-- A transition leaves something to be done. -/
theorem follow_ne_idle (c : Coordinator) (t : Transition) (packet : Option Bytes) :
    (c.follow t packet).2 ≠ .idle := by
  unfold follow
  split
  · simp [finish]
  · split
    · simp
    · simp

theorem commands_eq_orders (c : Coordinator) (s : Stage)
    (fits : c.operation.xid.isSome = s.command.isXa) :
    c.commands s (s.targets c.session.participantIds) = .ok (c.orders s) := by
  unfold commands orders
  generalize s.targets c.session.participantIds = targets
  induction c.session.participants.filter fun link => targets.contains link.id with
  | nil => rfl
  | cons link rest ih =>
    rw [List.mapM_cons, ih, Command.ofKind_eq_worded link.id.shard fits]
    rfl

theorem enter_of_nobody (c : Coordinator) (s : Stage)
    (ready : (c.operation.cohort.isOpen && !c.operation.cohort.complete) = false)
    (nobody : s.targets c.session.participantIds = []) :
    c.enter s = ({ session := c.session.discardIf s.abandons },
      .ok (.conclude ⟨s.ifNobody, none, c.operation.interrupted.isSome⟩)) := by
  rw [enter]
  simp only [Session.markDiscarding_if]
  rw [Cohort.begin_eq_opened _ _ ready, Session.participantIds_discardIf, nobody]
  -- the cohort is complete at once, and what follows has nobody to ask either
  dsimp only [Cohort.opened, List.eraseDups_nil, List.isEmpty_nil]
  rw [if_pos rfl]
  split
  · rename_i next
    obtain ⟨same, marks⟩ := Stage.next_of_nobody next
    have rest := enter_of_nobody
      { session := c.session.discardIf s.marksDiscard
        operation := { c.operation with cohort := Cohort.opened [] } } _ rfl
      (Stage.targets_nil_of_next next nobody)
    rw [Session.discardIf_discardIf, marks, same] at rest
    exact rest
  · rename_i next
    obtain ⟨rfl, marks⟩ := Stage.conclusion_of_nobody next
    rw [← marks]
    rfl
  termination_by s.rank
  decreasing_by exact Stage.rank_lt_of_next ‹s.next _ = .enter _›

theorem enter_of_somebody (c : Coordinator) (s : Stage)
    (ready : (c.operation.cohort.isOpen && !c.operation.cohort.complete) = false)
    (fits : c.operation.xid.isSome = s.command.isXa)
    (somebody : s.targets c.session.participantIds ≠ []) :
    c.enter s = (c.landed s, .ok (.send (c.orders s))) := by
  rw [enter]
  simp only [Session.markDiscarding_if]
  rw [Cohort.begin_eq_opened _ _ ready, Session.participantIds_discardIf]
  dsimp only
  rw [(Cohort.waiting_opened somebody).incomplete, if_neg Bool.false_ne_true]
  have worded := commands_eq_orders
    { session := c.session.discardIf s.marksDiscard
      operation := { c.operation with
        cohort := Cohort.opened (s.targets c.session.participantIds) } } s fits
  rw [Session.participantIds_discardIf] at worded
  rw [worded]
  rfl

/-- **No stage is refused.** A coordinator whose last cohort is done, and whose transaction id fits
the stage, enters it. -/
theorem enter_eq_follow (c : Coordinator) (s : Stage) (packet : Option Bytes)
    (ready : (c.operation.cohort.isOpen && !c.operation.cohort.complete) = false)
    (fits : c.operation.xid.isSome = s.command.isXa) :
    c.enter s = ((c.follow (.enter s) packet).1, .ok (c.follow (.enter s) packet).2) := by
  by_cases nobody : s.targets c.session.participantIds = []
  · rw [follow_of_nobody nobody, enter_of_nobody c s ready nobody]
  · rw [follow_of_somebody nobody, enter_of_somebody c s ready fits nobody]

/-! ## Callers -/

/-- The coordinator as `begin` hands it to the first stage. -/
def fresh (c : Coordinator) (s : Stage) : Coordinator :=
  if s.command.isXa then
    { session := c.session.nextXid.2, operation := { xid := some c.session.nextXid.1 } }
  else { session := c.session }

@[simp] theorem participants_fresh (c : Coordinator) (s : Stage) :
    (c.fresh s).session.participants = c.session.participants := by
  unfold fresh
  split <;> rfl

theorem xid_fresh (c : Coordinator) (s : Stage) :
    (c.fresh s).operation.xid.isSome = s.command.isXa := by
  unfold fresh
  split <;> simp_all

theorem cohort_fresh (c : Coordinator) (s : Stage) : (c.fresh s).operation.cohort = {} := by
  unfold fresh
  split <;> rfl

theorem interrupted_fresh (c : Coordinator) (s : Stage) :
    (c.fresh s).operation.interrupted = none := by
  unfold fresh
  split <;> rfl

theorem departed_fresh (c : Coordinator) (s : Stage) :
    (c.fresh s).operation.departed = none := by
  unfold fresh
  split <;> rfl

theorem begin_eq_follow {c : Coordinator} (idle : c.operation.stage = none) (s : Stage) :
    c.begin s =
      (((c.fresh s).follow (.enter s) none).1, .ok ((c.fresh s).follow (.enter s) none).2) := by
  have entered := enter_eq_follow (c.fresh s) s none (by rw [cohort_fresh]; rfl) (xid_fresh c s)
  unfold begin
  rw [idle]
  dsimp only
  split
  · rename_i begun effect out
    obtain ⟨rfl, same⟩ := Prod.mk.inj (out.symm.trans entered)
    obtain rfl := Except.ok.inj same
    rfl
  · rename_i begun fault out
    exact absurd (congrArg Prod.snd (out.symm.trans entered)) (by simp)

/-- An operation can be started unless one is in flight. -/
theorem begin_of_inFlight {c : Coordinator} {current : Stage}
    (inFlight : c.operation.stage = some current) (s : Stage) :
    c.begin s = (c, .error (.invalidState (.inFlight s.name current.name))) := by
  unfold begin
  rw [inFlight]

/-- What the cohort in flight has come to, seen with what happened around it. -/
def result (c : Coordinator) (s : Stage) : Outcome :=
  Operation.withForced c.operation s c.operation.cohort.outcome

theorem advance_eq_follow {c : Coordinator} {s : Stage} (inFlight : c.operation.stage = some s)
    (complete : c.operation.cohort.complete = true)
    (fits : c.operation.xid.isSome = s.command.isXa) :
    c.advance = c.follow (s.next (c.result s)) (c.result s).successPacket := by
  unfold advance
  rw [inFlight]
  dsimp only
  split
  · rename_i conclusion next
    rw [show s.next (c.result s) = .conclude conclusion from next]
    rfl
  · rename_i t next
    have moves : s.next (c.result s) = .enter t := next
    have fitsNext : c.operation.xid.isSome = t.command.isXa := by
      rw [Stage.isXa_of_next moves]
      exact fits
    have entered := enter_eq_follow
      { session := c.session, operation := { c.operation with stage := none } } t
      (c.result s).successPacket (by simp [complete]) fitsNext
    rw [entered, moves]
    rfl

end Coordinator

end AtomicCommit
