import AtomicCommit.Proofs.Landing

/-!
# How a coordinator takes events in

While a stage is running, `Coordinator.handle` can do three things with an event, and
`Coordinator.Uptake` lists them: the cohort does not count it; the cohort counts it and still
waits; the cohort counts it and closes, and the coordinator follows the transition of its stage.

* **inversion** — `handle_uptake`: every event is taken in one of the three ways.
* **rest** — `handle_of_atRest`: without an operation an event unbinds a closed participant, and
  does nothing else.
-/

namespace AtomicCommit

namespace Coordinator

/-! ## Running and resting -/

/-- A stage is in flight and waits for its cohort. -/
structure Running (c : Coordinator) (s : Stage) : Prop where
  stage : c.operation.stage = some s
  waiting : c.operation.cohort.Waiting
  fits : c.operation.xid.isSome = s.command.isXa

/-- No operation is in flight, and none has left anything behind. -/
def AtRest (c : Coordinator) : Prop :=
  c.operation = {}

/-- A stage is running, or no operation is in flight and none has left anything behind. -/
def Settled (c : Coordinator) : Prop :=
  (∃ s, c.Running s) ∨ c.AtRest

theorem Settled.atRest {c : Coordinator} (settled : c.Settled) (idle : c.operation.stage = none) :
    c.AtRest := by
  rcases settled with ⟨s, running⟩ | rest
  · rw [running.stage] at idle
    exact absurd idle (by simp)
  · exact rest

theorem Settled.of_operation {c c' : Coordinator} (settled : c.Settled)
    (same : c'.operation = c.operation) : c'.Settled := by
  rcases settled with ⟨s, running⟩ | rest
  · exact .inl ⟨s, same ▸ running.stage, same ▸ running.waiting, same ▸ running.fits⟩
  · exact .inr (same.trans rest)

/-! ## The parts of an event -/

/-- The entry that the open cohort makes of an event. -/
def entryOf (c : Coordinator) : Event → Option Cohort.Entry
  | .ok id packet =>
    if c.operation.cohort.isPending id then some (.ok id (some packet)) else none
  | .error id code message =>
    if c.operation.cohort.isPending id then
      if c.tolerates code then some (.ok id none) else some (.error id message)
    else none
  | .closed link reason =>
    if c.operation.cohort.isPending link.id then
      some (.closed link.id (link.info.closedMessage reason))
    else none
  | .connectError (some id) fault =>
    if c.operation.cohort.isPending id then some (.error id fault.message) else none
  | .connectError none fault =>
    if c.operation.cohort.isOpen && !c.operation.cohort.complete then
      some (.unreachable fault.message)
    else none

/-- The session after an event: a close unbinds its participant. -/
def unbind (c : Coordinator) : Event → Session
  | .closed link _ => (c.session.detach link.id).2
  | _ => c.session

/-- The departure that an event leaves behind when no cohort counts it. -/
def departure (c : Coordinator) : Event → Option String
  | .closed link reason =>
    if (c.operation.stage.map Stage.precedesDecision).getD false then
      c.operation.departed.or (some (link.info.closedMessage reason))
    else c.operation.departed
  | _ => c.operation.departed

/-- The coordinator after an event that the cohort does not count. -/
def pass (c : Coordinator) (e : Event) : Coordinator where
  session := c.unbind e
  operation := { c.operation with departed := c.departure e }

/-- The coordinator with an event in the books of its cohort. -/
def booked (c : Coordinator) (e : Event) (entry : Cohort.Entry) : Coordinator where
  session := c.unbind e
  operation := { c.operation with cohort := c.operation.cohort.book entry }

/-- The coordinator with the cohort marked complete. -/
def settled (c : Coordinator) : Coordinator where
  session := c.session
  operation := { c.operation with cohort := { c.operation.cohort with complete := true } }

/-- Where the stage goes when its cohort closes. -/
def proceed (c : Coordinator) (s : Stage) : Coordinator × Effect :=
  c.settled.follow (s.next (c.result s)) (c.result s).successPacket

/-! ## Inversion -/

/-- What `handle` can do with an event while stage `s` is running. -/
inductive Uptake (c : Coordinator) (s : Stage) (e : Event) : Coordinator × Effect → Prop where
  /-- The cohort does not count the event. -/
  | passed (uncounted : c.entryOf e = none) : Uptake c s e (c.pass e, .idle)
  /-- The cohort counts the event and still waits. -/
  | counted {entry : Cohort.Entry} (entered : c.entryOf e = some entry)
      (running : (c.booked e entry).Running s) : Uptake c s e (c.booked e entry, .idle)
  /-- The cohort counts the event and closes. -/
  | closed {entry : Cohort.Entry} (entered : c.entryOf e = some entry)
      (closes : (c.booked e entry).operation.cohort.pending.length ≤
        (c.booked e entry).operation.cohort.unreachable) :
      Uptake c s e ((c.booked e entry).proceed s)

theorem countClosed_of_not_pending {c : Coordinator} {id : ParticipantId}
    (h : c.operation.cohort.isPending id = false) (message : String) :
    c.countClosed id message =
      ({ c with operation := { c.operation with
          departed :=
            if (c.operation.stage.map Stage.precedesDecision).getD false then
              c.operation.departed.or (some message)
            else c.operation.departed } }, .idle) := by
  unfold countClosed
  rw [Cohort.linkClosed_of_not_pending h]
  dsimp only
  split <;> rfl

theorem handle_of_uncounted {c : Coordinator} {e : Event} (uncounted : c.entryOf e = none) :
    c.handle e = (c.pass e, .idle) := by
  cases e with
  | ok id packet =>
    have notPending : ¬ c.operation.cohort.isPending id = true := by
      simpa [entryOf] using uncounted
    simp only [handle]
    rw [if_neg notPending]
    rfl
  | error id code message =>
    have notPending : ¬ c.operation.cohort.isPending id = true := by
      intro pending
      simp only [entryOf, pending, if_true] at uncounted
      split at uncounted <;> exact absurd uncounted (by simp)
    simp only [handle]
    rw [if_neg notPending]
    rfl
  | closed link reason =>
    have notPending : c.operation.cohort.isPending link.id = false := by
      simpa [entryOf] using uncounted
    simp only [handle]
    rw [countClosed_of_not_pending (c := c.detach link.id) notPending]
    rfl
  | connectError id fault =>
    cases id with
    | some id =>
      have notPending : ¬ c.operation.cohort.isPending id = true := by
        simpa [entryOf] using uncounted
      simp only [handle]
      rw [if_neg notPending]
      rfl
    | none =>
      -- Nobody is named here: such a fault counts for any cohort that is still open and waiting.
      have shut : (!c.operation.cohort.isOpen || c.operation.cohort.complete) = true := by
        have notWaiting :
            c.operation.cohort.isOpen = true → c.operation.cohort.complete = true := by
          simpa [entryOf] using uncounted
        cases isOpen : c.operation.cohort.isOpen with
        | false => rfl
        | true => simp [notWaiting isOpen]
      simp only [handle, Cohort.connectError, shut, if_true, count]
      rfl

/-- What the cohort makes of a counted event. -/
theorem handle_of_counted {c : Coordinator} {e : Event} {entry : Cohort.Entry}
    (entered : c.entryOf e = some entry) :
    c.handle e = count { c with session := c.unbind e }
      (c.operation.cohort.book entry).markComplete := by
  cases e with
  | ok id packet =>
    -- Each event counts under its own guard, and the guard that `entryOf` tests is the handler's.
    simp only [entryOf] at entered
    split at entered
    · rename_i pending
      cases entered
      simp only [handle, pending, if_true]
      rw [Cohort.respondedWith_eq pending]
      rfl
    · exact absurd entered (by simp)
  | error id code message =>
    simp only [entryOf] at entered
    split at entered
    · rename_i pending
      split at entered
      · rename_i tolerated
        cases entered
        simp only [handle, pending, tolerated, if_true]
        rw [Cohort.responded_eq pending]
        rfl
      · rename_i refused
        cases entered
        simp only [handle, pending, if_true]
        rw [if_neg refused, Cohort.erroredWith_eq pending]
        rfl
    · exact absurd entered (by simp)
  | closed link reason =>
    simp only [entryOf] at entered
    split at entered
    · rename_i pending
      cases entered
      simp only [handle, countClosed, detach]
      rw [Cohort.linkClosed_eq pending]
      rfl
    · exact absurd entered (by simp)
  | connectError id fault =>
    cases id with
    | some id =>
      simp only [entryOf] at entered
      split at entered
      · rename_i pending
        cases entered
        simp only [handle, pending, if_true]
        rw [Cohort.erroredWith_eq pending]
        rfl
      · exact absurd entered (by simp)
    | none =>
      simp only [entryOf] at entered
      split at entered
      · rename_i waiting
        cases entered
        simp only [Bool.and_eq_true, Bool.not_eq_true'] at waiting
        simp only [handle]
        rw [Cohort.connectError_eq waiting.1 waiting.2]
        rfl
      · exact absurd entered (by simp)

/-- The cohort counts the event and still waits for somebody. -/
theorem handle_of_owed {c : Coordinator} {e : Event} {entry : Cohort.Entry}
    (entered : c.entryOf e = some entry)
    (owed : (c.operation.cohort.book entry).unreachable <
      (c.operation.cohort.book entry).pending.length) :
    c.handle e = (c.booked e entry, .idle) := by
  rw [handle_of_counted entered, Cohort.markComplete_of_owed owed]
  rfl

/-- The cohort counts the event and has nobody left to wait for. -/
theorem handle_of_closes {c : Coordinator} {s : Stage} (running : c.Running s) {e : Event}
    {entry : Cohort.Entry} (entered : c.entryOf e = some entry)
    (closes : (c.operation.cohort.book entry).pending.length ≤
      (c.operation.cohort.book entry).unreachable) :
    c.handle e = (c.booked e entry).proceed s := by
  rw [handle_of_counted entered,
    Cohort.markComplete_of_settled (by simpa using running.waiting.isOpen)
      (by simpa using running.waiting.incomplete) closes]
  exact advance_eq_follow (c := (c.booked e entry).settled) running.stage rfl running.fits

/-- **Inversion.** A running coordinator takes an event in one of three ways. -/
theorem handle_uptake {c : Coordinator} {s : Stage} (running : c.Running s) (e : Event) :
    Uptake c s e (c.handle e) := by
  cases entered : c.entryOf e with
  | none =>
    rw [handle_of_uncounted entered]
    exact .passed entered
  | some entry =>
    -- the cohort closes once no more are pending than slots are taken
    by_cases owed : (c.operation.cohort.book entry).unreachable <
        (c.operation.cohort.book entry).pending.length
    · rw [handle_of_owed entered owed]
      refine .counted entered ⟨running.stage, ⟨?_, ?_, owed⟩, running.fits⟩
      · simpa [booked] using running.waiting.isOpen
      · simpa [booked] using running.waiting.incomplete
    · have closes := Nat.le_of_not_lt owed
      rw [handle_of_closes running entered closes]
      exact .closed entered closes

theorem running_pass {c : Coordinator} {s : Stage} (running : c.Running s) (e : Event) :
    (c.pass e).Running s :=
  ⟨running.stage, running.waiting, running.fits⟩

theorem running_landed {c : Coordinator} {s : Stage}
    (fits : c.operation.xid.isSome = s.command.isXa)
    (somebody : s.targets c.session.participantIds ≠ []) : (c.landed s).Running s :=
  ⟨rfl, Cohort.waiting_opened somebody, fits⟩

section Proceed

variable {c : Coordinator} {s t : Stage}

theorem proceed_of_conclude {conclusion : Conclusion}
    (next : s.next (c.result s) = .conclude conclusion) :
    c.proceed s = c.settled.finish conclusion (c.result s).successPacket := by
  unfold proceed
  rw [next]
  rfl

theorem proceed_of_nobody (next : s.next (c.result s) = .enter t)
    (nobody : t.targets c.session.participantIds = []) :
    c.proceed s = ({ session := c.session.discardIf t.abandons },
      .conclude ⟨t.ifNobody, none, c.operation.interrupted.isSome⟩) := by
  unfold proceed
  rw [next]
  exact follow_of_nobody (c := c.settled) nobody _

theorem proceed_of_somebody (next : s.next (c.result s) = .enter t)
    (somebody : t.targets c.session.participantIds ≠ []) :
    c.proceed s = (c.settled.landed t, .send (c.orders t)) := by
  unfold proceed
  rw [next]
  exact follow_of_somebody (c := c.settled) somebody _

end Proceed

/-- A stage that proceeds has somebody to ask next, or the operation concludes. -/
theorem proceed_lands {c : Coordinator} {s : Stage}
    (fits : c.operation.xid.isSome = s.command.isXa) :
    (∃ t, s.next (c.result s) = .enter t ∧ (c.proceed s).1 = c.settled.landed t ∧
        (c.proceed s).2 = .send (c.orders t) ∧ (c.proceed s).1.Running t) ∨
      (∃ verdict, (c.proceed s).2 = .conclude verdict) ∧ (c.proceed s).1.AtRest ∧
        ∀ t, s.next (c.result s) = .enter t → t.targets c.session.participantIds = [] := by
  cases next : s.next (c.result s) with
  | conclude conclusion =>
    rw [proceed_of_conclude next]
    exact .inr ⟨⟨_, rfl⟩, rfl, by simp⟩
  | enter t =>
    by_cases nobody : t.targets c.session.participantIds = []
    · rw [proceed_of_nobody next nobody]
      refine .inr ⟨⟨_, rfl⟩, rfl, ?_⟩
      rintro u ⟨rfl⟩
      exact nobody
    · rw [proceed_of_somebody next nobody]
      have fitsNext : c.operation.xid.isSome = t.command.isXa := by
        rw [Stage.isXa_of_next next]
        exact fits
      exact .inl ⟨t, rfl, rfl, rfl, running_landed fitsNext nobody⟩

/-- An operation that concludes when a stage closes concludes with the transition of that stage, or
with a stage after it that has nobody to ask. -/
theorem proceed_concludes {c : Coordinator} {s : Stage} {verdict : Verdict}
    (h : (c.proceed s).2 = .conclude verdict) :
    (∃ conclusion, s.next (c.result s) = .conclude conclusion ∧
        verdict = ⟨conclusion, (c.result s).successPacket, c.operation.interrupted.isSome⟩) ∨
      ∃ t, s.next (c.result s) = .enter t ∧
        verdict = ⟨t.ifNobody, none, c.operation.interrupted.isSome⟩ := by
  cases next : s.next (c.result s) with
  | conclude conclusion =>
    rw [proceed_of_conclude next] at h
    exact .inl ⟨conclusion, rfl, (Effect.conclude.inj h).symm⟩
  | enter t =>
    by_cases nobody : t.targets c.session.participantIds = []
    · rw [proceed_of_nobody next nobody] at h
      exact .inr ⟨t, rfl, (Effect.conclude.inj h).symm⟩
    · rw [proceed_of_somebody next nobody] at h
      exact absurd h (by simp)

/-! ## Rest -/

theorem entryOf_of_atRest {c : Coordinator} (rest : c.AtRest) (e : Event) : c.entryOf e = none := by
  have empty : c.operation = {} := rest
  cases e with
  | connectError id fault => cases id <;> simp [entryOf, empty, Cohort.isPending]
  | _ => simp [entryOf, empty, Cohort.isPending]

theorem handle_of_atRest {c : Coordinator} (rest : c.AtRest) (e : Event) :
    c.handle e = ({ c with session := c.unbind e }, .idle) := by
  rw [handle_of_uncounted (entryOf_of_atRest rest e)]
  have empty : c.operation = {} := rest
  cases e <;> simp [pass, departure, empty]

end Coordinator

end AtomicCommit
