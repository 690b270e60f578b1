import AtomicCommit.Proofs.Passage

/-!
# The life of a session

A session's life is a list of acts: what its owner does to it, the operations that its client asks
for, and everything that can happen while they run. `Docket.live` carries a life out.

* **settled** — `settled_live`: between two acts a stage is running, or the coordinator is at rest.
* **distinct** — `nodup_live`: no shard is bound twice.
* **absent** — `absent_live`: a shard that is not bound stays unbound until it is attached.
-/

namespace AtomicCommit

open Wire

/-! ## Acts -/

/-- Whatever can be done to a session. -/
inductive Act where
  | attach (link : Link)
  | detach (id : ParticipantId)
  | setXa (on : Bool)
  | setPacketId (n : UInt8)
  | setMultiStatement (on : Bool)
  | pushSavepoint (name : String)
  | clearSavepoints
  | clearTransaction
  | markDiscarding
  | setInterruptReason (reason : String)
  | takePacketId
  | takeXaSequence
  /-- Start an operation at a stage. -/
  | begin (stage : Stage)
  | commit
  | rollback
  | input (input : Input)
  deriving DecidableEq, Repr

/-- The shard that an act binds. -/
def Act.attached? : Act → Option ParticipantId
  | .attach link => some link.id
  | _ => none

namespace Docket

/-- The docket after a call that begins an operation, or is refused. -/
def begun (d : Docket) : Coordinator × Except Fault Effect → Docket
  | (c, .ok effect) => d.file (c, effect)
  | (c, .error _) => { d with coordinator := c }

def act (d : Docket) : Act → Docket
  | .attach link => d.onSession fun s => s.attach link
  | .detach id => d.onSession fun s => (s.detach id).2
  | .setXa on => d.onSession fun s => { s with xa := on }
  | .setPacketId n => d.onSession fun s => { s with packetId := n }
  | .setMultiStatement on => d.onSession fun s => { s with multiStatement := on }
  | .pushSavepoint name => d.onSession fun s => { s with savepoints := s.savepoints ++ [name] }
  | .clearSavepoints => d.onSession fun s => { s with savepoints := [] }
  | .clearTransaction => d.onSession Session.clearTransaction
  | .markDiscarding => d.onSession Session.markDiscarding
  | .setInterruptReason reason => d.onSession fun s => { s with interruptReason := some reason }
  | .takePacketId => d.onSession fun s => s.nextPacketId.2
  | .takeXaSequence => d.onSession fun s => s.nextXaSequence.2
  | .begin stage => d.begun (d.coordinator.begin stage)
  | .commit => d.begun d.coordinator.beginCommit
  | .rollback => d.begun d.coordinator.beginRollback
  | .input i => (d.step i).1

def live (d : Docket) : List Act → Docket
  | [] => d
  | a :: rest => (d.act a).live rest

def born (id : UInt64) (issuer : String) : Docket where
  coordinator := { session := { id := id, xidIssuer := issuer } }

end Docket

/-! ## Settled coordinators -/

namespace Docket

variable {d : Docket}

theorem settled_begin (settled : d.coordinator.Settled) (s : Stage) :
    (d.begun (d.coordinator.begin s)).coordinator.Settled := by
  rcases settled with ⟨current, running⟩ | rest
  · rw [Coordinator.begin_of_inFlight running.stage]
    exact .inl ⟨current, running⟩
  · -- from rest, a stage is never refused
    have idle : d.coordinator.operation.stage = none := by
      rw [show d.coordinator.operation = {} from rest]
    generalize out : d.coordinator.begin s = result
    obtain ⟨c, _ | effect⟩ := result
    · rw [Coordinator.begin_eq_follow idle] at out
      exact absurd (congrArg Prod.snd out) (by simp)
    · rcases begun_lands out with ⟨-, -, running⟩ | ⟨-, rests⟩
      · exact .inl ⟨s, running⟩
      · exact .inr rests

theorem settled_act (settled : d.coordinator.Settled) (a : Act) :
    (d.act a).coordinator.Settled := by
  cases a with
  | begin stage => exact settled_begin settled stage
  | commit | rollback => exact settled_begin settled _
  | input i => exact settled_step settled i
  | _ => exact settled.of_operation rfl

/-- **Settled.** Throughout its life a session has a stage running, or no operation at all. -/
theorem settled_live (settled : d.coordinator.Settled) (acts : List Act) :
    (d.live acts).coordinator.Settled := by
  induction acts generalizing d with
  | nil => exact settled
  | cons a rest ih => exact ih (settled_act settled a)

theorem settled_born (id : UInt64) (issuer : String) :
    (born id issuer).coordinator.Settled :=
  .inr rfl

end Docket

/-! ## Who takes part -/

theorem Session.absent_of_detach {s : Session} (distinct : s.participantIds.Nodup)
    (id : ParticipantId) : id ∉ (s.detach id).2.participantIds := by
  have erased : (s.detach id).2.participantIds = s.participantIds.erase id := by
    show (s.participants.eraseP (·.id == id)).map Link.id = _
    rw [List.erase_eq_eraseP', Session.participantIds, List.eraseP_map]
    rfl
  rw [erased]
  exact distinct.not_mem_erase

namespace Coordinator

/-- To a session an event does no more than to unbind a participant and mark it as discarding. -/
theorem session_handle {c : Coordinator} (settled : c.Settled) (e : Event) :
    ∃ on, (c.handle e).1.session = (c.unbind e).discardIf on := by
  rcases settled with ⟨s, running⟩ | rest
  · have taken := handle_uptake running e
    generalize c.handle e = result at taken
    cases taken with
    | passed | counted => exact ⟨false, (Session.discardIf_false _).symm⟩
    | closed => exact session_follow _ _ _
  · rw [handle_of_atRest rest]
    exact ⟨false, (Session.discardIf_false _).symm⟩

theorem participants_begin (c : Coordinator) (s : Stage) :
    (c.begin s).1.session.participants = c.session.participants := by
  cases inFlight : c.operation.stage with
  | some current => rw [begin_of_inFlight inFlight]
  | none =>
    rw [begin_eq_follow inFlight, participants_follow]
    exact participants_fresh c s

end Coordinator

namespace Docket

variable {d : Docket}

def ids (d : Docket) : List ParticipantId :=
  d.coordinator.session.participantIds

theorem participants_step_sublist (settled : d.coordinator.Settled) (i : Input) :
    (d.step i).1.coordinator.session.participants.Sublist d.coordinator.session.participants := by
  cases i with
  | event e =>
    show (d.coordinator.handle e).1.session.participants.Sublist _
    obtain ⟨on, same⟩ := Coordinator.session_handle settled e
    rw [same, Session.participants_discardIf]
    cases e with
    | closed link reason => exact List.eraseP_sublist
    | ok | error | connectError => exact List.Sublist.refl _
  | interrupt reason =>
    simp only [step, Coordinator.interrupt]
    split
    · rename_i accepted
      repeat' split at accepted
      all_goals cases accepted
      all_goals exact List.Sublist.refl _
    · exact List.Sublist.refl _
  | tell =>
    simp only [step]
    split
    · exact List.Sublist.refl _
    · simp only [Coordinator.conclude]
      split <;> exact List.nil_sublist _
  | closeSession | clientClosed => exact List.Sublist.refl _

theorem ids_step_sublist (settled : d.coordinator.Settled) (i : Input) :
    (d.step i).1.ids.Sublist d.ids :=
  (participants_step_sublist settled i).map _

theorem ids_begun (out : Coordinator × Except Fault Effect) :
    (d.begun out).ids = out.1.session.participantIds := by
  obtain ⟨c, _ | effect⟩ := out <;> rfl

/-- Only an attachment adds to who takes part. -/
theorem ids_act_sublist (settled : d.coordinator.Settled) {a : Act} (other : a.attached? = none) :
    (d.act a).ids.Sublist d.ids := by
  have starts : ∀ s, (d.begun (d.coordinator.begin s)).ids.Sublist d.ids := by
    intro s
    rw [ids_begun, Session.participantIds, Coordinator.participants_begin]
    exact List.Sublist.refl _
  cases a with
  | attach link => exact absurd other (by simp [Act.attached?])
  | detach id => exact List.eraseP_sublist.map _
  | clearTransaction => exact List.nil_sublist _
  | begin stage => exact starts stage
  | commit | rollback => exact starts _
  | input i => exact ids_step_sublist settled i
  | _ => exact List.Sublist.refl _

theorem participants_attach (s : Session) (link : Link) :
    (s.attach link).participants =
      if link.id ∈ s.participantIds then
        s.participants.map fun p => if p.id == link.id then link else p
      else s.participants ++ [link] := by
  have bound : s.participants.any (·.id == link.id) = true ↔ link.id ∈ s.participantIds := by
    simp [Session.participantIds]
  unfold Session.attach
  by_cases here : link.id ∈ s.participantIds
  · rw [if_pos here]
    have any := bound.mpr here
    split <;> simp only [any, if_true]
  · rw [if_neg here]
    have none : s.participants.any (·.id == link.id) = false := by
      simpa using fun any => here (bound.mp any)
    split <;> simp only [none, Bool.false_eq_true, if_false]

theorem ids_attach (link : Link) :
    (d.act (.attach link)).ids = if link.id ∈ d.ids then d.ids else d.ids ++ [link.id] := by
  show ((d.coordinator.session.attach link).participants).map Link.id = _
  rw [participants_attach]
  by_cases here : link.id ∈ d.ids
  · rw [if_pos here, if_pos (show link.id ∈ d.coordinator.session.participantIds from here),
      List.map_map]
    apply List.map_congr_left
    intro p _
    by_cases same : p.id = link.id <;> simp [same]
  · rw [if_neg here, if_neg (show link.id ∉ d.coordinator.session.participantIds from here),
      List.map_append]
    rfl

theorem nodup_act (settled : d.coordinator.Settled) (distinct : d.ids.Nodup) (a : Act) :
    (d.act a).ids.Nodup := by
  cases attached : a.attached? with
  | none => exact distinct.sublist (ids_act_sublist settled attached)
  | some id =>
    cases a with
    | attach link =>
      rw [ids_attach]
      split
      · exact distinct
      · rename_i absent
        rw [List.nodup_append]
        refine ⟨distinct, by simp, ?_⟩
        rintro left here right there rfl
        rw [List.mem_singleton.mp there] at here
        exact absent here
    | _ => simp [Act.attached?] at attached

/-- **Distinct.** No shard is bound twice. -/
theorem nodup_live (settled : d.coordinator.Settled) (distinct : d.ids.Nodup) (acts : List Act) :
    (d.live acts).ids.Nodup := by
  induction acts generalizing d with
  | nil => exact distinct
  | cons a rest ih => exact ih (settled_act settled a) (nodup_act settled distinct a)

/-- **Absent.** A shard that is not bound stays so until it is attached. -/
theorem absent_live (settled : d.coordinator.Settled) {id : ParticipantId} (absent : id ∉ d.ids)
    {acts : List Act} (away : ∀ a ∈ acts, a.attached? ≠ some id) : id ∉ (d.live acts).ids := by
  induction acts generalizing d with
  | nil => exact absent
  | cons a rest ih =>
    rw [List.forall_mem_cons] at away
    apply ih (settled_act settled a) _ away.2
    -- an attachment adds its own shard, which is another
    cases attached : a.attached? with
    | none => exact fun here => absent ((ids_act_sublist settled attached).subset here)
    | some other =>
      cases a with
      | attach link =>
        rw [ids_attach]
        split
        · exact absent
        · have different : id ≠ link.id := fun same => away.1 (congrArg some same.symm)
          simp [absent, different]
      | _ => simp [Act.attached?] at attached

/-! ## Whom commands are sent to -/

theorem mem_ids_of_mem_orders {c : Coordinator} {t : Stage} {p : Link × Command}
    (h : p ∈ c.orders t) : p.1.id ∈ c.session.participantIds := by
  obtain ⟨link, part, rfl⟩ := List.mem_map.mp h
  exact List.mem_map_of_mem (List.mem_filter.mp part).1

theorem mem_ids_of_begin {c begun : Coordinator} {s : Stage} {effect : Effect}
    (h : c.begin s = (begun, .ok effect)) {p : Link × Command} (sent : p ∈ effect.commands) :
    p.1.id ∈ c.session.participantIds := by
  rcases begun_lands h with ⟨-, rfl, -⟩ | ⟨rfl, -⟩
  · have addressed := mem_ids_of_mem_orders sent
    rw [Session.participantIds, Coordinator.participants_fresh] at addressed
    exact addressed
  · exact absurd sent List.not_mem_nil

/-- A step sends commands only to shards that are bound after it. -/
theorem mem_ids_of_step (settled : d.coordinator.Settled) {i : Input} {p : Link × Command}
    (h : p ∈ (d.step i).2.effect.commands) : p.1.id ∈ (d.step i).1.ids := by
  rcases settled with ⟨s, running⟩ | rest
  · rcases step_lands running i with ⟨effect, -⟩ | ⟨t, -, after, effect, -⟩ | ⟨⟨verdict, effect⟩, -⟩
    · rw [effect] at h
      exact absurd h List.not_mem_nil
    · rw [effect] at h
      unfold ids
      rw [after]
      exact mem_ids_of_mem_orders h
    · rw [effect] at h
      exact absurd h List.not_mem_nil
  · rw [(step_of_atRest rest i).1] at h
    exact absurd h List.not_mem_nil

/-- Nothing is sent to a shard that is not bound. -/
theorem sent_of_absent (settled : d.coordinator.Settled) {id : ParticipantId}
    (absent : id ∉ d.ids) {inputs : List Input} {p : Link × Command} (h : p ∈ d.sent inputs) :
    p.1.id ≠ id := by
  induction inputs generalizing d with
  | nil => exact absurd h List.not_mem_nil
  | cons i rest ih =>
    have absentNext : id ∉ (d.step i).1.ids :=
      fun here => absent ((ids_step_sublist settled i).subset here)
    rw [sent_cons, List.mem_append] at h
    rcases h with now | later
    · rintro rfl
      exact absentNext (mem_ids_of_step settled now)
    · exact ih (settled_step settled i) absentNext later

end Docket

end AtomicCommit
