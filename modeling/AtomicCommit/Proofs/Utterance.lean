import AtomicCommit.Simulation.Network

/-!
# What backends say

A backend speaks to its listener in two places only: when a frame is handed to it, and when it is
told that its connection closed. `heard_perform` says so for a script that listens: whatever it
hears was said over one of these two tasks.
-/

namespace AtomicCommit

open Wire Transport

namespace Network

/-- What a backend says over a task, to whom, and on behalf of which link. -/
def utters? (n : Network) : Task → Option (Link × Listener × Notice)
  | .deliver service frame =>
    match (n.services[service]?).map Service.role with
    | some (.backend link replies listener) =>
      (Notice.ofFrame? frame (replies.hear frame).2).map fun notice => (link, listener, notice)
    | _ => none
  | .notify service reason =>
    match (n.services[service]?).map Service.role with
    | some (.backend link _ listener) => some (link, listener, .closed reason)
    | _ => none
  | _ => none

/-! ## What a script hears -/

/-- What the script was told by a backend. -/
def Observation.heard? : Observation → Option (ParticipantId × Notice)
  | .heard id notice => some (id, notice)
  | _ => none

/-- What the script was told by backends since the last report, latest first. -/
def heard (n : Network) : List (ParticipantId × Notice) :=
  n.observed.filterMap Observation.heard?

/-- Whether the script is the listener, and wants to know this. -/
def Listener.hears (listener : Listener) (notice : Notice) : Bool :=
  match listener with
  | .script full => full || !notice.isResultSet
  | _ => false

theorem heard_setHub (n : Network) (side : Side) (hub : Hub) :
    (n.setHub side hub).heard = n.heard := by
  cases side <;> rfl

theorem heard_wake (n : Network) (job : Job) : (n.wake job).heard = n.heard := by
  unfold wake
  split <;> rfl

theorem heard_wakeAll (n : Network) (a : Address) (workers : List Worker) :
    (n.wakeAll a workers).heard = n.heard := by
  unfold wakeAll
  induction workers generalizing n with
  | nil => rfl
  | cons worker rest ih => exact (ih _).trans (n.heard_wake _)

theorem heard_close (n : Network) (a : Address) (reason : String) :
    (n.close a reason).1.heard = n.heard := by
  unfold close
  generalize (n.hub a.side).close a.place reason = out
  obtain ⟨hub, _ | ⟨service, woken⟩⟩ := out
  · exact heard_setHub ..
  · have woke := (heard_wakeAll (n.setHub a.side hub) a woken).trans (heard_setHub ..)
    dsimp only
    split <;> exact woke

theorem heard_write (n : Network) (a : Address) (data : Bytes) :
    (n.write a data).1.heard = n.heard := by
  unfold write
  generalize (n.hub a.side).write a.place data = out
  obtain ⟨hub, fault | _ | crew⟩ := out
  · exact heard_setHub ..
  · exact heard_setHub ..
  · exact (heard_wake ..).trans (heard_setHub ..)

theorem heard_reap (n : Network) (service : Nat) : (n.reap service).1.heard = n.heard := by
  unfold reap
  split
  · rfl
  · split
    · rfl
    · dsimp only
      split
      · rfl
      · exact heard_close ..

theorem heard_reapAll (n : Network) (services : List Nat) :
    (n.reapAll services).heard = n.heard := by
  induction services generalizing n with
  | nil => rfl
  | cons service rest ih => exact (ih _).trans (n.heard_reap service)

theorem heard_handle (n : Network) (event : Event) : (n.handle event).1.heard = n.heard := by
  have held : ∀ (m : Network) (effect : Effect), (m.holdAll effect).heard = m.heard := by
    intro m effect
    cases effect with
    | idle | conclude => rfl
    | send commands =>
      simp only [holdAll]
      induction commands generalizing m with
      | nil => rfl
      | cons command rest ih => exact ih (m.hold command.1.handle)
  exact held { n with coordinator := (n.coordinator.handle event).1 } _

theorem heard_tell (n : Network) (link : Link) (listener : Listener) (notice : Notice) :
    (n.tell link listener notice).1.heard =
      (if listener.hears notice then [(link.id, notice)] else []) ++ n.heard := by
  cases listener with
  | nobody => rfl
  | coordinator =>
    simp only [tell]
    split
    · exact heard_handle ..
    · rfl
  | script full =>
    have same : (n.tell link (.script full) notice).1 =
        if (Listener.script full).hears notice then n.observe (.heard link.id notice) else n := rfl
    rw [same]
    by_cases wanted : (Listener.script full).hears notice = true
    · rw [if_pos wanted, if_pos wanted]
      rfl
    · rw [if_neg wanted, if_neg wanted]
      rfl

/-- What the script is told over a task. -/
def toldScript (n : Network) (task : Task) : List (ParticipantId × Notice) :=
  match n.utters? task with
  | some (link, listener, notice) => if listener.hears notice then [(link.id, notice)] else []
  | none => []

theorem heard_deliver (n : Network) (service : Nat) (frame : Bytes) :
    (n.deliver service frame).1.heard = n.toldScript (.deliver service frame) ++ n.heard := by
  unfold deliver toldScript utters?
  dsimp only
  cases there : n.services[service]? with
  | none => rfl
  | some s =>
    dsimp only [Option.map_some]
    cases s.role with
    | recorder => rfl
    | backend link replies listener =>
      dsimp only
      cases Notice.ofFrame? frame (replies.hear frame).2 with
      | none => rfl
      | some notice =>
        have told := heard_tell (n.updateService service fun s =>
          { s with role := .backend link (replies.hear frame).1 listener }) link listener notice
        dsimp only [Option.map_some]
        split <;> exact told

theorem heard_notify (n : Network) (service : Nat) (reason : String) :
    (n.notify service reason).1.heard = n.toldScript (.notify service reason) ++ n.heard := by
  unfold Network.notify toldScript utters?
  dsimp only
  cases there : n.services[service]? with
  | none => rfl
  | some s =>
    dsimp only [Option.map_some]
    cases s.role with
    | recorder => rfl
    | backend link replies listener => exact heard_tell ..

theorem heard_command (n : Network) (link : Link) (command : Command) :
    (n.command link command).1.heard = n.heard := by
  unfold Network.command
  split
  · rfl
  · rename_i s _
    have wrote := heard_write (n.updateService link.handle fun s =>
      { s with role := s.role.listen .coordinator }) s.address (command.append [])
    dsimp only
    split
    · rename_i sent
      rw [sent] at wrote
      exact wrote
    · rename_i failed
      rw [failed] at wrote
      exact (heard_handle ..).trans wrote

theorem heard_conclude (n : Network) (verdict : Verdict) :
    (n.conclude verdict).heard = n.heard := by
  unfold conclude
  generalize n.coordinator.conclude verdict = concluded
  obtain ⟨coordinator, packet, continues⟩ := concluded
  have gone := heard_reapAll { n with coordinator := coordinator }
    (n.coordinator.session.participants.map Link.handle)
  cases packet with
  | none => exact gone
  | some packet =>
    simp only [tellClient, writeClient]
    split
    · exact gone
    · exact (heard_write ..).trans gone

theorem heard_act (n : Network) (a : Address) (action : Action) :
    (n.act a action).1.heard = n.heard := by
  cases action with
  | close reason => exact n.heard_close a reason
  | write data =>
    have wrote := n.heard_write a data
    unfold act
    dsimp only
    generalize n.write a data = out at wrote
    obtain ⟨after, result⟩ := out
    cases result <;> exact wrote

/-- The script hears what backends say to it, and nothing else. -/
theorem heard_perform (n : Network) (task : Task) :
    (n.perform task).1.heard = n.toldScript task ++ n.heard := by
  cases task with
  | deliver service frame => exact n.heard_deliver service frame
  | notify service reason => exact n.heard_notify service reason
  | read a crew =>
    show (n.read a crew).1.heard = n.heard
    unfold Network.read
    dsimp only
    split
    · exact heard_setHub ..
    · exact heard_setHub ..
    · exact heard_setHub ..
    · split <;> exact heard_setHub ..
  | send a crew =>
    show (n.send a crew).1.heard = n.heard
    unfold Network.send
    dsimp only
    split <;> exact heard_setHub ..
  | settle | resume | endReader | endWriter => exact heard_setHub ..
  | close a reason => exact n.heard_close a reason
  | act a action => exact n.heard_act a action
  | command link command => exact n.heard_command link command
  | conclude verdict => exact n.heard_conclude verdict
  | release service => exact heard_reap ..
  | reap service => exact n.heard_reap service

end Network

end AtomicCommit
