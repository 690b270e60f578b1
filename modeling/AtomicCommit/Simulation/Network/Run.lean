import AtomicCommit.Simulation.Network
import AtomicCommit.Transport.Energy

/-!
# Networks come to rest

Whatever an instruction leads to is worked off, the latest call first, and then every task that
was woken gets its turn, until all of them wait. `Network.run` ends for every network: each task
lowers the energy of the connections, or moves the operation in flight down the ranks of the
stages, or takes work off the stack and the queue of turns, or writes a chunk. `less_perform`
says so for one task, and is the reason why `run` needs no bound.
-/

namespace AtomicCommit

namespace Network

open Wire Transport

/-! ## What is left to do -/

/-- How many actions a service still has to carry out. -/
def Role.pending : Role → Nat
  | .recorder _ actions _ => actions.length
  | .backend .. => 0

/-- What drives the network from outside: its connections, and the actions of recorders. -/
def energy (n : Network) : Nat :=
  n.front.energy + n.back.energy + total (fun s => s.role.pending) n.services

/-- How many stages may still follow. -/
def rank (n : Network) : Nat :=
  n.coordinator.operation.rank

/-- What is queued on connections. -/
def backlog (n : Network) : Nat :=
  n.front.backlog + n.back.backlog

/-- How much work a task is worth. A write wakes a task, which is worth two. -/
def Task.weight : Task → Nat
  | .read .. | .send .. | .endReader .. | .endWriter .. | .close .. | .release _ | .reap _ => 1
  | .resume .. | .notify .. => 2
  | .deliver .. | .act .. | .conclude _ => 3
  | .settle .. | .command .. => 4

/-- How much work waits on the stack and in the queue of turns. -/
def load (n : Network) (tasks : List Task) : Nat :=
  total Task.weight tasks + 2 * n.ready.length

/-- What is left to do while these tasks wait. It falls in lexicographic order. -/
def remaining (n : Network) (tasks : List Task) : Nat × Nat × Nat × Nat :=
  (n.energy, n.rank, n.load tasks, n.backlog)

def Less (a b : Nat × Nat × Nat × Nat) : Prop :=
  Prod.Lex (· < ·) (Prod.Lex (· < ·) (Prod.Lex (· < ·) (· < ·))) a b

theorem less_iff {a b : Nat × Nat × Nat × Nat} :
    Less a b ↔ a.1 < b.1 ∨ a.1 = b.1 ∧ (a.2.1 < b.2.1 ∨ a.2.1 = b.2.1 ∧
      (a.2.2.1 < b.2.2.1 ∨ a.2.2.1 = b.2.2.1 ∧ a.2.2.2 < b.2.2.2)) := by
  simp only [Less, Prod.lex_def]

/-- A task's result leaves less to do than the task, of weight `w`, did, chunks apart. -/
def Falls (n : Network) (w : Nat) (out : Network × List Task) : Prop :=
  out.1.energy < n.energy ∨
    out.1.energy = n.energy ∧
      (out.1.rank < n.rank ∨
        out.1.rank = n.rank ∧ out.1.load out.2 < w + 2 * n.ready.length)

theorem load_cons (n : Network) (task : Task) (rest : List Task) :
    n.load (task :: rest) = task.weight + 2 * n.ready.length + total Task.weight rest := by
  simp [load]
  omega

theorem load_append (n : Network) (tasks rest : List Task) :
    n.load (tasks ++ rest) = n.load tasks + total Task.weight rest := by
  simp [load]
  omega

theorem Falls.less {n : Network} {task : Task} {out : Network × List Task}
    (h : n.Falls task.weight out) (rest : List Task) :
    Less (out.1.remaining (out.2 ++ rest)) (n.remaining (task :: rest)) := by
  rw [less_iff]
  simp only [remaining, load_cons, load_append]
  unfold Falls at h
  omega

/-! ## Changes that leave the energy and the rank alone -/

/-- Nothing changed that counts, except that up to `k` tasks were woken. -/
structure Wakes (n : Network) (k : Nat) (after : Network) : Prop where
  energy : after.energy = n.energy
  rank : after.rank = n.rank
  ready : after.ready.length ≤ n.ready.length + k

theorem Wakes.falls {n after : Network} {k w : Nat} {tasks : List Task} (h : n.Wakes k after)
    (fits : total Task.weight tasks + 2 * k < w) : n.Falls w (after, tasks) := by
  have := h.ready
  refine .inr ⟨h.energy, .inr ⟨h.rank, ?_⟩⟩
  simp only [load]
  omega

theorem Wakes.trans {n m l : Network} {j k : Nat} (h : n.Wakes j m) (h' : m.Wakes k l) :
    n.Wakes (j + k) l :=
  ⟨h'.energy.trans h.energy, h'.rank.trans h.rank,
    Nat.le_trans h'.ready (by have := h.ready; omega)⟩

theorem wakes_refl (n : Network) : n.Wakes 0 n :=
  ⟨rfl, rfl, Nat.le_refl _⟩

theorem wakes_wake (n : Network) (job : Job) : n.Wakes 1 (n.wake job) := by
  unfold wake
  split
  · exact ⟨rfl, rfl, Nat.le_add_right ..⟩
  · exact ⟨rfl, rfl, by simp⟩

theorem energy_wakeAll (n : Network) (a : Address) (workers : List Worker) :
    (n.wakeAll a workers).energy = n.energy := by
  unfold wakeAll
  induction workers generalizing n with
  | nil => rfl
  | cons worker rest ih => exact (ih _).trans (wakes_wake ..).energy

theorem energy_setHub (n : Network) (side : Side) (hub : Hub) :
    (n.setHub side hub).energy + (n.hub side).energy = n.energy + hub.energy := by
  cases side <;> simp only [setHub, Network.hub, energy] <;> omega

theorem backlog_setHub (n : Network) (side : Side) (hub : Hub) :
    (n.setHub side hub).backlog + (n.hub side).backlog = n.backlog + hub.backlog := by
  cases side <;> simp only [setHub, Network.hub, backlog] <;> omega

theorem rank_setHub (n : Network) (side : Side) (hub : Hub) :
    (n.setHub side hub).rank = n.rank := by
  cases side <;> rfl

theorem ready_setHub (n : Network) (side : Side) (hub : Hub) :
    (n.setHub side hub).ready = n.ready := by
  cases side <;> rfl

theorem wakes_setHub {n : Network} {side : Side} {hub : Hub}
    (h : hub.energy = (n.hub side).energy) : n.Wakes 0 (n.setHub side hub) := by
  refine ⟨?_, rank_setHub .., ?_⟩
  · have := energy_setHub n side hub
    omega
  · simp [ready_setHub]

theorem wakes_updateService (n : Network) (service : Nat) {f : Service → Service}
    (h : ∀ s, (f s).role.pending = s.role.pending) : n.Wakes 0 (n.updateService service f) := by
  refine ⟨?_, rfl, Nat.le_refl _⟩
  simp only [Network.energy, updateService]
  rw [total_modify_of_eq h]

theorem wakes_write (n : Network) (a : Address) (data : Bytes) :
    n.Wakes 1 (n.write a data).1 := by
  have eq := Hub.energy_write (n.hub a.side) a.place data
  unfold write
  generalize (n.hub a.side).write a.place data = out at eq
  obtain ⟨hub, result⟩ := out
  have same : n.Wakes 0 (n.setHub a.side hub) := wakes_setHub eq
  cases result with
  | error fault => exact ⟨same.energy, same.rank, Nat.le_succ_of_le same.ready⟩
  | ok woken =>
    cases woken with
    | none => exact ⟨same.energy, same.rank, Nat.le_succ_of_le same.ready⟩
    | some crew => exact same.trans (wakes_wake ..)

theorem wakes_writeClient (n : Network) (packet : Bytes) : n.Wakes 1 (n.writeClient packet) := by
  unfold writeClient
  split
  · exact ⟨rfl, rfl, Nat.le_add_right ..⟩
  · exact wakes_write ..

theorem wakes_tellClient (n : Network) (packet : Option Bytes) :
    n.Wakes 1 (n.tellClient packet) := by
  cases packet with
  | none => exact ⟨rfl, rfl, Nat.le_add_right ..⟩
  | some packet => exact wakes_writeClient n packet

/-! ## Closing and letting go -/

/-- A close that finds the connection open lowers the energy, and any other does nothing that
counts. -/
theorem wakes_close (n : Network) (a : Address) (reason : String) :
    n.Wakes 0 (n.close a reason).1 ∧ (n.close a reason).2 = [] ∨
      (n.close a reason).1.energy < n.energy := by
  have h := Hub.energy_close (n.hub a.side) a.place reason
  unfold close
  generalize (n.hub a.side).close a.place reason = out at h
  obtain ⟨hub, closing⟩ := out
  rcases h with ⟨rfl, eq⟩ | less
  · exact .inl ⟨wakes_setHub eq, rfl⟩
  · refine .inr ?_
    dsimp only at less
    have lt : (n.setHub a.side hub).energy < n.energy := by
      have := energy_setHub n a.side hub
      omega
    cases closing with
    | again => exact lt
    | first service woken =>
      have same := energy_wakeAll (n.setHub a.side hub) a woken
      dsimp only
      split
      · exact Nat.lt_of_le_of_lt (Nat.le_of_eq same) lt
      · exact Nat.lt_of_le_of_lt (Nat.le_of_eq same) lt

theorem falls_close (n : Network) (a : Address) (reason : String) {w : Nat} (hw : 0 < w) :
    n.Falls w (n.close a reason) := by
  rcases wakes_close n a reason with ⟨same, none⟩ | less
  · have fits : total Task.weight (n.close a reason).2 + 2 * 0 < w := by simpa [none] using hw
    exact same.falls fits
  · exact .inl less

theorem wakes_reap (n : Network) (service : Nat) :
    n.Wakes 0 (n.reap service).1 ∧ (n.reap service).2 = [] ∨
      (n.reap service).1.energy < n.energy := by
  unfold reap
  split
  · exact .inl ⟨wakes_refl n, rfl⟩
  · split
    · exact .inl ⟨wakes_refl n, rfl⟩
    · have same : n.Wakes 0 (n.updateService service fun s => { s with gone := true }) :=
        wakes_updateService n service fun _ => rfl
      dsimp only
      split
      · exact .inl ⟨same, rfl⟩
      · rcases wakes_close (n.updateService service fun s => { s with gone := true })
          ‹Service›.address "backend released" with ⟨again, none⟩ | less
        · exact .inl ⟨same.trans again, none⟩
        · exact .inr (same.energy ▸ less)

theorem wakes_reapAll (services : List Nat) (n : Network) :
    n.Wakes 0 (n.reapAll services) ∨ (n.reapAll services).energy < n.energy := by
  induction services generalizing n with
  | nil => exact .inl (wakes_refl n)
  | cons service rest ih =>
    simp only [reapAll, List.foldl_cons] at ih ⊢
    rcases wakes_reap n service with ⟨same, _⟩ | less <;> rcases ih (n.reap service).1 with h | h
    · exact .inl (same.trans h)
    · exact .inr (same.energy ▸ h)
    · exact .inr (h.energy ▸ less)
    · exact .inr (Nat.lt_trans h less)

theorem falls_reap (n : Network) (service : Nat) {w : Nat} (hw : 0 < w) :
    n.Falls w (n.reap service) := by
  rcases wakes_reap n service with ⟨same, none⟩ | less
  · have fits : total Task.weight (n.reap service).2 + 2 * 0 < w := by simpa [none] using hw
    exact same.falls fits
  · exact .inl less

theorem Falls.of_wakes {n m : Network} {k w : Nat} {out : Network × List Task}
    (same : n.Wakes k m) (h : m.Falls w out) : n.Falls (w + 2 * k) out := by
  have := same.energy
  have := same.rank
  have := same.ready
  unfold Falls at *
  omega

/-! ## The coordinator -/

theorem wakes_holdAll (n : Network) (effect : Effect) : n.Wakes 0 (n.holdAll effect) := by
  cases effect with
  | idle => exact wakes_refl n
  | conclude => exact wakes_refl n
  | send commands =>
    simp only [holdAll]
    induction commands generalizing n with
    | nil => exact wakes_refl n
    | cons c rest ih =>
      have first : n.Wakes 0 (n.hold c.1.handle) := wakes_updateService _ _ fun _ => rfl
      exact first.trans (ih _)

theorem falls_handle (n : Network) (event : Event) : n.Falls 2 (n.handle event) := by
  have descends := Coordinator.rank_handle n.coordinator event
  unfold handle
  generalize n.coordinator.handle event = out at descends
  obtain ⟨coordinator, effect⟩ := out
  have held := wakes_holdAll { n with coordinator := coordinator } effect
  have energy : (holdAll { n with coordinator := coordinator } effect).energy = n.energy :=
    held.energy
  have rank : (holdAll { n with coordinator := coordinator } effect).rank =
      coordinator.operation.rank := held.rank
  rcases descends with less | ⟨eq, idle⟩
  · refine .inr ⟨energy, .inl ?_⟩
    change (holdAll { n with coordinator := coordinator } effect).rank < _
    exact rank ▸ less
  · obtain rfl : effect = .idle := idle
    refine .inr ⟨energy, .inr ⟨eq, ?_⟩⟩
    simp only [advance, tasksOf, holdAll, load]
    cases n.unboundBy? event <;> simp [Task.weight]

theorem falls_tell (n : Network) (link : Link) (listener : Listener) (notice : Notice) :
    n.Falls 2 (n.tell link listener notice) := by
  unfold tell
  split
  · exact (wakes_refl n).falls (by simp)
  · split
    · exact falls_handle n _
    · exact (wakes_refl n).falls (by simp)
  · split
    · exact Wakes.falls (k := 0) ⟨rfl, rfl, Nat.le_refl _⟩ (by simp)
    · exact (wakes_refl n).falls (by simp)

theorem falls_command (n : Network) (link : Link) (command : Command) :
    n.Falls 4 (n.command link command) := by
  unfold Network.command
  split
  · exact (wakes_refl n).falls (by simp)
  · rename_i s found
    have listens := wakes_updateService n link.handle
      (f := fun s => { s with role := s.role.listen .coordinator }) fun s => by
        cases s.role <;> rfl
    dsimp only
    split
    · rename_i after h
      have wrote := listens.trans (wakes_write _ s.address (command.append []))
      rw [h] at wrote
      exact wrote.falls (by simp)
    · rename_i after fault h
      have wrote := listens.trans (wakes_write _ s.address (command.append []))
      rw [h] at wrote
      exact (falls_handle after _).of_wakes wrote

theorem falls_conclude (n : Network) (verdict : Verdict) :
    n.Falls 3 (n.conclude verdict, []) := by
  have operation := Coordinator.operation_conclude n.coordinator verdict
  unfold conclude
  generalize n.coordinator.conclude verdict = out at operation
  obtain ⟨coordinator, packet, continues⟩ := out
  have start : n.Wakes 0 { n with coordinator := coordinator } :=
    ⟨rfl, congrArg Operation.rank operation, Nat.le_refl _⟩
  dsimp only
  rcases wakes_reapAll (n.coordinator.session.participants.map Link.handle)
    { n with coordinator := coordinator } with same | less
  · exact ((start.trans same).trans (wakes_tellClient _ packet)).falls (by simp)
  · refine .inl ?_
    rw [(wakes_tellClient _ packet).energy]
    exact less

/-! ## Services -/

theorem energy_updateService {n : Network} {service : Nat} {s : Service} {f : Service → Service}
    (found : n.services[service]? = some s) :
    (n.updateService service f).energy + s.role.pending = n.energy + (f s).role.pending := by
  have := total_modify (g := fun s : Service => s.role.pending) (f := f) found
  simp only [energy, updateService]
  omega

theorem length_partition {α : Type} (p : α → Bool) (l : List α) :
    (l.partition p).1.length + (l.partition p).2.length = l.length := by
  rw [List.partition_eq_filter_filter]
  induction l with
  | nil => rfl
  | cons a l ih => cases h : p a <;> simp_all <;> omega

theorem falls_deliver (n : Network) (service : Nat) (frame : Bytes) :
    n.Falls 3 (n.deliver service frame) := by
  unfold deliver
  split
  · exact (wakes_refl n).falls (by simp)
  · rename_i s found
    split
    · rename_i key actions seen recorder
      have split := length_partition (isDue (seen + 1)) actions
      have energy := energy_updateService (f := fun s => { s with
        role := .recorder key (actions.partition (isDue (seen + 1))).2 (seen + 1) }) found
      simp only [recorder, Role.pending] at energy
      generalize actions.partition (isDue (seen + 1)) = parts at split energy
      obtain ⟨due, later⟩ := parts
      dsimp only at split energy ⊢
      -- A frame that makes nothing due uses up the task; one that does uses up the script.
      cases due with
      | nil =>
        refine .inr ⟨?_, .inr ⟨rfl, ?_⟩⟩
        · change Network.energy (n.updateService ..) = _
          simp only [List.length_nil] at split
          omega
        · simp [load, observe, updateService]
      | cons action due =>
        refine .inl ?_
        change Network.energy (n.updateService ..) < _
        simp only [List.length_cons] at split
        omega
    · rename_i link replies listener backend
      generalize replies.hear frame = out
      obtain ⟨replies, meaning⟩ := out
      have same : n.Wakes 0 (n.updateService service fun s =>
          { s with role := .backend link replies listener }) := by
        refine ⟨?_, rfl, Nat.le_refl _⟩
        have := energy_updateService (f := fun s => { s with
          role := .backend link replies listener }) found
        simpa [backend, Role.pending] using this
      dsimp only
      split
      · exact same.falls (by simp)
      · rename_i notice _
        have told := (falls_tell (n.updateService service fun s =>
          { s with role := .backend link replies listener }) link listener notice).of_wakes same
        generalize Network.tell _ link listener notice = out at told
        obtain ⟨after, tasks⟩ := out
        dsimp only [Falls] at told
        have more (fault : Fault) :
            n.Falls 3 (after, tasks ++ [.close s.address fault.message]) := by
          unfold Falls
          rw [load_append]
          simp only [total_cons, total_nil, Task.weight]
          omega
        have enough : n.Falls 3 (after, tasks) := by
          unfold Falls
          dsimp only
          omega
        dsimp only
        split
        · exact enough
        · exact more _
        · exact enough

theorem falls_notify (n : Network) (service : Nat) (reason : String) :
    n.Falls 2 (n.notify service reason) := by
  unfold notify
  split
  · exact (wakes_refl n).falls (by simp)
  · split
    · exact Wakes.falls (k := 0) ⟨rfl, rfl, Nat.le_refl _⟩ (by simp)
    · exact falls_tell ..

theorem falls_act (n : Network) (a : Address) (action : Action) : n.Falls 3 (n.act a action) := by
  cases action with
  | close reason => exact falls_close n a reason (by simp)
  | write data =>
    have woken := wakes_write n a data
    simp only [act]
    split
    · rename_i after h
      rw [h] at woken
      exact Wakes.falls (k := 1) ⟨woken.energy, woken.rank, woken.ready⟩ (by simp)
    · rename_i after fault h
      rw [h] at woken
      exact Wakes.falls (k := 1) ⟨woken.energy, woken.rank, woken.ready⟩ (by simp)

theorem falls_release (n : Network) (service : Nat) : n.Falls 1 (n.release service) :=
  (falls_reap _ service Nat.one_pos).of_wakes
    (wakes_updateService n service (f := fun s => { s with holds := s.holds - 1 }) fun _ => rfl)

/-! ## Turns -/

theorem falls_read (n : Network) (a : Address) (crew : Nat) : n.Falls 1 (n.read a crew) := by
  have h := Hub.energy_read (n.hub a.side) a.place crew
  unfold Network.read
  generalize (n.hub a.side).read a.place crew = out at h
  obtain ⟨hub, turn⟩ := out
  have energy := energy_setHub n a.side hub
  dsimp only [Hub.Reads] at h
  by_cases less : hub.energy < (n.hub a.side).energy
  · have less : (n.setHub a.side hub).energy < n.energy := by omega
    refine .inl ?_
    dsimp only
    split
    · exact less
    · exact less
    · exact less
    · split
      · rename_i s _
        have held := wakes_updateService (n.setHub a.side hub) s
          (f := fun s => { s with holds := s.holds + 1 }) fun _ => rfl
        exact held.energy ▸ less
      · exact less
  · obtain ⟨rfl, le⟩ := h.resolve_right less
    exact (wakes_setHub (by omega)).falls (by simp)

theorem falls_settle (n : Network) (a : Address) (crew : Nat) (service : Option Nat)
    (split : Split) : n.Falls 4 (n.settle a crew service split) := by
  have h := Hub.energy_settle (n.hub a.side) a.place crew split
  unfold Network.settle
  generalize (n.hub a.side).settle a.place crew split = out at h
  obtain ⟨hub, reason⟩ := out
  have energy := energy_setHub n a.side hub
  dsimp only at h
  by_cases less : hub.energy < (n.hub a.side).energy
  · refine .inl ?_
    dsimp only
    omega
  · obtain ⟨rfl, eq⟩ := h.resolve_right less
    refine (wakes_setHub eq).falls ?_
    cases service <;> simp [Task.weight]

theorem falls_resume (n : Network) (a : Address) (crew : Nat) :
    n.Falls 2 (n.setHub a.side ((n.hub a.side).shrink a.place crew), [.read a crew]) :=
  (wakes_setHub (Hub.energy_shrink ..)).falls (by simp [Task.weight])

theorem falls_of_energy_le {n : Network} {side : Side} {hub : Hub} {w : Nat} (hw : 0 < w)
    (le : hub.energy ≤ (n.hub side).energy) : n.Falls w (n.setHub side hub, []) := by
  have energy := energy_setHub n side hub
  by_cases less : hub.energy < (n.hub side).energy
  · exact .inl (by dsimp only; omega)
  · exact (wakes_setHub (by omega)).falls (by simpa using hw)

theorem falls_endReader (n : Network) (a : Address) (crew : Nat) :
    n.Falls (Task.endReader a crew).weight (n.perform (.endReader a crew)) :=
  falls_of_energy_le Nat.one_pos (Hub.energy_endReader ..)

theorem falls_endWriter (n : Network) (a : Address) (crew : Nat) :
    n.Falls (Task.endWriter a crew).weight (n.perform (.endWriter a crew)) :=
  falls_of_energy_le Nat.one_pos (Hub.energy_endWriter ..)

/-- A turn of a writing task leaves less to do: less energy, less load, or less backlog. -/
theorem less_send (n : Network) (a : Address) (crew : Nat) (rest : List Task) :
    Less ((n.send a crew).1.remaining ((n.send a crew).2 ++ rest))
      (n.remaining (.send a crew :: rest)) := by
  have h := Hub.energy_send (n.hub a.side) a.place crew
  rw [less_iff]
  unfold Network.send
  generalize (n.hub a.side).send a.place crew = out at h
  obtain ⟨hub, progress⟩ := out
  have energy := energy_setHub n a.side hub
  have backlog := backlog_setHub n a.side hub
  -- Energy first, then the rank, then what waits, then the backlog: the order of the measure.
  rcases h with less | ⟨eq, rfl | ⟨rfl, less⟩⟩
  · left
    dsimp only at less
    have less : (n.setHub a.side hub).energy < n.energy := by omega
    cases progress <;> exact less
  · dsimp only at eq
    refine .inr ⟨?_, .inr ⟨rank_setHub .., .inl ?_⟩⟩
    · simp only [remaining]
      omega
    · simp [remaining, load, ready_setHub, Task.weight]
  · dsimp only at eq less
    refine .inr ⟨?_, .inr ⟨rank_setHub .., .inr ⟨?_, ?_⟩⟩⟩
    · simp only [remaining]
      omega
    · simp [remaining, load, ready_setHub]
    · simp only [remaining]
      omega

/-! ## Runs -/

/-- Carrying out a task leaves less to do. -/
theorem less_perform (n : Network) (task : Task) (rest : List Task) :
    Less ((n.perform task).1.remaining ((n.perform task).2 ++ rest))
      (n.remaining (task :: rest)) := by
  cases task with
  | read a crew => exact (falls_read n a crew).less rest
  | send a crew => exact less_send n a crew rest
  | deliver service frame => exact (falls_deliver n service frame).less rest
  | settle a crew service split => exact (falls_settle n a crew service split).less rest
  | resume a crew => exact (falls_resume n a crew).less rest
  | endReader a crew => exact (falls_endReader n a crew).less rest
  | endWriter a crew => exact (falls_endWriter n a crew).less rest
  | close a reason => exact (falls_close n a reason Nat.one_pos).less rest
  | notify service reason => exact (falls_notify n service reason).less rest
  | act a action => exact (falls_act n a action).less rest
  | command link command => exact (falls_command n link command).less rest
  | conclude verdict => exact (falls_conclude n verdict).less rest
  | release service => exact (falls_release n service).less rest
  | reap service => exact (falls_reap n service Nat.one_pos).less rest

/-- Giving a task its turn leaves less to do. -/
theorem less_turn {n : Network} {job : Job} {ready : List Job} (h : n.ready = job :: ready) :
    Less (remaining { n with ready := ready } [job.task]) (n.remaining []) := by
  rw [less_iff]
  refine .inr ⟨rfl, .inr ⟨rfl, .inl ?_⟩⟩
  have : job.task.weight = 1 := by
    unfold Job.task
    split <;> rfl
  simp [remaining, load, h, this]
  omega

/-- Work off tasks, the first one and all that it leads to before the others, and give turns while
any are coming. -/
def run (n : Network) (tasks : List Task) : Network :=
  match tasks with
  | task :: rest =>
    let out := n.perform task
    run out.1 (out.2 ++ rest)
  | [] =>
    match _h : n.ready with
    | [] => n
    | job :: ready => run { n with ready := ready } [job.task]
  termination_by n.remaining tasks
  decreasing_by
  · exact less_perform n task rest
  · exact less_turn _h

/-- A run ends with no turn coming: every task waits or has ended. -/
theorem ready_run (n : Network) (tasks : List Task) : (n.run tasks).ready = [] := by
  fun_induction run n tasks with
  | case1 n task rest out ih => exact ih
  | case2 n h => exact h
  | case3 n job ready h ih => exact ih

/-! ## Scripts -/

/-- Carry out an instruction, with all that it leads to, until every task waits. -/
def play (n : Network) (instruction : Instruction) : Network × Answer :=
  let (n, answer, tasks) := n.instruct instruction
  (n.run tasks, answer)

/-- Take out what was observed since the last time, in order. -/
def takeObserved (n : Network) : List Observation × Network :=
  (n.observed.reverse, { n with observed := [] })

/-- Forget what a peer was sent, once it is reported. -/
def dropAccepted (n : Network) (a : Address) : Network :=
  n.setHub a.side ((n.hub a.side).update a.place fun c => { c with peer.accepted := [] })

def clientKey : Key := ⟨.front, "client"⟩

/-- A session with a client and one backend for each name, bound to it, once every task waits. -/
def ofSession (session : Session) (pool : Pool) (maxPacketSize : Nat) (shrinks : Bool)
    (backends : List (String × LinkInfo)) : Network :=
  let n : Network := {
    coordinator := { session := session }
    front := { name := "frontend", pool := pool }
    back := { name := "backend", pool := pool } }
  let n := (n.openLine clientKey "client" 50000 maxPacketSize shrinks).start client
  (backends.foldl (fun n (name, info) => n.addBackend name info maxPacketSize shrinks) n).run []

end Network

end AtomicCommit
