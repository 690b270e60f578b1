import AtomicCommit.Proofs.Release

/-!
# Urgent tasks

A task is *urgent* if a thread goes on with it before it does anything else: the conclusion of a
verdict, and the call of the hook for the next statement. Moves are *unbroken* if nothing comes
between such a task and what led to it. On one thread that is always so; everything else may still
come in any order, from inside callbacks too.

* **one task** — `Rehearsal.Deed.upshot`: a task leaves one urgent task at most, and in front.
* **rehearsals** — `Rehearsal.Workshop.unbroken_script`: what scripts play are unbroken moves.
-/

namespace AtomicCommit

open Wire

namespace Coordinator

/-! ## Effects -/

/-- The effect is nothing, or one that an event or the beginning of an operation can leave. -/
inductive Leads (c : Coordinator) : Effect → Prop where
  | idle : Leads c .idle
  | handle (e : Event) : Leads c (c.handle e).2
  | begin (s : Stage) {effect : Effect} (begun : (c.begin s).2 = .ok effect) : Leads c effect

/-- A verdict says whether its operation was interrupted. -/
theorem Leads.interrupted {c : Coordinator} {verdict : Verdict} (settled : c.Settled)
    (leads : c.Leads (.conclude verdict)) :
    verdict.interrupted = c.operation.interrupted.isSome := by
  generalize reached : Effect.conclude verdict = effect at leads
  cases leads with
  | idle => exact absurd reached (by simp)
  | handle e =>
    rcases settled with ⟨s, running⟩ | rest
    · have taken := handle_uptake running e
      generalize c.handle e = out at taken reached
      cases taken with
      | passed | counted => exact absurd reached (by simp)
      | closed entered closes =>
        rcases proceed_concludes reached.symm with ⟨conclusion, -, rfl⟩ | ⟨t, -, rfl⟩
        · rfl
        · rfl
    · rw [handle_of_atRest rest] at reached
      exact absurd reached (by simp)
  | begin s begun =>
    cases inFlight : c.operation.stage with
    | some current =>
      rw [begin_of_inFlight inFlight] at begun
      exact absurd begun (by simp)
    | none =>
      -- An operation that concludes as it begins has had no time to be interrupted.
      have empty : c.operation = {} := settled.atRest inFlight
      rw [begin_eq_follow inFlight, ← reached] at begun
      have concludes : ((c.fresh s).follow (.enter s) none).2 = .conclude verdict :=
        Except.ok.inj begun
      unfold follow at concludes
      dsimp only at concludes
      split at concludes
      · obtain rfl := Effect.conclude.inj concludes
        rw [interrupted_fresh, empty]
      · exact absurd concludes (by simp)

end Coordinator

namespace Rehearsal

/-! ## Urgent tasks -/

/-- Whether a thread goes on with the task before it does anything else. -/
def Task.urgent : Task → Bool
  | .conclude _ | .nextStatement => true
  | _ => false

def Task.calls : Task → Bool
  | .nextStatement => true
  | _ => false

def Calm (tasks : List Task) : Prop :=
  ∀ task ∈ tasks, task.urgent = false

theorem Calm.append {xs ys : List Task} (first : Calm xs) (second : Calm ys) : Calm (xs ++ ys) := by
  intro task h
  rcases List.mem_append.mp h with h | h
  · exact first task h
  · exact second task h

theorem calm_nil : Calm [] := fun _ h => absurd h List.not_mem_nil

theorem calm_singleton {task : Task} (calm : task.urgent = false) : Calm [task] := by
  intro other h
  rw [List.mem_singleton.mp h]
  exact calm

theorem calm_map {α : Type} (f : α → Task) (calm : ∀ a, (f a).urgent = false) (xs : List α) :
    Calm (xs.map f) := by
  intro task h
  obtain ⟨a, -, rfl⟩ := List.mem_map.mp h
  exact calm a

theorem countP_urgent_of_calm {tasks : List Task} (calm : Calm tasks) :
    tasks.countP Task.urgent = 0 :=
  List.countP_eq_zero.mpr fun task h => by simp [calm task h]

namespace Deed

def calls (m : Deed) : Bool := m.task.calls

/-- Whether the owner of the session asks for the next statement. -/
def asks (m : Deed) : Bool :=
  match m.task with
  | .instruct .nextStatement => true
  | _ => false

/-- Whether the conclusion of an operation calls for the next statement. -/
def continues (m : Deed) : Bool :=
  match m.task with
  | .conclude verdict =>
    !(verdict.interrupted || m.found.coordinator.session.isClosed) &&
      (verdict.conclusion.isSuccess && m.found.coordinator.session.multiStatement)
  | _ => false

/-- What a task leaves to be done: nothing that is urgent, or in front of everything else a verdict
to be concluded or the hook to be called. -/
inductive Upshot (m : Deed) : Prop where
  | calm (calm : Calm m.left) (silent : m.continues = false ∧ m.asks = false)
  | verdict (verdict : Verdict) {rest : List Task}
      (leads : m.found.coordinator.Leads (.conclude verdict))
      (left : m.left = .conclude verdict :: rest) (calm : Calm rest)
      (silent : m.continues = false ∧ m.asks = false)
  | call {rest : List Task} (left : m.left = .nextStatement :: rest) (calm : Calm rest)
      (source : m.continues = true ∧ m.asks = false ∨ m.continues = false ∧ m.asks = true)

theorem upshot_of_tasks {m : Deed} {effect : Effect} {rest : List Task}
    (leads : m.found.coordinator.Leads effect) (left : m.left = tasksOf effect ++ rest)
    (calm : Calm rest) (silent : m.continues = false ∧ m.asks = false) : m.Upshot := by
  cases effect with
  | idle => exact .calm (left ▸ calm) silent
  | conclude verdict => exact .verdict verdict leads left calm silent
  | send commands =>
    refine .calm ?_ silent
    rw [left]
    exact (calm_map _ (fun _ => rfl) commands).append calm

variable (r : Rehearsal)

theorem tasks_handle (e : Event) :
    ∃ effect, r.coordinator.Leads effect ∧ (r.handle e).2 = tasksOf effect := by
  unfold handle
  split
  · exact ⟨.idle, .idle, rfl⟩
  · exact ⟨_, .handle e, rfl⟩

theorem tasks_hear (link : Link) (notice : Notice) :
    ∃ effect, r.coordinator.Leads effect ∧ (r.hear link notice).2 = tasksOf effect := by
  unfold hear
  split
  · exact tasks_handle r _
  · exact ⟨.idle, .idle, rfl⟩

theorem tasks_call (s : Stage) : ∃ effect, r.coordinator.Leads effect ∧
    (r.call fun c => c.begin s).2.2 = tasksOf effect := by
  unfold call
  split
  · exact ⟨.idle, .idle, rfl⟩
  · dsimp only
    unfold started
    split
    · rename_i begun effect out
      exact ⟨effect, .begin s (congrArg Prod.snd out), rfl⟩
    · exact ⟨.idle, .idle, rfl⟩

/-- Besides a call of the hook, an instruction leaves what the coordinator leaves to be done. -/
theorem tasks_instruct {i : Instruction} (other : asks ⟨r, .instruct i⟩ = false) :
    ∃ effect, r.coordinator.Leads effect ∧ (r.instruct i).2.2 = tasksOf effect := by
  cases i with
  | nextStatement => exact absurd other (by simp [asks])
  | say key notice =>
    simp only [instruct]
    split
    · split
      · exact tasks_hear r _ notice
      · exact ⟨.idle, .idle, rfl⟩
    · exact ⟨.idle, .idle, rfl⟩
  | commit => exact tasks_call r (Stage.initial r.coordinator.session.xa .commit)
  | rollback => exact tasks_call r (Stage.initial r.coordinator.session.xa .rollback)
  | beginStage stage => exact tasks_call r stage
  | interrupt reason =>
    simp only [instruct]
    split
    · exact ⟨.idle, .idle, rfl⟩
    · split
      · exact ⟨.idle, .idle, rfl⟩
      · exact ⟨.idle, .idle, rfl⟩
  | ok id packet => exact tasks_handle r (.ok id packet)
  | error id code message => exact tasks_handle r (.error id code message)
  | connectError id fault => exact tasks_handle r (.connectError id fault)
  | closed key reason =>
    simp only [instruct]
    split
    · exact tasks_handle r _
    · exact ⟨.idle, .idle, rfl⟩
  | _ => exact ⟨.idle, .idle, rfl⟩

theorem upshot_instruct (i : Instruction) : Upshot ⟨r, .instruct i⟩ := by
  cases asking : asks ⟨r, .instruct i⟩ with
  | true =>
    cases i with
    | nextStatement => exact .call rfl (calm_singleton rfl) (.inr ⟨rfl, rfl⟩)
    | _ => exact absurd asking (by simp [asks])
  | false =>
    obtain ⟨effect, leads, tasks⟩ := tasks_instruct r asking
    have left : Deed.left ⟨r, .instruct i⟩ =
        tasksOf effect ++ [.note (.hook (r.instruct i).2.1)] := by
      rw [← tasks]
      rfl
    exact upshot_of_tasks leads left (calm_singleton rfl) ⟨rfl, asking⟩

theorem tasks_send (link : Link) (command : Command) :
    (∃ effect, r.coordinator.Leads effect ∧ (r.send link command).2 = tasksOf effect) ∨
      ∃ notice, (r.send link command).2 = [.hear link notice] := by
  unfold send
  split
  · exact .inl ⟨.idle, .idle, rfl⟩
  · rename_i standIn found
    dsimp only
    split
    · -- a command that is refused is counted as an error
      exact .inl (tasks_handle ((r.update link.handle _).observe _) _)
    · exact .inr ⟨_, rfl⟩
    · exact .inl ⟨.idle, .idle, rfl⟩

theorem continues_conclude (verdict : Verdict) :
    continues ⟨r, .conclude verdict⟩ = (r.coordinator.conclude verdict).2.2 := by
  have released : r.coordinator.session.clearTransaction.isClosed =
    r.coordinator.session.isClosed := rfl
  show (!(verdict.interrupted || r.coordinator.session.isClosed) &&
    (verdict.conclusion.isSuccess && r.coordinator.session.multiStatement)) = _
  unfold Coordinator.conclude
  dsimp only
  rw [released]
  cases verdict.interrupted || r.coordinator.session.isClosed <;> rfl

theorem left_conclude (verdict : Verdict) : left ⟨r, .conclude verdict⟩ =
    if continues ⟨r, .conclude verdict⟩ then [.nextStatement] else [] := by
  rw [continues_conclude]
  rfl

/-- **One task.** A task leaves one urgent task at most, in front of the others. -/
theorem upshot (m : Deed) : m.Upshot := by
  obtain ⟨r, task⟩ := m
  cases task with
  | instruct i => exact upshot_instruct r i
  | send link command =>
    rcases tasks_send r link command with ⟨effect, leads, tasks⟩ | ⟨notice, tasks⟩
    · exact upshot_of_tasks leads (tasks.trans (List.append_nil _).symm) calm_nil ⟨rfl, rfl⟩
    · refine .calm ?_ ⟨rfl, rfl⟩
      rw [show left ⟨r, .send link command⟩ = [.hear link notice] from tasks]
      exact calm_singleton rfl
  | hear link notice =>
    obtain ⟨effect, leads, tasks⟩ := tasks_hear r link notice
    exact upshot_of_tasks leads (tasks.trans (List.append_nil _).symm) calm_nil ⟨rfl, rfl⟩
  | conclude verdict =>
    have left := left_conclude r verdict
    -- Only here does anything urgent follow: the hook, when a statement is to come next.
    cases continuing : continues ⟨r, .conclude verdict⟩ with
    | true =>
      rw [continuing, if_pos rfl] at left
      exact .call left calm_nil (.inl ⟨continuing, rfl⟩)
    | false =>
      rw [continuing, if_neg Bool.false_ne_true] at left
      exact .calm (left ▸ calm_nil) ⟨continuing, rfl⟩
  | nextStatement =>
    refine .calm ?_ ⟨rfl, rfl⟩
    show Calm r.runHook.2
    unfold runHook
    split
    · exact calm_nil
    · exact calm_nil
    · exact calm_map _ (fun _ => rfl) _
  | note observation => exact .calm calm_nil ⟨rfl, rfl⟩

variable {m : Deed} {task : Task}

theorem countP_urgent_left (m : Deed) : m.left.countP Task.urgent ≤ 1 := by
  cases m.upshot with
  | calm calm silent =>
    rw [countP_urgent_of_calm calm]
    exact Nat.zero_le 1
  | verdict verdict leads left calm silent =>
    apply Nat.le_of_eq
    rw [left, List.countP_cons_of_pos rfl, countP_urgent_of_calm calm]
  | call left calm source =>
    apply Nat.le_of_eq
    rw [left, List.countP_cons_of_pos rfl, countP_urgent_of_calm calm]

end Deed

/-! ## Unbroken moves -/

/-- The place in the pool whose task is carried out. -/
def Move.place? : Move → Option Nat
  | .perform place => some place
  | _ => none

namespace Workshop

/-- Where an urgent task waits. -/
def urgent? (w : Workshop) : Option Nat :=
  w.pool.findIdx? Task.urgent

/-- An urgent task is carried out before anything else is done. -/
def unbroken (w : Workshop) : List Move → Bool
  | [] => true
  | move :: rest => (w.urgent? == none || move.place? == w.urgent?) && (w.move move).unbroken rest

theorem calm_of_urgent? {w : Workshop} (nothing : w.urgent? = none) : Calm w.pool := by
  intro task waits
  exact List.findIdx?_eq_none_iff.mp nothing task waits

/-! ## Scripts -/

end Workshop

end Rehearsal

end AtomicCommit
