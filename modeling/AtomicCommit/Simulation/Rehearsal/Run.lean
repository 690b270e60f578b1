import AtomicCommit.Measure
import AtomicCommit.Simulation.Rehearsal

/-!
# Rehearsals end

Whatever one call leads to is worked off from a stack of tasks, the latest first, which is the
order in which nested calls happen. `Rehearsal.run` ends for every script: each task uses up part
of the script, or moves the operation in flight down the ranks of the stages, or just goes away.
`falls_perform` says so for one task, and is the reason why `run` needs no bound.
-/

namespace AtomicCommit

namespace Rehearsal

open Wire

/-! ## What is left to do -/

/-- How much of the script is left: reactions not yet shown and scripts of the hook. -/
noncomputable def material (r : Rehearsal) : Nat :=
  total (fun s => sizeOf s.reactions) r.cast + (r.hook.map sizeOf).getD 0

/-- How much of the script a task carries. -/
noncomputable def Task.material : Task → Nat
  | .instruct instruction => sizeOf instruction
  | _ => 0

/-- How many tasks a task is worth. -/
def Task.weight : Task → Nat
  | .conclude _ => 2
  | _ => 1

/-- How much of the script is left while these tasks wait. -/
noncomputable def materialWith (r : Rehearsal) (tasks : List Task) : Nat :=
  r.material + total Task.material tasks

theorem materialWith_nil (r : Rehearsal) : r.materialWith [] = r.material := by
  simp [materialWith]

/-- What is left to do while these tasks wait. It falls in lexicographic order. -/
noncomputable def remaining (r : Rehearsal) (tasks : List Task) : Nat × Nat × Nat :=
  (r.materialWith tasks, r.coordinator.operation.rank, total Task.weight tasks)

def Less (a b : Nat × Nat × Nat) : Prop :=
  Prod.Lex (· < ·) (Prod.Lex (· < ·) (· < ·)) a b

theorem less_of_material {a b : Nat × Nat × Nat} (h : a.1 < b.1) : Less a b := by
  obtain ⟨a, _⟩ := a
  obtain ⟨b, _⟩ := b
  exact .left _ _ h

theorem less_of_rank {a b : Nat × Nat × Nat} (h : a.1 ≤ b.1) (hr : a.2.1 < b.2.1) :
    Less a b := by
  obtain ⟨a, ra, _⟩ := a
  obtain ⟨b, rb, _⟩ := b
  rcases Nat.lt_or_eq_of_le h with h | rfl
  · exact .left _ _ h
  · exact .right _ (.left _ _ hr)

theorem less_of_weight {a b : Nat × Nat × Nat} (h : a.1 ≤ b.1) (hr : a.2.1 = b.2.1)
    (hw : a.2.2 < b.2.2) : Less a b := by
  obtain ⟨a, ra, wa⟩ := a
  obtain ⟨b, rb, wb⟩ := b
  obtain rfl : ra = rb := hr
  rcases Nat.lt_or_eq_of_le h with h | rfl
  · exact .left _ _ h
  · exact .right _ (.right _ hw)

/-! ## One task -/

/-- A task's result leaves less to do than the task, of material `m` and weight `w`, did. -/
def Falls (r : Rehearsal) (m w : Nat) (out : Rehearsal × List Task) : Prop :=
  out.1.materialWith out.2 < r.material + m ∨
    out.1.materialWith out.2 ≤ r.material + m ∧
      (out.1.coordinator.operation.rank < r.coordinator.operation.rank ∨
        out.1.coordinator.operation.rank = r.coordinator.operation.rank ∧
          total Task.weight out.2 < w)

theorem Falls.less {r : Rehearsal} {task : Task} {out : Rehearsal × List Task}
    (h : Falls r task.material task.weight out) (rest : List Task) :
    Less (out.1.remaining (out.2 ++ rest)) (r.remaining (task :: rest)) := by
  simp only [Falls, materialWith] at h
  rcases h with h | ⟨h, h' | ⟨h', h''⟩⟩
  · apply less_of_material
    simp [remaining, materialWith]
    omega
  · apply less_of_rank
    · simp [remaining, materialWith]
      omega
    · exact h'
  · apply less_of_weight
    · simp [remaining, materialWith]
      omega
    · exact h'
    · simp [remaining]
      omega

@[simp] theorem material_tasksOf (effect : Effect) :
    total Task.material (tasksOf effect) = 0 := by
  cases effect with
  | idle => rfl
  | conclude => rfl
  | send commands =>
    simp only [tasksOf]
    induction commands with
    | nil => rfl
    | cons => simp_all [Task.material]

theorem falls_handle (r : Rehearsal) (event : Event) {w : Nat} (hw : 0 < w) :
    Falls r 0 w (r.handle event) := by
  unfold handle
  split
  · exact .inr ⟨by simp [materialWith], .inr ⟨rfl, by simpa using hw⟩⟩
  · have := Coordinator.rank_handle r.coordinator event
    refine .inr ⟨by simp [materialWith, material], ?_⟩
    rcases this with h | ⟨h, idle⟩
    · exact .inl h
    · exact .inr ⟨h, by simpa [idle, tasksOf] using hw⟩

theorem falls_hear (r : Rehearsal) (link : Link) (notice : Notice) {w : Nat} (hw : 0 < w) :
    Falls r 0 w (r.hear link notice) := by
  unfold hear
  split
  · exact falls_handle r _ hw
  · exact .inr ⟨by simp [materialWith], .inr ⟨rfl, by simpa using hw⟩⟩

theorem Falls.of_le {r s : Rehearsal} {m w : Nat} {out : Rehearsal × List Task}
    (hm : s.material ≤ r.material)
    (hr : s.coordinator.operation.rank = r.coordinator.operation.rank) (h : Falls s m w out) :
    Falls r m w out := by
  unfold Falls at *
  rw [hr] at h
  omega

theorem Falls.of_lt {r s : Rehearsal} {m w w' : Nat} {out : Rehearsal × List Task}
    (hm : s.material < r.material) (h : Falls s m w out) : Falls r m w' out := by
  unfold Falls at *
  omega

theorem falls_nil (r : Rehearsal) {m w : Nat} (hw : 0 < w) : Falls r m w (r, []) :=
  .inr ⟨by simp [materialWith], .inr ⟨rfl, by simpa using hw⟩⟩

theorem material_react_le (r : Rehearsal) (handle : Nat) :
    (r.update handle fun s =>
      { s with handled := true, reactions := s.reactions.tail }).material ≤ r.material := by
  refine Nat.add_le_add_right (total_modify_le (fun s => ?_) ..) _
  cases s.reactions <;> simp

theorem material_react_lt {r : Rehearsal} {handle : Nat} {standIn : StandIn}
    (h : r.cast[handle]? = some standIn) (some : standIn.reactions ≠ []) :
    (r.update handle fun s =>
      { s with handled := true, reactions := s.reactions.tail }).material < r.material := by
  refine Nat.add_lt_add_right (total_modify_lt h ?_) _
  cases hr : standIn.reactions with
  | nil => exact absurd hr some
  | cons first rest =>
    simp only [List.tail_cons, List.cons.sizeOf_spec]
    omega

theorem falls_send (r : Rehearsal) (link : Link) (command : Command) {w : Nat} (hw : 0 < w) :
    Falls r 0 w (r.send link command) := by
  unfold send
  split
  · exact falls_nil r hw
  · rename_i standIn found
    dsimp only
    by_cases empty : standIn.reactions = []
    · have le := material_react_le r link.handle
      rw [empty]
      cases standIn.refusal with
      | some text => exact (falls_handle _ _ hw).of_le le rfl
      | none => exact (falls_nil _ hw).of_le le rfl
    · have lt := material_react_lt found empty
      split
      · exact (falls_handle _ _ hw).of_lt lt
      · exact .inl lt
      · exact .inl lt

@[simp] theorem material_writeClient (r : Rehearsal) (packet : Bytes) :
    (r.writeClient packet).material = r.material := by
  unfold writeClient
  split
  · rfl
  · split <;> rfl

@[simp] theorem coordinator_writeClient (r : Rehearsal) (packet : Bytes) :
    (r.writeClient packet).coordinator = r.coordinator := by
  unfold writeClient
  split
  · rfl
  · split <;> rfl

theorem falls_conclude (r : Rehearsal) (verdict : Verdict) : Falls r 0 2 (r.conclude verdict) := by
  have operation := Coordinator.operation_conclude r.coordinator verdict
  unfold conclude
  generalize r.coordinator.conclude verdict = out at operation ⊢
  obtain ⟨coordinator, packet, continues⟩ := out
  dsimp only at operation ⊢
  refine .inr ⟨?_, .inr ⟨?_, ?_⟩⟩
  · cases packet <;> cases continues <;>
      simp [materialWith, Task.material] <;> simp [material]
  · cases packet <;> simp [operation]
  · cases continues <;> simp [Task.weight]

theorem sum_material_instruct (script : List Instruction) :
    total Task.material (script.map Task.instruct) < sizeOf script := by
  induction script with
  | nil => simp
  | cons i rest ih =>
    simp only [List.map_cons, total_cons, List.cons.sizeOf_spec, Task.material]
    omega

theorem falls_runHook (r : Rehearsal) : Falls r 0 1 r.runHook := by
  unfold runHook
  split
  · exact falls_nil r Nat.one_pos
  · exact (falls_nil (r.observe .nextStatement) Nat.one_pos).of_le (Nat.le_refl _) rfl
  · rename_i script rest h
    refine .inl ?_
    have := sum_material_instruct script
    simp only [materialWith, material, observe, h, Option.map_some, Option.getD_some,
      List.cons.sizeOf_spec]
    omega

theorem material_handle (r : Rehearsal) (event : Event) :
    (r.handle event).1.materialWith (r.handle event).2 = r.material := by
  unfold handle
  split
  · simp [materialWith]
  · simp [materialWith, material]

theorem material_hear (r : Rehearsal) (link : Link) (notice : Notice) :
    (r.hear link notice).1.materialWith (r.hear link notice).2 = r.material := by
  unfold hear
  split
  · exact material_handle ..
  · simp [materialWith]

theorem material_call (r : Rehearsal) (f : Coordinator → Coordinator × Except Fault Effect) :
    (r.call f).1.materialWith (r.call f).2.2 = r.material := by
  unfold call started
  split
  · simp [materialWith]
  · split <;> simp [materialWith, material]

theorem sizeOf_append_reactions (a b : List Reaction) :
    sizeOf (a ++ b) ≤ sizeOf a + sizeOf b := by
  induction a with
  | nil => simp
  | cons => simp_all; omega

theorem Instruction.sizeOf_pos (i : Instruction) : 0 < sizeOf i := by
  cases i <;> simp +arith

/-- What an instruction leaves to do carries less of the script than the instruction. -/
theorem material_instruct (r : Rehearsal) (i : Instruction) :
    (r.instruct i).1.materialWith (r.instruct i).2.2 < r.material + sizeOf i := by
  cases i with
  | say key notice =>
    simp only [instruct, Instruction.say.sizeOf_spec]
    split
    · split
      · have := material_hear r ‹StandIn›.link notice
        dsimp only
        omega
      · simp only [materialWith_nil]; omega
    · simp only [materialWith_nil]; omega
  | commit | rollback | beginStage =>
    simp only [instruct, material_call]
    exact Nat.lt_add_of_pos_right (Instruction.sizeOf_pos _)
  | interrupt reason =>
    simp only [instruct, Instruction.interrupt.sizeOf_spec]
    split
    · simp only [materialWith_nil]; omega
    · split
      · simp only [materialWith_nil]; omega
      · split <;> simp only [materialWith, material_writeClient] <;> simp +arith [material]
  | ok id packet =>
    have := material_handle r (.ok id packet)
    simp [instruct]
    omega
  | error id code message =>
    have := material_handle r (.error id code message)
    simp [instruct]
    omega
  | connectError id fault =>
    have := material_handle r (.connectError id fault)
    simp [instruct]
    omega
  | closed key reason =>
    simp only [instruct, Instruction.closed.sizeOf_spec]
    split
    · have := material_handle r (.closed ‹StandIn›.link reason)
      dsimp only
      omega
    · simp only [materialWith_nil]; omega
  | refuseAll key text =>
    simp only [instruct, Instruction.refuseAll.sizeOf_spec]
    split
    · rename_i standIn _
      have := total_modify_le (g := fun s : StandIn => sizeOf s.reactions)
        (f := fun s : StandIn => { s with refusal := text }) (fun s => Nat.le_refl _)
        r.cast standIn.link.handle
      simp only [materialWith, material, update, total_nil]
      omega
    · simp only [materialWith_nil]; omega
  | react key reactions =>
    simp only [instruct, Instruction.react.sizeOf_spec]
    split
    · rename_i standIn _
      have := total_modify_le_add (g := fun s : StandIn => sizeOf s.reactions)
        (f := fun s : StandIn => { s with reactions := s.reactions ++ reactions })
        (fun s => sizeOf_append_reactions s.reactions reactions) r.cast standIn.link.handle
      simp only [materialWith, material, update, total_nil]
      omega
    · simp only [materialWith_nil]; omega
  | attach key id info =>
    have : 0 < sizeOf key := by
      cases key
      simp only [String.ofByteArray.sizeOf_spec]
      omega
    simp [instruct, attachAll, materialWith, material]
    omega
  | reattach key =>
    simp only [instruct, Instruction.reattach.sizeOf_spec]
    split <;> simp +arith [materialWith, material, onSession]
  | setHook scripts =>
    simp [instruct, materialWith, material]
    omega
  | nextStatement => simp [instruct, materialWith, Task.material]
  | writeClient data =>
    simp only [instruct, materialWith_nil, material_writeClient,
      Instruction.writeClient.sizeOf_spec]
    omega
  | _ => simp +arith [instruct, materialWith, material, onSession]

theorem falls_perform (r : Rehearsal) (task : Task) :
    Falls r task.material task.weight (r.perform task) := by
  cases task with
  | send link command => exact falls_send r link command Nat.one_pos
  | hear link notice => exact falls_hear r link notice Nat.one_pos
  | conclude verdict => exact falls_conclude r verdict
  | nextStatement => exact falls_runHook r
  | note observation =>
    exact (falls_nil (r.observe observation) Nat.one_pos).of_le (Nat.le_refl _) rfl
  | instruct i =>
    have := material_instruct r i
    refine .inl ?_
    simp only [materialWith] at this
    simpa [perform, materialWith, Task.material] using this

/-- Work off tasks, the first one and all that it leads to before the others. -/
def run (r : Rehearsal) : List Task → Rehearsal
  | [] => r
  | task :: rest =>
    let out := r.perform task
    run out.1 (out.2 ++ rest)
  termination_by tasks => r.remaining tasks
  decreasing_by exact (falls_perform r task).less rest

/-! ## Scripts -/

/-- Carry out an instruction with all that it leads to. The session goes with the last that holds
it. -/
def play (r : Rehearsal) (instruction : Instruction) : Rehearsal × Answer :=
  let (r, answer, tasks) := r.instruct instruction
  let r := r.run tasks
  ({ r with gone := !r.held }, answer)

/-- Take out what was observed since the last time, in order. -/
def takeObserved (r : Rehearsal) : List Observation × Rehearsal :=
  (r.observed.reverse, { r with observed := [] })

end Rehearsal

end AtomicCommit
