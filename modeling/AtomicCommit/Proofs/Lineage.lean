import AtomicCommit.Proofs.Urgency

/-!
# Where tasks come from

A journal is a workshop that keeps on record which deed led to which task. Threads may take their
time between a task and what it leads to, and do something else in between, so what a deed finds is
what others have made of it; but where its task comes from does not change.

* **the same** — `Rehearsal.Journal.workshop_after`: a journal does what a workshop does.
* **one move** — `Rehearsal.Journal.move_cases`.
* **all moves** — `Rehearsal.Journal.Kept.after`: every task was led to by an earlier deed, one
  urgent task by each at most, and every deed finds the coordinator that the one before it left.
* **unbroken moves** — `Rehearsal.Journal.Heeding.after`: an urgent task is carried out right after
  the one that left it.
-/

namespace AtomicCommit

namespace Rehearsal

/-- A task that waits, and the place of the deed that led to it. -/
structure Journal.Chore where
  task : Task
  source : Nat

/-- A deed, and the place of the one that led to its task. None did if it is a call from outside. -/
structure Journal.Entry where
  deed : Deed
  source : Option Nat

structure Journal where
  rehearsal : Rehearsal
  pool : List Journal.Chore := []
  entries : List Journal.Entry := []

namespace Journal

def new (id : UInt64) (issuer : String) : Journal where
  rehearsal := .new id issuer

/-- Carry out a task, and put what it leads to between the tasks around it. -/
def enter (t : Journal) (before : List Chore) (task : Task) (source : Option Nat)
    (left : List Task) (behind : List Chore) : Journal where
  rehearsal := (t.rehearsal.perform task).1
  pool := before ++ left.map (⟨·, t.entries.length⟩) ++ behind
  entries := t.entries ++ [⟨⟨t.rehearsal, task⟩, source⟩]

def move (t : Journal) : Move → Journal
  | .call i => t.enter [] (.instruct i) none (t.rehearsal.instruct i).2.2 t.pool
  | .perform place =>
    match t.pool[place]? with
    | some e => t.enter (t.pool.take place) e.task (some e.source) (t.rehearsal.perform e.task).2
      (t.pool.drop (place + 1))
    | none => t
  | .letGo gone => { t with rehearsal := { t.rehearsal with gone := gone } }

def after (t : Journal) (moves : List Move) : Journal :=
  moves.foldl move t

/-- The workshop, without the record of where tasks come from. -/
def workshop (t : Journal) : Workshop :=
  ⟨t.rehearsal, t.pool.map Chore.task, t.entries.map Entry.deed⟩

variable {t : Journal}

theorem tasks_label (tasks : List Task) (n : Nat) :
    (tasks.map fun task => (⟨task, n⟩ : Chore)).map Chore.task = tasks := by
  rw [List.map_map]
  exact List.map_id tasks

theorem workshop_enter (t : Journal) (before : List Chore) (task : Task) (source : Option Nat)
    (left : List Task) (behind : List Chore) :
    (t.enter before task source left behind).workshop = {
      rehearsal := (t.rehearsal.perform task).1
      pool := before.map Chore.task ++ left ++ behind.map Chore.task
      past := t.workshop.past ++ [⟨t.rehearsal, task⟩] } := by
  simp only [enter, workshop, List.map_append, tasks_label, List.map_cons, List.map_nil]

theorem workshop_move (t : Journal) (move : Move) :
    (t.move move).workshop = t.workshop.move move := by
  cases move with
  | call i => exact workshop_enter ..
  | letGo gone => rfl
  | perform place =>
    cases taken : t.pool[place]? with
    | none => simp [Journal.move, workshop, Workshop.move, taken]
    | some e =>
      have waits : t.workshop.pool[place]? = some e.task := by simp [workshop, taken]
      simp only [Journal.move, taken, Workshop.move, waits, workshop_enter, Workshop.perform]
      simp [workshop]

/-- **The same.** What a workshop does, its journal does too. -/
theorem workshop_after (t : Journal) (moves : List Move) :
    (t.after moves).workshop = t.workshop.after moves := by
  induction moves generalizing t with
  | nil => rfl
  | cons move rest ih =>
    show ((t.move move).after rest).workshop = (t.workshop.move move).after rest
    rw [ih, workshop_move]

/-! ## One move -/

/-- A move that carries out a task. -/
structure Enters (t z : Journal) (before taken behind : List Chore) (task : Task)
    (source : Option Nat) (left : List Task) : Prop where
  around : t.pool = before ++ taken ++ behind
  entered : z = t.enter before task source left behind
  led : left.Sublist (Deed.left ⟨t.rehearsal, task⟩)
  /-- It is a call from outside, or the task has waited. -/
  origin : source = none ∧ taken = [] ∧ task.urgent = false ∨
    ∃ j, source = some j ∧ taken = [⟨task, j⟩]

theorem enters_call (t : Journal) (i : Instruction) : t.Enters (t.move (.call i)) [] [] t.pool
    (.instruct i) none (t.rehearsal.instruct i).2.2 where
  around := rfl
  entered := rfl
  led := List.sublist_append_left _ _
  origin := .inl ⟨rfl, rfl, rfl⟩

theorem enters_perform {place : Nat} {e : Chore} (found : t.pool[place]? = some e) :
    t.Enters (t.move (.perform place)) (t.pool.take place) [e] (t.pool.drop (place + 1)) e.task
      (some e.source) (t.rehearsal.perform e.task).2 where
  around := by
    obtain ⟨bound, here⟩ := List.getElem?_eq_some_iff.mp found
    rw [List.append_assoc, List.singleton_append, ← here, ← List.drop_eq_getElem_cons,
      List.take_append_drop]
  entered := by simp only [Journal.move, found]
  led := List.Sublist.refl _
  origin := .inr ⟨e.source, rfl, rfl⟩

theorem move_perform_of_none {place : Nat} (nothing : t.pool[place]? = none) :
    t.move (.perform place) = t := by
  simp only [Journal.move, nothing]

/-- **One move.** It carries out a task, or leaves the coordinator to itself. -/
theorem move_cases (t : Journal) (move : Move) :
    (∃ before taken behind task source left,
        t.Enters (t.move move) before taken behind task source left) ∨
      (t.move move).entries = t.entries ∧ (t.move move).pool = t.pool ∧
        (t.move move).rehearsal.coordinator = t.rehearsal.coordinator := by
  cases move with
  | call i => exact .inl ⟨_, _, _, _, _, _, t.enters_call i⟩
  | letGo gone => exact .inr ⟨rfl, rfl, rfl⟩
  | perform place =>
    cases found : t.pool[place]? with
    | none =>
      rw [move_perform_of_none found]
      exact .inr ⟨rfl, rfl, rfl⟩
    | some e => exact .inl ⟨_, _, _, _, _, _, enters_perform found⟩

/-! ## All moves -/

/-- The coordinator that a deed finds, or that the last one left. -/
def coordinatorAt (t : Journal) (k : Nat) : Coordinator :=
  (t.entries[k]?).elim t.rehearsal.coordinator (·.deed.found.coordinator)

/-- How many urgent tasks, done or waiting, a deed led to. -/
def urgentFrom (t : Journal) (j : Nat) : Nat :=
  t.entries.countP (fun e => e.deed.task.urgent && e.source == some j) +
    t.pool.countP (fun e => e.task.urgent && e.source == j)

/-- What a journal keeps. -/
structure Kept (t : Journal) : Prop where
  carries : ∀ (k : Nat) (e : Entry), t.entries[k]? = some e →
    t.coordinatorAt (k + 1) = e.deed.after.coordinator
  sources : ∀ (k : Nat) (e : Entry), t.entries[k]? = some e →
    (e.source = none ∧ e.deed.task.urgent = false) ∨
      ∃ j p, e.source = some j ∧ j < k ∧ t.entries[j]? = some p ∧ e.deed.task ∈ p.deed.left
  waiting : ∀ e ∈ t.pool, ∃ p, t.entries[e.source]? = some p ∧ e.task ∈ p.deed.left
  once : ∀ j, t.urgentFrom j ≤ 1

theorem coordinatorAt_of_entry {k : Nat} {e : Entry} (found : t.entries[k]? = some e) :
    t.coordinatorAt k = e.deed.found.coordinator := by
  unfold coordinatorAt
  rw [found]
  rfl

theorem coordinatorAt_end (t : Journal) :
    t.coordinatorAt t.entries.length = t.rehearsal.coordinator := by
  unfold coordinatorAt
  rw [List.getElem?_eq_none (Nat.le_refl _)]
  rfl

/-- An entry stays where it is, and a new one is the last. -/
theorem entry_cases {e : Entry} {k : Nat} {new : Entry}
    (found : (t.entries ++ [new])[k]? = some e) :
    t.entries[k]? = some e ∨ k = t.entries.length ∧ e = new := by
  rw [List.getElem?_append] at found
  split at found
  · exact .inl found
  · rename_i last
    obtain ⟨here, same⟩ := List.getElem?_eq_some_iff.mp found
    simp only [List.length_singleton] at here
    have only : k - t.entries.length = 0 := by omega
    simp only [only, List.getElem_cons_zero] at same
    exact .inr ⟨by omega, same.symm⟩

theorem entry_stays {e new : Entry} {k : Nat} (found : t.entries[k]? = some e) :
    (t.entries ++ [new])[k]? = some e :=
  (List.getElem?_append_left (List.getElem?_eq_some_iff.mp found).1).trans found

section Enter

variable {z : Journal} {before taken behind : List Chore} {task : Task} {source : Option Nat}
  {left : List Task}

namespace Enters

variable (enters : t.Enters z before taken behind task source left)

include enters

theorem entries_eq : z.entries = t.entries ++ [⟨⟨t.rehearsal, task⟩, source⟩] := by
  rw [enters.entered]
  rfl

theorem pool_eq : z.pool = before ++ left.map (⟨·, t.entries.length⟩) ++ behind := by
  rw [enters.entered]
  rfl

/-- A task that a deed has led to was waiting. -/
theorem mem_pool {j : Nat} (led : source = some j) : (⟨task, j⟩ : Chore) ∈ t.pool := by
  rcases enters.origin with ⟨outside, -⟩ | ⟨i, same, waited⟩
  · exact absurd (outside.symm.trans led) (by simp)
  · obtain rfl : i = j := Option.some.inj (same.symm.trans led)
    rw [enters.around, waited]
    simp

end Enters

theorem Kept.lt_of_source (kept : t.Kept) {e : Chore} (waits : e ∈ t.pool) :
    e.source < t.entries.length := by
  obtain ⟨p, found, -⟩ := kept.waiting e waits
  exact (List.getElem?_eq_some_iff.mp found).1

/-- The deed to come has led to nothing yet. -/
theorem Kept.urgentFrom_end (kept : t.Kept) : t.urgentFrom t.entries.length = 0 := by
  have none : t.entries.countP
      (fun e => e.deed.task.urgent && e.source == some t.entries.length) = 0 := by
    apply List.countP_eq_zero.mpr
    intro e here led
    obtain ⟨k, found⟩ := List.mem_iff_getElem?.mp here
    have inside := (List.getElem?_eq_some_iff.mp found).1
    rcases kept.sources k e found with ⟨outside, -⟩ | ⟨j, p, source, earlier, -⟩
    · simp [outside] at led
    · simp only [source, Bool.and_eq_true, beq_iff_eq, Option.some.injEq] at led
      omega
  have idle : t.pool.countP (fun e => e.task.urgent && e.source == t.entries.length) = 0 := by
    apply List.countP_eq_zero.mpr
    intro e waits led
    have earlier := kept.lt_of_source waits
    simp only [Bool.and_eq_true, beq_iff_eq] at led
    omega
  rw [urgentFrom, none, idle]

/-- A deed leads to one urgent task at most. -/
theorem Enters.urgent_led (enters : t.Enters z before taken behind task source left) (j : Nat) :
    (left.map (⟨·, t.entries.length⟩ : Task → Chore)).countP
      (fun e => e.task.urgent && e.source == j) ≤ if j = t.entries.length then 1 else 0 := by
  rw [List.countP_map]
  split
  · rename_i here
    subst here
    have urgent : ((fun e : Chore => e.task.urgent && e.source == t.entries.length) ∘
        fun task => ⟨task, t.entries.length⟩) = Task.urgent := by
      funext task
      simp
    rw [urgent]
    exact Nat.le_trans enters.led.countP_le (Deed.countP_urgent_left _)
  · rename_i other
    apply Nat.le_of_eq
    apply List.countP_eq_zero.mpr
    intro task led
    simp [Ne.symm other]

/-- A task that is done waits no more. -/
theorem Kept.once_enter (kept : t.Kept)
    (enters : t.Enters z before taken behind task source left) (j : Nat) :
    z.urgentFrom j ≤ 1 := by
  have old := kept.once j
  have fresh := kept.urgentFrom_end
  have led := enters.urgent_led j
  have done : [(⟨⟨t.rehearsal, task⟩, source⟩ : Entry)].countP
      (fun e => e.deed.task.urgent && e.source == some j) =
        taken.countP (fun e => e.task.urgent && e.source == j) := by
    rcases enters.origin with ⟨rfl, rfl, calm⟩ | ⟨i, rfl, rfl⟩
    · simp [calm]
    · simp [List.countP_singleton]
  rw [enters.entered]
  unfold urgentFrom at old fresh ⊢
  rw [enters.around] at old fresh
  simp only [enter, List.countP_append] at old fresh ⊢
  rw [done]
  split at led
  · rename_i here
    subst here
    omega
  · omega

/-- What earlier deeds found stays as it is, and the new one finds what the last has left. -/
theorem Enters.coordinatorAt_le (enters : t.Enters z before taken behind task source left) {k : Nat}
    (early : k ≤ t.entries.length) : z.coordinatorAt k = t.coordinatorAt k := by
  rw [enters.entered]
  rcases Nat.lt_or_eq_of_le early with inside | rfl
  · unfold coordinatorAt
    show ((t.entries ++ [_])[k]?).elim _ _ = _
    rw [List.getElem?_append_left inside, List.getElem?_eq_getElem inside]
    rfl
  · rw [coordinatorAt_end]
    exact coordinatorAt_of_entry (e := ⟨⟨t.rehearsal, task⟩, source⟩) List.getElem?_concat_length

theorem Kept.enter (kept : t.Kept) (enters : t.Enters z before taken behind task source left) :
    z.Kept := by
  have entries := enters.entries_eq
  refine ⟨?_, ?_, ?_, kept.once_enter enters⟩
  · intro k e found
    rw [entries] at found
    rcases entry_cases found with earlier | ⟨rfl, rfl⟩
    · rw [enters.coordinatorAt_le (List.getElem?_eq_some_iff.mp earlier).1]
      exact kept.carries k e earlier
    · have last : t.entries.length + 1 = z.entries.length := by
        rw [entries, List.length_append, List.length_singleton]
      rw [last, coordinatorAt_end, enters.entered]
      rfl
  · intro k e found
    rw [entries] at found ⊢
    rcases entry_cases found with earlier | ⟨rfl, rfl⟩
    · rcases kept.sources k e earlier with outside | ⟨j, p, led, before, there, leads⟩
      · exact .inl outside
      · exact .inr ⟨j, p, led, before, entry_stays there, leads⟩
    · rcases enters.origin with ⟨outside, -, calm⟩ | ⟨j, led, -⟩
      · exact .inl ⟨outside, calm⟩
      · have waits := enters.mem_pool led
        obtain ⟨p, there, leads⟩ := kept.waiting _ waits
        exact .inr ⟨j, p, led, kept.lt_of_source waits, entry_stays there, leads⟩
  · -- what waits was waiting before, or was left by the deed entered last
    intro e waits
    rw [enters.pool_eq] at waits
    rw [entries]
    have old (here : e ∈ t.pool) : ∃ p, (t.entries ++ [⟨⟨t.rehearsal, task⟩, source⟩])[e.source]? =
        some p ∧ e.task ∈ p.deed.left := by
      obtain ⟨p, there, leads⟩ := kept.waiting e here
      exact ⟨p, entry_stays there, leads⟩
    rcases List.mem_append.mp waits with waits | waits
    · rcases List.mem_append.mp waits with waits | waits
      · exact old (enters.around ▸ by simp [waits])
      · obtain ⟨other, led, rfl⟩ := List.mem_map.mp waits
        exact ⟨_, List.getElem?_concat_length, enters.led.subset led⟩
    · exact old (enters.around ▸ by simp [waits])

end Enter

theorem Kept.move (kept : t.Kept) (move : Move) : (t.move move).Kept := by
  rcases t.move_cases move with ⟨_, _, _, _, _, _, enters⟩ | ⟨entries, pool, coordinator⟩
  · exact kept.enter enters
  · have same : ∀ k, (t.move move).coordinatorAt k = t.coordinatorAt k := by
      intro k
      unfold coordinatorAt
      rw [entries, coordinator]
    refine ⟨?_, ?_, ?_, ?_⟩
    · rw [entries]
      intro k e found
      rw [same]
      exact kept.carries k e found
    · rw [entries]
      exact kept.sources
    · rw [entries, pool]
      exact kept.waiting
    · intro j
      unfold urgentFrom
      rw [entries, pool]
      exact kept.once j

/-- **All moves.** -/
theorem Kept.after (kept : t.Kept) (moves : List Move) : (t.after moves).Kept := by
  induction moves generalizing t with
  | nil => exact kept
  | cons move rest ih => exact ih (kept.move move)

theorem kept_new (id : UInt64) (issuer : String) : (new id issuer).Kept where
  carries k e found := absurd found (by simp [new])
  sources k e found := absurd found (by simp [new])
  waiting e waits := absurd waits List.not_mem_nil
  once _ := Nat.zero_le 1

/-- What holds of a coordinator at one deed holds at a later one, if every deed between them keeps
it. -/
theorem Kept.stays (kept : t.Kept) {P : Coordinator → Prop} {i b : Nat}
    (start : P (t.coordinatorAt i)) (ordered : i ≤ b) (inside : b ≤ t.entries.length)
    (keeps : ∀ k e, i ≤ k → k < b → t.entries[k]? = some e → P e.deed.found.coordinator →
      P e.deed.after.coordinator) : P (t.coordinatorAt b) := by
  induction b with
  | zero =>
    obtain rfl := Nat.le_zero.mp ordered
    exact start
  | succ b ih =>
    rcases Nat.lt_or_eq_of_le ordered with later | rfl
    · have from_i : i ≤ b := Nat.le_of_lt_succ later
      have here : t.entries[b]? = some t.entries[b] := List.getElem?_eq_getElem inside
      have before : P (t.coordinatorAt b) := ih from_i (Nat.le_of_succ_le inside)
        fun k e early late => keeps k e early (Nat.lt_succ_of_lt late)
      rw [coordinatorAt_of_entry here] at before
      rw [kept.carries b _ here]
      exact keeps b _ from_i (Nat.lt_succ_self b) here before
    · exact start

/-! ## One urgent task -/

/-- What unbroken moves keep: an urgent task is carried out right after the deed that led to it. -/
structure Heeding (t : Journal) : Prop where
  done : ∀ (k : Nat) (e : Entry) (j : Nat), t.entries[k]? = some e → e.deed.task.urgent = true →
    e.source = some j → k = j + 1
  waiting : ∀ e ∈ t.pool, e.task.urgent = true → e.source + 1 = t.entries.length
  alone : t.pool.countP (·.task.urgent) ≤ 1

/-- A deed keeps this up if the tasks around its own are not urgent. -/
theorem Heeding.enter {z : Journal} {before taken behind : List Chore} {task : Task}
    {source : Option Nat} {left : List Task} (heeding : t.Heeding)
    (enters : t.Enters z before taken behind task source left)
    (calm : ∀ e ∈ before ++ behind, e.task.urgent = false) : z.Heeding := by
  have pool := enters.pool_eq
  refine ⟨?_, ?_, ?_⟩
  · intro k e j found urgent led
    rw [enters.entries_eq] at found
    rcases entry_cases found with earlier | ⟨rfl, rfl⟩
    · exact heeding.done k e j earlier urgent led
    · exact (heeding.waiting _ (enters.mem_pool led) urgent).symm
  · -- only what was left just now is urgent
    intro e waits urgent
    have calmly (here : e ∈ before ++ behind) : e.source + 1 = z.entries.length := by
      rw [calm e here] at urgent
      exact absurd urgent Bool.false_ne_true
    rw [pool] at waits
    rcases List.mem_append.mp waits with waits | waits
    · rcases List.mem_append.mp waits with waits | waits
      · exact calmly (List.mem_append_left _ waits)
      · obtain ⟨other, -, rfl⟩ := List.mem_map.mp waits
        rw [enters.entries_eq, List.length_append]
        rfl
    · exact calmly (List.mem_append_right _ waits)
  · have around : (before ++ behind).countP (·.task.urgent) = 0 :=
      List.countP_eq_zero.mpr fun e here => by simp [calm e here]
    have led := Nat.le_trans enters.led.countP_le (Deed.countP_urgent_left ⟨t.rehearsal, task⟩)
    have new : (left.map (⟨·, t.entries.length⟩ : Task → Chore)).countP (·.task.urgent) =
        left.countP Task.urgent := by
      rw [List.countP_map]
      rfl
    rw [pool, List.countP_append, List.countP_append, new]
    rw [List.countP_append] at around
    omega

theorem Heeding.move (heeding : t.Heeding) {move : Move}
    (heeds : t.workshop.urgent? = none ∨ move.place? = t.workshop.urgent?) :
    (t.move move).Heeding := by
  have calm (nothing : t.workshop.urgent? = none) : ∀ e ∈ t.pool, e.task.urgent = false :=
    fun e waits => Workshop.calm_of_urgent? nothing e.task (List.mem_map_of_mem waits)
  cases move with
  | call i =>
    exact heeding.enter (t.enters_call i) (calm (heeds.elim id fun same => same.symm))
  | letGo gone =>
    exact ⟨heeding.done, heeding.waiting, heeding.alone⟩
  | perform place =>
    cases found : t.pool[place]? with
    | none =>
      rw [move_perform_of_none found]
      exact heeding
    | some e =>
      have enters := enters_perform found
      refine heeding.enter enters ?_
      rcases heeds with nothing | same
      · -- none is urgent
        intro other here
        refine calm nothing other ?_
        rw [enters.around]
        rcases List.mem_append.mp here with here | here <;> simp [here]
      · -- it is the urgent one
        obtain ⟨bound, urgent, -⟩ := List.findIdx?_eq_some_iff_getElem.mp same.symm
        have alone := heeding.alone
        have here : t.workshop.pool[place]? = some e.task := by simp [workshop, found]
        rw [List.getElem?_eq_getElem bound] at here
        rw [Option.some.inj here] at urgent
        rw [enters.around, List.countP_append, List.countP_append, List.countP_singleton,
          if_pos urgent] at alone
        have none : (t.pool.take place ++ t.pool.drop (place + 1)).countP (·.task.urgent) = 0 := by
          rw [List.countP_append]
          omega
        intro other there
        simpa using List.countP_eq_zero.mp none other there

/-- **Unbroken moves.** -/
theorem Heeding.after (heeding : t.Heeding) {moves : List Move}
    (unbroken : t.workshop.unbroken moves = true) : (t.after moves).Heeding := by
  induction moves generalizing t with
  | nil => exact heeding
  | cons move rest ih =>
    obtain ⟨heeds, later⟩ := Bool.and_eq_true_iff.mp unbroken
    refine ih (heeding.move ?_) ?_
    · simpa using heeds
    · rw [workshop_move]
      exact later

end Journal

end Rehearsal

end AtomicCommit
