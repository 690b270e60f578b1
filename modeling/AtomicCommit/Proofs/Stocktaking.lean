import AtomicCommit.Proofs.ByteQueue
import Mathlib.Algebra.Group.Int.Defs
import Mathlib.Algebra.GroupWithZero.Nat

/-!
# What pools keep, and what they count

A pool may be handed any buffer: a chunk of its own, a chunk of another pool, or one that was made
for a single large request. What it keeps is nevertheless only chunks that it could have made, and
never more than it has room for. It counts what it hands out against what it takes back, and a
buffer that replaces a smaller one counts for that one.

* **equations** — `Pool.fst_allocate`, `Pool.idle_allocate` and `Pool.idle_recycle`: which buffer is
  handed out, and what lies idle afterwards.
* **one use** — `Pool.Turn`: what may become of a pool in one step. `Pool.Turn.tidy` and
  `Pool.Turn.counts` say what it leaves as it is; `Storeroom.turn` finds the turn in a step.
* **any uses** — `Storeroom.accounted`, and `pools_stay_tidy` from it.
-/

namespace AtomicCommit

namespace Pool

variable {p p' : Pool} {capacity chunkSize out back : Nat}

/-! ## Handing out and taking back -/

/-- A small request gets the idle chunk that waits longest, or a new one. -/
theorem fst_allocate (p : Pool) (size : Nat) :
    (p.allocate size).1 =
      if size ≤ p.chunkSize then p.idle.toList.head?.getD (.zeroed p.chunkSize true)
      else .zeroed size false := by
  unfold allocate
  dsimp only
  split
  · split
    · rename_i popped
      rw [Queue.toList_pop popped]
      rfl
    · rename_i none
      rw [(Queue.pop?_eq_none_iff _).mp none]
      rfl
  · rfl

theorem idle_allocate (p : Pool) (size : Nat) :
    (p.allocate size).2.idle.toList =
      if size ≤ p.chunkSize then p.idle.toList.tail else p.idle.toList := by
  unfold allocate
  dsimp only
  split
  · split
    · rename_i popped
      rw [Queue.toList_pop popped]
      rfl
    · rename_i none
      rw [(Queue.pop?_eq_none_iff _).mp none]
      rfl
  · rfl

/-- Only a marked chunk of the right size is kept, and only while there is room. -/
theorem idle_recycle (p : Pool) (b : Buffer) :
    (p.recycle b).idle.toList =
      if b.pooled = true ∧ b.capacity = p.chunkSize ∧ p.idle.toList.length < p.capacity then
        p.idle.toList ++ [b.clear]
      else p.idle.toList := by
  unfold recycle
  simp only [Bool.and_eq_true, beq_iff_eq, decide_eq_true_eq, Queue.length_toList, and_assoc]
  split
  · exact Queue.toList_push _ _
  · rfl

theorem capacity_snd_allocate (p : Pool) (size : Nat) :
    (p.allocate size).2.capacity = p.capacity := by
  unfold allocate
  dsimp only
  split
  · split <;> rfl
  · rfl

theorem capacity_after_recycle (p : Pool) (b : Buffer) : (p.recycle b).capacity = p.capacity := by
  unfold recycle
  dsimp only
  split <;> rfl

/-! ## Tidy pools -/

/-- A pool that was made for this capacity and chunk size, with nothing in it but chunks that it
could have made itself, and not too many of them. -/
structure Tidy (p : Pool) (capacity chunkSize : Nat) : Prop where
  sized : p.chunkSize = chunkSize
  bounded : p.capacity = max capacity 1
  stocked : p.Stocked
  marked : ∀ b ∈ p.idle.toList, b.pooled = true
  few : p.idle.toList.length ≤ p.capacity

theorem tidy_new (capacity chunkSize : Nat) : (new capacity chunkSize).Tidy capacity chunkSize where
  sized := rfl
  bounded := rfl
  stocked := stocked_new capacity chunkSize
  marked := by simp [new]
  few := Nat.zero_le _

theorem Tidy.allocate (tidy : p.Tidy capacity chunkSize) (size : Nat) :
    (p.allocate size).2.Tidy capacity chunkSize where
  sized := (chunkSize_allocate p size).trans tidy.sized
  bounded := (capacity_snd_allocate p size).trans tidy.bounded
  stocked := (tidy.stocked.allocate size).2.2
  marked := by
    rw [idle_allocate]
    split
    · exact fun b kept => tidy.marked b (List.mem_of_mem_tail kept)
    · exact tidy.marked
  few := by
    have := tidy.few
    rw [idle_allocate, capacity_snd_allocate]
    split
    · rw [List.length_tail]
      omega
    · exact this

theorem Tidy.recycle (tidy : p.Tidy capacity chunkSize) (b : Buffer) :
    (p.recycle b).Tidy capacity chunkSize where
  sized := (chunkSize_recycle p b).trans tidy.sized
  bounded := (capacity_after_recycle p b).trans tidy.bounded
  stocked := tidy.stocked.recycle b
  marked := by
    rw [idle_recycle]
    split
    · rename_i kept
      exact List.forall_mem_append.mpr ⟨tidy.marked, List.forall_mem_singleton.mpr kept.1⟩
    · exact tidy.marked
  few := by
    have := tidy.few
    rw [idle_recycle, capacity_after_recycle]
    split
    · rename_i kept
      rw [List.length_append, List.length_singleton]
      exact kept.2.2
    · exact this

theorem Tidy.ensureCapacity (tidy : p.Tidy capacity chunkSize) (b : Buffer) (needed : Nat) :
    (p.ensureCapacity b needed).2.2.Tidy capacity chunkSize := by
  unfold Pool.ensureCapacity
  split
  · exact (tidy.allocate needed).recycle b
  · exact tidy

/-- What a tidy pool hands out: an empty buffer, large enough, and marked as a chunk if a chunk is
large enough. -/
theorem Tidy.handed_out (tidy : p.Tidy capacity chunkSize) (size : Nat) :
    (p.allocate size).1.Blank ∧ size ≤ (p.allocate size).1.capacity ∧
      ((p.allocate size).1.pooled = true ↔ size ≤ chunkSize) := by
  obtain ⟨blank, large, -⟩ := tidy.stocked.allocate size
  refine ⟨blank, large ▸ Nat.le_max_left .., ?_⟩
  rw [fst_allocate, tidy.sized]
  by_cases small : size ≤ chunkSize
  · rw [if_pos small]
    cases idle : p.idle.toList with
    | nil => simp [small, Buffer.zeroed]
    | cons chunk rest =>
      have marked : chunk.pooled = true := tidy.marked chunk (idle ▸ List.mem_cons_self)
      simp [small, marked]
  · simp [small, Buffer.zeroed]

/-! ## One use -/

/-- What one use may make of a pool, with how many buffers it hands out and how many it takes
back. -/
inductive Turn (p : Pool) : (out back : Nat) → Pool → Prop where
  | rest : Turn p 0 0 p
  | allocate (size : Nat) : Turn p 1 0 (p.allocate size).2
  | recycle (b : Buffer) : Turn p 0 1 (p.recycle b)
  | ensure (b : Buffer) (needed : Nat) : Turn p 0 0 (p.ensureCapacity b needed).2.2

theorem Turn.tidy (turn : p.Turn out back p') (tidy : p.Tidy capacity chunkSize) :
    p'.Tidy capacity chunkSize := by
  cases turn with
  | rest => exact tidy
  | allocate size => exact tidy.allocate size
  | recycle b => exact tidy.recycle b
  | ensure b needed => exact tidy.ensureCapacity b needed

theorem Turn.counts (turn : p.Turn out back p') :
    p'.outstanding + UInt64.ofNat back = p.outstanding + UInt64.ofNat out := by
  cases turn with
  | rest => rfl
  | allocate size =>
    rw [outstanding_allocate]
    exact UInt64.add_zero _
  | recycle b =>
    rw [outstanding_recycle_add]
    exact (UInt64.add_zero _).symm
  | ensure b needed => rw [outstanding_ensureCapacity]

end Pool

/-! ## Storerooms -/

namespace Storeroom

variable {s : Storeroom} {i : Nat} {p : Pool}

/-- How many buffers a step has the pool at this place hand out. -/
def handsOut (i : Nat) : Step → Nat
  | .allocate pool _ | .allocateChunk pool => if pool = i then 1 else 0
  | _ => 0

/-- How many buffers a step gives back to the pool at this place. There has to be one to give. -/
def takesBack (s : Storeroom) (i : Nat) : Step → Nat
  | .recycle pool place => if pool = i ∧ place < s.inUse.length then 1 else 0
  | _ => 0

def handedOut (i : Nat) (steps : List Step) : Nat :=
  (steps.map (handsOut i)).sum

def takenBack (s : Storeroom) (i : Nat) : List Step → Nat
  | [] => 0
  | step :: rest => s.takesBack i step + (s.step step).takenBack i rest

/-- A pool at a place where another may have been put. -/
theorem turn_set {out back j : Nat} {q q' : Pool} (here : s.pools[i]? = some p)
    (there : s.pools[j]? = some q) (turn : j = i → q.Turn out back q')
    (other : j ≠ i → out = 0 ∧ back = 0) :
    ∃ p', (s.pools.set j q')[i]? = some p' ∧ p.Turn out back p' := by
  by_cases same : j = i
  · subst same
    obtain rfl : p = q := Option.some.inj (here.symm.trans there)
    refine ⟨q', ?_, turn rfl⟩
    exact List.getElem?_set_self (List.getElem?_eq_some_iff.mp here).1
  · obtain ⟨rfl, rfl⟩ := other same
    refine ⟨p, ?_, .rest⟩
    rw [List.getElem?_set_ne same]
    exact here

/-- Some pool is asked for a buffer, of a size that may depend on it. -/
theorem turn_handOut (here : s.pools[i]? = some p) (j : Nat) (size : Pool → Nat) :
    ∃ p', (match s.pools[j]? with
        | some q => s.handOut j (q.allocate (size q))
        | none => s).pools[i]? = some p' ∧ p.Turn (if j = i then 1 else 0) 0 p' := by
  split
  · rename_i q there
    refine turn_set here there (fun same => ?_) (fun different => ⟨if_neg different, rfl⟩)
    rw [if_pos same]
    exact .allocate (size q)
  · rename_i missing
    have different : j ≠ i := by
      rintro rfl
      rw [here] at missing
      simp at missing
    rw [if_neg different]
    exact ⟨p, here, .rest⟩

/-- **One step.** Whatever is done, a pool rests, hands out a buffer, takes one back or has one
replaced. -/
theorem turn (here : s.pools[i]? = some p) (step : Step) :
    ∃ p', (s.step step).pools[i]? = some p' ∧ p.Turn (handsOut i step) (s.takesBack i step) p' := by
  cases step with
  | allocate pool size => exact turn_handOut here pool fun _ => size
  | allocateChunk pool => exact turn_handOut here pool Pool.chunkSize
  | recycle pool place =>
    simp only [Storeroom.step, handsOut, takesBack]
    split
    · rename_i q held there found
      have inUse : place < s.inUse.length := (List.getElem?_eq_some_iff.mp found).1
      refine turn_set here there (fun same => ?_) (fun different => ⟨rfl, ?_⟩)
      · rw [if_pos ⟨same, inUse⟩]
        exact .recycle held.buffer
      · exact if_neg fun both => different both.1
    · rename_i missing
      -- Either the pool or the place does not exist: this pool gets nothing back.
      have nothing : ¬ (pool = i ∧ place < s.inUse.length) := by
        rintro ⟨rfl, inUse⟩
        exact missing p _ here (List.getElem?_eq_getElem inUse)
      rw [if_neg nothing]
      exact ⟨p, here, .rest⟩
  | use place u =>
    simp only [Storeroom.step]
    split
    · exact ⟨p, here, .rest⟩
    · exact ⟨p, here, .rest⟩
  | ensure pool place needed =>
    simp only [Storeroom.step]
    split
    · rename_i q held there found
      exact turn_set here there (fun _ => .ensure held.buffer needed) (fun _ => ⟨rfl, rfl⟩)
    · exact ⟨p, here, .rest⟩

/-- **Any steps.** A pool stays tidy, and its count goes along with what it hands out and takes
back. -/
theorem accounted {capacity chunkSize : Nat} (here : s.pools[i]? = some p)
    (tidy : p.Tidy capacity chunkSize) (steps : List Step) :
    ∃ p', (s.after steps).pools[i]? = some p' ∧ p'.Tidy capacity chunkSize ∧
      p'.outstanding + UInt64.ofNat (s.takenBack i steps) =
        p.outstanding + UInt64.ofNat (handedOut i steps) := by
  -- from any pool on, since the count need not be that of a new one
  induction steps generalizing s p with
  | nil => exact ⟨p, here, tidy, rfl⟩
  | cons step rest ih =>
    obtain ⟨next, there, turn⟩ := turn here step
    obtain ⟨p', found, still, later⟩ := ih there (turn.tidy tidy)
    refine ⟨p', found, still, ?_⟩
    have now := turn.counts
    rw [takenBack, handedOut, List.map_cons, List.sum_cons, UInt64.ofNat_add, UInt64.ofNat_add]
    rw [handedOut] at later
    -- what this step and the later ones count adds up, as words do, in any order
    grind

end Storeroom

/-- A word that makes up for what was taken back is what was handed out more, as a word. -/
theorem toNat_eq_emod {word : UInt64} {out back : Nat}
    (balance : word + UInt64.ofNat back = UInt64.ofNat out) :
    (word.toNat : Int) = ((out : Int) - back) % 2 ^ 64 := by
  have numbers := congrArg UInt64.toNat balance
  rw [UInt64.toNat_add, UInt64.toNat_ofNat', UInt64.toNat_ofNat'] at numbers
  have := word.toNat_lt
  omega

/-- **Pools.** Take any number of pools, of whatever capacities and chunk sizes, and do with them
and with the buffers that they hand out whatever can be done, giving buffers back to any of them.
Each pool keeps only chunks that are marked as such, of just its size and with nothing to read, and
not more of them than its capacity, or than one. Whatever size is asked for, it hands out an empty
buffer of at least that size, which is marked as a chunk if a chunk is large enough, and only then.
What it counts as handed out is what it handed out less what it took back, as a machine word, and
making a buffer hold more does not change the count. -/
theorem pools_stay_tidy (sizes : List (Nat × Nat)) (steps : List Storeroom.Step)
    {i capacity chunkSize : Nat} (made : sizes[i]? = some (capacity, chunkSize)) :
    ∃ p, ((Storeroom.new sizes).after steps).pools[i]? = some p ∧ p.chunkSize = chunkSize ∧
      (∀ b ∈ p.idle.toList, b.pooled = true ∧ b.capacity = chunkSize ∧ b.readable = []) ∧
      p.idle.toList.length ≤ max capacity 1 ∧
      (∀ n, (p.allocate n).1.readable = [] ∧ (p.allocate n).1.isEmpty = true ∧
        n ≤ (p.allocate n).1.capacity ∧ ((p.allocate n).1.pooled = true ↔ n ≤ chunkSize)) ∧
      (p.outstanding.toNat : Int) =
        ((Storeroom.handedOut i steps : Int) - (Storeroom.new sizes).takenBack i steps) % 2 ^ 64 ∧
      ∀ b needed, (p.ensureCapacity b needed).2.2.outstanding = p.outstanding := by
  have here : (Storeroom.new sizes).pools[i]? = some (Pool.new capacity chunkSize) := by
    rw [Storeroom.new, List.getElem?_map, made]
    rfl
  obtain ⟨p, found, tidy, counted⟩ :=
    Storeroom.accounted here (Pool.tidy_new capacity chunkSize) steps
  have fresh : (Pool.new capacity chunkSize).outstanding = 0 := rfl
  rw [fresh, UInt64.zero_add] at counted
  refine ⟨p, found, tidy.sized, ?_, tidy.bounded ▸ tidy.few, ?_, toNat_eq_emod counted,
    p.outstanding_ensureCapacity⟩
  · intro b kept
    obtain ⟨blank, sized⟩ := tidy.stocked b kept
    exact ⟨tidy.marked b kept, sized.trans tidy.sized, blank.readable_eq⟩
  · intro n
    obtain ⟨blank, large, marked⟩ := tidy.handed_out n
    refine ⟨blank.readable_eq, ?_, large, marked⟩
    rw [Buffer.isEmpty, blank.start, blank.stop]
    rfl

namespace Sample

/-- A large chunk is given to a pool of small ones, and the small chunk after it. -/
def astray : List Storeroom.Step :=
  [.allocateChunk 0, .allocateChunk 1, .recycle 0 1, .recycle 0 0]

end Sample

/-- The case of a pool that keeps one chunk at most, has handed out one, and takes back two. -/
theorem pool_takes_back_too_many :
    [(0, 4), (1, 8)][0]? = some (0, 4) ∧
      ∃ p, ((Storeroom.new [(0, 4), (1, 8)]).after Sample.astray).pools[0]? = some p ∧
        (∀ b ∈ p.idle.toList, b.capacity = 4) ∧ p.idle.toList.length ≤ 1 ∧
        p.outstanding.toNat = 2 ^ 64 - 1 := by
  have made : [(0, 4), (1, 8)][0]? = some (0, 4) := rfl
  obtain ⟨p, found, -, kept, few, -, counted, -⟩ := pools_stay_tidy _ Sample.astray made
  have out : Storeroom.handedOut 0 Sample.astray = 1 := rfl
  have back : (Storeroom.new [(0, 4), (1, 8)]).takenBack 0 Sample.astray = 2 := by decide
  rw [out, back] at counted
  exact ⟨made, p, found, fun b here => (kept b here).2.1, few, by omega⟩

end AtomicCommit
