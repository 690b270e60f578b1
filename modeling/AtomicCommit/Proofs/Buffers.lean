import AtomicCommit.Buffer.Pool

/-!
# What buffers hold

Sound buffers, and what becomes of their readable bytes and of their free ones under each
operation. The readable bytes are what a buffer stands for: `fill` and `advance` append to them,
`consume` drops from them, and no other operation changes them, unless it is there to empty the
buffer.

* **pools** — a pool that keeps nothing but empty chunks of its own size (`Pool.Stocked`) does so
  under every operation, and hands out empty buffers of the size asked for, or of a chunk's if that
  is larger (`Pool.Stocked.allocate`). So does one whose chunks have room (`Pool.allocate_spec`).
* **growth** — `Pool.Stocked.grown`: a buffer that is made to hold more keeps its bytes.
* **counts** — `Pool.outstanding_allocate` and those behind it: what a pool counts as handed out.
-/

namespace AtomicCommit

namespace Buffer

variable {b : Buffer} {data : Bytes} {n : Nat}

/-- The cursors are in order and within the storage. -/
structure Sound (b : Buffer) : Prop where
  ordered : b.start ≤ b.stop
  fits : b.stop ≤ b.capacity

/-- Nothing is readable and everything is free. -/
structure Blank (b : Buffer) : Prop where
  start : b.start = 0
  stop : b.stop = 0

theorem length_readable (sound : b.Sound) : b.readable.length = b.length := by
  have := sound.ordered
  have := sound.fits
  simp only [readable, length, capacity, List.length_take, List.length_drop] at *
  omega

theorem Blank.sound (blank : b.Blank) : b.Sound :=
  ⟨by simp [blank.start], by simp [blank.stop]⟩

theorem Blank.free_eq (blank : b.Blank) : b.free = b.capacity := by
  simp [free, blank.stop]

theorem Blank.readable_eq (blank : b.Blank) : b.readable = [] := by
  simp [readable, length, blank.start, blank.stop]

theorem blank_zeroed (size : Nat) (pooled : Bool) : (zeroed size pooled).Blank :=
  ⟨rfl, rfl⟩

@[simp] theorem capacity_zeroed (size : Nat) (pooled : Bool) :
    (zeroed size pooled).capacity = size :=
  List.length_replicate

theorem blank_clear (b : Buffer) : b.clear.Blank :=
  ⟨rfl, rfl⟩

theorem capacity_fill (sound : b.Sound) (data : Bytes) : (b.fill data).capacity = b.capacity := by
  have := sound.fits
  have bound : (data.take b.free).length ≤ b.free := by
    rw [List.length_take]
    exact Nat.min_le_left _ _
  unfold free at bound
  unfold capacity at *
  simp only [fill, free, capacity, List.length_append, List.length_take, List.length_drop] at *
  omega

/-- Of what was written over the free region, as much as is made readable is appended to what was
readable. -/
theorem readable_advance_fill_take (sound : b.Sound) (written : n ≤ data.length)
    (fits : n ≤ b.free) : ((b.fill data).advance n).readable = b.readable ++ data.take n := by
  have := sound.ordered
  have := sound.fits
  have size := capacity_fill sound data
  have before : (b.storage.take b.stop).length = b.stop := by
    rw [List.length_take]
    exact Nat.min_eq_left sound.fits
  have covered : n ≤ (data.take b.free).length := by
    rw [List.length_take]
    omega
  have stop : ((b.fill data).advance n).stop = b.stop + n := by
    show min (b.stop + n) (b.fill data).capacity = _
    unfold free at fits
    omega
  unfold readable length
  rw [stop]
  simp only [fill, advance]
  -- the readable bytes of old end where the new ones are written
  have split : b.stop + n - b.start = (b.stop - b.start) + n := by omega
  rw [List.append_assoc, List.drop_append_of_le_length (by omega), List.drop_take, split]
  have old : ((b.storage.drop b.start).take (b.stop - b.start)).length = b.stop - b.start := by
    rw [List.length_take, List.length_drop]
    unfold capacity at *
    omega
  rw [List.take_append, old, List.take_of_length_le (by omega), Nat.add_sub_cancel_left,
    List.take_append_of_le_length covered, List.take_take, Nat.min_eq_left fits]

/-- What fits and is then made readable is appended to what was readable. -/
theorem readable_advance_fill (sound : b.Sound) (fits : data.length ≤ b.free) :
    ((b.fill data).advance data.length).readable = b.readable ++ data := by
  rw [readable_advance_fill_take sound (Nat.le_refl _) fits, List.take_length]

theorem capacity_advance_fill (sound : b.Sound) (data : Bytes) (n : Nat) :
    ((b.fill data).advance n).capacity = b.capacity :=
  capacity_fill sound data

theorem sound_advance_fill (sound : b.Sound) (data : Bytes) (n : Nat) :
    ((b.fill data).advance n).Sound := by
  have size := capacity_fill sound data
  have := sound.ordered
  have := sound.fits
  constructor
  · show b.start ≤ min (b.stop + n) (b.fill data).capacity
    omega
  · exact Nat.min_le_right _ _

theorem readable_consume (sound : b.Sound) (n : Nat) :
    (b.consume n).readable = b.readable.drop n := by
  have := sound.ordered
  simp only [readable, consume, length]
  rw [List.drop_take, List.drop_drop]
  by_cases enough : b.start + n ≤ b.stop
  · rw [Nat.min_eq_left enough, Nat.sub_sub]
  · -- everything is dropped
    rw [Nat.min_eq_right (by omega), Nat.sub_self, List.take_zero,
      show b.stop - b.start - n = 0 by omega, List.take_zero]

theorem sound_consume (sound : b.Sound) (n : Nat) : (b.consume n).Sound :=
  ⟨Nat.min_le_right _ _, sound.fits⟩

theorem capacity_compact (sound : b.Sound) : b.compact.capacity = b.capacity := by
  have readable := length_readable sound
  have := sound.fits
  unfold compact
  split
  · rfl
  · unfold capacity at *
    simp only [List.length_append, List.length_drop, readable]
    unfold length
    omega

theorem sound_compact (sound : b.Sound) : b.compact.Sound := by
  have same := capacity_compact sound
  have := sound.fits
  constructor
  · unfold compact
    split
    · exact sound.ordered
    · exact Nat.zero_le _
  · rw [same]
    unfold compact
    split
    · exact sound.fits
    · show b.length ≤ b.capacity
      unfold length
      omega

theorem readable_compact (sound : b.Sound) : b.compact.readable = b.readable := by
  have size := length_readable sound
  unfold compact
  split
  · rfl
  · show (List.drop 0 (b.readable ++ b.storage.drop b.length)).take (b.length - 0) = b.readable
    rw [List.drop_zero, Nat.sub_zero, ← size, List.take_left]

theorem start_compact (b : Buffer) : b.compact.start = 0 := by
  unfold compact
  split
  · rename_i front
    exact front
  · rfl

/-- If nothing lies in front of the readable bytes, all that is not readable is free. -/
theorem free_of_front (front : b.start = 0) : b.free = b.capacity - b.length := by
  unfold free length
  rw [front, Nat.sub_zero]

/-- What is copied into a blank buffer that is large enough is what the buffer holds. -/
theorem put_spec (blank : b.Blank) (fits : data.length ≤ b.capacity) :
    (b.put data).readable = data ∧ (b.put data).Sound ∧ (b.put data).capacity = b.capacity := by
  have room : data.length ≤ b.free := by
    rw [blank.free_eq]
    exact fits
  unfold put accepted
  rw [Nat.min_eq_left room]
  refine ⟨?_, sound_advance_fill blank.sound .., capacity_advance_fill blank.sound ..⟩
  rw [readable_advance_fill blank.sound room, blank.readable_eq]
  rfl

end Buffer

namespace Pool

variable {p : Pool} {b : Buffer}

/-- The idle chunks have the pool's size and are blank. -/
def Stocked (p : Pool) : Prop :=
  ∀ b ∈ p.idle.toList, b.Blank ∧ b.capacity = p.chunkSize

theorem stocked_new (capacity chunkSize : Nat) : (new capacity chunkSize).Stocked := by
  simp [Stocked, new]

/-- Handing out. The buffer is blank, and a chunk unless a chunk is too small. -/
theorem Stocked.allocate (stocked : p.Stocked) (size : Nat) :
    (p.allocate size).1.Blank ∧ (p.allocate size).1.capacity = max size p.chunkSize ∧
      (p.allocate size).2.Stocked := by
  unfold Pool.allocate
  dsimp only
  split
  · rename_i small
    rw [Nat.max_eq_right small]
    split
    · rename_i chunk idle popped
      have members := Queue.toList_pop popped
      obtain ⟨blank, capacity⟩ := stocked chunk (by rw [members]; exact List.mem_cons_self)
      refine ⟨blank, capacity, ?_⟩
      intro b kept
      exact stocked b (by rw [members]; exact List.mem_cons_of_mem _ kept)
    · exact ⟨Buffer.blank_zeroed .., Buffer.capacity_zeroed .., stocked⟩
  · rename_i large
    rw [Nat.max_eq_left (Nat.le_of_not_le large)]
    exact ⟨Buffer.blank_zeroed .., Buffer.capacity_zeroed .., stocked⟩

/-- Whatever buffer is taken back, only chunks of the pool's size are kept, and emptied. -/
theorem Stocked.recycle (stocked : p.Stocked) (b : Buffer) : (p.recycle b).Stocked := by
  unfold Pool.recycle
  dsimp only
  split
  · rename_i kept
    simp only [Bool.and_eq_true, beq_iff_eq] at kept
    intro chunk member
    rw [Queue.toList_push, List.mem_append, List.mem_singleton] at member
    rcases member with before | rfl
    · exact stocked chunk before
    · exact ⟨Buffer.blank_clear b, kept.1.2⟩
  · exact stocked

theorem Stocked.ensureCapacity (stocked : p.Stocked) (b : Buffer) (needed : Nat) :
    (p.ensureCapacity b needed).2.2.Stocked := by
  unfold Pool.ensureCapacity
  split
  · exact (stocked.allocate needed).2.2.recycle b
  · exact stocked

/-- Making a buffer hold more. Its bytes stay, at the front, and a buffer that is too small is
replaced by one that is large enough. -/
theorem Stocked.grown (stocked : p.Stocked) (buffer : b.Sound) (needed : Nat) :
    (p.ensureCapacity b needed).1.readable = b.readable ∧
      (p.ensureCapacity b needed).1.Sound ∧ (p.ensureCapacity b needed).1.start = 0 ∧
      (p.ensureCapacity b needed).1.capacity =
        if b.capacity < needed then max needed p.chunkSize else b.capacity := by
  unfold Pool.ensureCapacity
  split
  · obtain ⟨blank, size, -⟩ := stocked.allocate needed
    have fits : b.readable.length ≤ (p.allocate needed).1.capacity := by
      have := Buffer.length_readable buffer
      have := buffer.fits
      unfold Buffer.length at *
      omega
    obtain ⟨holds, grown, capacity⟩ := Buffer.put_spec blank fits
    exact ⟨holds, grown, blank.start, capacity.trans size⟩
  · exact ⟨Buffer.readable_compact buffer, Buffer.sound_compact buffer, Buffer.start_compact b,
      Buffer.capacity_compact buffer⟩

/-- Chunks have a size, and the idle ones have that size and are blank. -/
structure Sound (p : Pool) : Prop where
  positive : 1 ≤ p.chunkSize
  chunk : ∀ b ∈ p.idle.toList, b.Blank ∧ b.capacity = p.chunkSize

theorem sound_new (capacity : Nat) {chunkSize : Nat} (positive : 1 ≤ chunkSize) :
    (new capacity chunkSize).Sound :=
  ⟨positive, stocked_new capacity chunkSize⟩

/-! No use of a pool changes the size of its chunks. -/

@[simp] theorem chunkSize_allocate (p : Pool) (size : Nat) :
    (p.allocate size).2.chunkSize = p.chunkSize := by
  unfold allocate
  dsimp only
  split
  · split <;> rfl
  · rfl

@[simp] theorem chunkSize_recycle (p : Pool) (b : Buffer) :
    (p.recycle b).chunkSize = p.chunkSize := by
  unfold recycle
  dsimp only
  split <;> rfl

@[simp] theorem chunkSize_recycleAll (p : Pool) (bs : List Buffer) :
    (p.recycleAll bs).chunkSize = p.chunkSize := by
  unfold recycleAll
  induction bs generalizing p with
  | nil => rfl
  | cons b rest ih => rw [List.foldl_cons, ih, chunkSize_recycle]

@[simp] theorem chunkSize_pack (p : Pool) (data : Bytes) :
    (p.pack data).2.chunkSize = p.chunkSize := by
  fun_induction pack p data with
  | case1 => rfl
  | case2 p b rest size chunk p' allocated chunks p'' packed ih =>
    have same := chunkSize_allocate p p.chunkSize
    rw [show p.allocate p.chunkSize = (chunk, p') from allocated] at same
    rw [packed] at ih
    exact ih.trans same

@[simp] theorem chunkSize_ensureCapacity (p : Pool) (b : Buffer) (needed : Nat) :
    (p.ensureCapacity b needed).2.2.chunkSize = p.chunkSize := by
  unfold ensureCapacity
  split
  · exact (chunkSize_recycle _ b).trans (chunkSize_allocate p needed)
  · rfl

/-! A pool counts what it hands out and what it takes back. -/

theorem outstanding_allocate (p : Pool) (size : Nat) :
    (p.allocate size).2.outstanding = p.outstanding + 1 := by
  unfold allocate
  dsimp only
  split
  · split <;> rfl
  · rfl

theorem outstanding_recycle (p : Pool) (b : Buffer) :
    (p.recycle b).outstanding = p.outstanding - 1 := by
  unfold recycle
  dsimp only
  split <;> rfl

theorem outstanding_recycle_add (p : Pool) (b : Buffer) :
    (p.recycle b).outstanding + UInt64.ofNat 1 = p.outstanding := by
  rw [outstanding_recycle]
  exact UInt64.sub_add_cancel _ _

theorem outstanding_recycleAll (p : Pool) (bs : List Buffer) :
    (p.recycleAll bs).outstanding + UInt64.ofNat bs.length = p.outstanding := by
  unfold recycleAll
  induction bs generalizing p with
  | nil => exact UInt64.add_zero _
  | cons b rest ih =>
    have later := ih (p.recycle b)
    rw [outstanding_recycle] at later
    rw [List.foldl_cons, List.length_cons, UInt64.ofNat_add]
    grind

theorem outstanding_ensureCapacity (p : Pool) (b : Buffer) (needed : Nat) :
    (p.ensureCapacity b needed).2.2.outstanding = p.outstanding := by
  unfold ensureCapacity
  split
  · show ((p.allocate needed).2.recycle b).outstanding = p.outstanding
    rw [outstanding_recycle, outstanding_allocate]
    grind
  · rfl

theorem outstanding_pack (p : Pool) (data : Bytes) :
    (p.pack data).2.outstanding = p.outstanding + UInt64.ofNat (p.pack data).1.length := by
  fun_induction pack p data with
  | case1 p => exact (UInt64.add_zero _).symm
  | case2 p b rest size chunk p' allocated chunks p'' packed ih =>
    have counted := outstanding_allocate p p.chunkSize
    rw [show p.allocate p.chunkSize = (chunk, p') from allocated] at counted
    rw [packed] at ih
    rw [List.length_cons, UInt64.ofNat_add]
    grind

/-- Handing out. The buffer is blank and has the size asked for. -/
theorem allocate_spec (sound : p.Sound) (size : Nat) :
    (p.allocate size).1.Blank ∧ size ≤ (p.allocate size).1.capacity ∧
      (p.allocate size).2.Sound := by
  obtain ⟨blank, capacity, stocked⟩ := Stocked.allocate sound.chunk size
  refine ⟨blank, ?_, ?_, stocked⟩
  · rw [capacity]
    exact Nat.le_max_left ..
  · rw [chunkSize_allocate]
    exact sound.positive

theorem sound_recycle (sound : p.Sound) (b : Buffer) : (p.recycle b).Sound := by
  refine ⟨?_, Stocked.recycle sound.chunk b⟩
  rw [chunkSize_recycle]
  exact sound.positive

theorem sound_recycleAll (sound : p.Sound) (bs : List Buffer) : (p.recycleAll bs).Sound := by
  unfold recycleAll
  induction bs generalizing p with
  | nil => exact sound
  | cons b rest ih => exact ih (sound_recycle sound b)

theorem sound_pack (sound : p.Sound) (data : Bytes) : (p.pack data).2.Sound := by
  fun_induction pack p data with
  | case1 => exact sound
  | case2 p b rest size chunk p' allocated chunks p'' packed ih =>
    have still := (allocate_spec sound p.chunkSize).2.2
    rw [show p.allocate p.chunkSize = (chunk, p') from allocated] at still
    rw [packed] at ih
    exact ih still

theorem sound_ensureCapacity (sound : p.Sound) (b : Buffer) (needed : Nat) :
    (p.ensureCapacity b needed).2.2.Sound := by
  unfold ensureCapacity
  split
  · exact sound_recycle (allocate_spec sound needed).2.2 b
  · exact sound

/-- Making a buffer hold more. Its bytes stay, at the front, and there is room for what is
needed. -/
theorem ensureCapacity_spec (sound : p.Sound) (buffer : b.Sound) (needed : Nat) :
    (p.ensureCapacity b needed).1.readable = b.readable ∧
      (p.ensureCapacity b needed).1.Sound ∧ (p.ensureCapacity b needed).1.start = 0 ∧
      max b.capacity needed ≤ (p.ensureCapacity b needed).1.capacity := by
  obtain ⟨readable, grown, front, capacity⟩ := Stocked.grown sound.chunk buffer needed
  refine ⟨readable, grown, front, ?_⟩
  rw [capacity]
  split <;> omega

end Pool

end AtomicCommit
