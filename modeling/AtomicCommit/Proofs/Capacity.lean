import AtomicCommit.Proofs.Reading

/-!
# The size of a read buffer

A read buffer doubles when it is full before a read, grows to the frame that its rest begins, and
goes back to a chunk when a timer says so. What keeps these three within bounds is when a buffer can
be full: `Intake.Ready` says that a buffer is full before a read only if it is a chunk, or too short
for a header.

* **pools** — `Pool.capacity_allocate`, `Pool.capacity_ensureCapacity`: what is handed out has
  exactly the size asked for, or that of a chunk.
* **buffers** — `Intake.makeRoom_sized`, `Intake.receive_sized`, `Intake.keepRest_ready` and
  `Intake.shrink_ready`: the sizes of a read buffer around one read.
-/

namespace AtomicCommit

open Wire

/-! ## Pools -/

namespace Pool

variable {p : Pool} {b : Buffer}

/-- What is handed out is a chunk, or has the size asked for if a chunk is too small. -/
theorem capacity_allocate (sound : p.Sound) (size : Nat) :
    (p.allocate size).1.capacity = max size p.chunkSize :=
  (Stocked.allocate sound.chunk size).2.1

/-- A buffer that is large enough keeps its size. -/
theorem capacity_ensureCapacity (sound : p.Sound) (buffer : b.Sound) (needed : Nat) :
    (p.ensureCapacity b needed).1.capacity =
      if b.capacity < needed then max needed p.chunkSize else b.capacity :=
  (Stocked.grown sound.chunk buffer needed).2.2.2

end Pool

/-! ## The rest behind the frames -/

namespace Wire

variable {limit : Nat} {data : Bytes}

theorem length_of_unparsed {cause : ProtocolError} (unparsed : Header.parse data = .error cause) :
    data.length < headerSize := by
  obtain _ | ⟨a, _ | ⟨b, _ | ⟨c, _ | ⟨sequenceId, rest⟩⟩⟩⟩ := data
  case cons.cons.cons.cons => simp [Header.parse] at unparsed
  all_goals simp [headerSize]

theorem length_left_of_short (short : (Split.ofBytes limit data).rest = .short) :
    (Split.ofBytes limit data).left.length < headerSize := by
  fun_induction Split.ofBytes limit data with
  | case1 data cause unparsed => exact length_of_unparsed unparsed
  | case2 => simp at short
  | case3 => simp at short
  | case4 data header parsed within frame full behind ih => exact ih short

/-- A rest that begins a frame is shorter than this, and the frame is within the limit. -/
theorem length_left_of_part {n : Nat} (part : (Split.ofBytes limit data).rest = .part n) :
    (Split.ofBytes limit data).left.length < n ∧ headerSize ≤ n ∧ n ≤ limit + headerSize := by
  fun_induction Split.ofBytes limit data with
  | case1 => simp at part
  | case2 => simp at part
  | case3 data header parsed within frame short =>
    obtain rfl := Rest.part.inj part
    have size : frame.length = min header.frameLength data.length := List.length_take
    unfold Header.frameLength at *
    refine ⟨?_, Nat.le_add_right _ _, ?_⟩
    · show data.length < _
      omega
    · omega
  | case4 data header parsed within frame full behind ih => exact ih part

end Wire

namespace Transport

/-! ## Buffers -/

namespace Intake

variable {pool : Pool} {limit : Nat} {b : Buffer} {data : Bytes}

/-- The largest size of a read buffer. -/
def largest (chunk limit : Nat) : Nat :=
  max (2 * chunk) (limit + headerSize)

/-- The sizes that a read buffer has. One that holds no header is a chunk, or twice a chunk. -/
structure Sized (chunk limit : Nat) (b : Buffer) : Prop where
  sound : b.Sound
  least : chunk ≤ b.capacity
  most : b.capacity ≤ largest chunk limit
  steps : b.capacity = chunk ∨ b.capacity = 2 * chunk ∨ headerSize ≤ b.capacity

/-- The sizes that it has before a read. If it is full, doubling keeps it within the bound. -/
structure Ready (chunk limit : Nat) (b : Buffer) : Prop extends Sized chunk limit b where
  full : b.length = b.capacity → b.capacity = chunk ∨ b.capacity < headerSize

theorem Sized.holds (sized : Sized pool.chunkSize limit b) (sound : pool.Sound) :
    Holds b b.readable :=
  ⟨sized.sound, Nat.le_trans sound.positive sized.least, rfl⟩

/-- A sound buffer of the same size is as good. -/
theorem Sized.of_capacity {chunk : Nat} {b' : Buffer} (sized : Sized chunk limit b)
    (sound : b'.Sound) (same : b'.capacity = b.capacity) : Sized chunk limit b' :=
  ⟨sound, same ▸ sized.least, same ▸ sized.most, same ▸ sized.steps⟩

/-- A chunk that is not full. -/
theorem ready_allocateChunk (sound : pool.Sound) (limit : Nat) :
    Ready pool.chunkSize limit pool.allocateChunk.1 := by
  have size : pool.allocateChunk.1.capacity = pool.chunkSize :=
    (Pool.capacity_allocate sound _).trans (Nat.max_self _)
  refine ⟨⟨(Pool.allocate_spec sound _).1.sound, ?_, ?_, .inl size⟩, fun _ => .inl size⟩
  · exact Nat.le_of_eq size.symm
  · rw [size]
    unfold largest
    omega

theorem Ready.compact {chunk : Nat} (ready : Ready chunk limit b) : Ready chunk limit b.compact := by
  have same := Buffer.capacity_compact ready.sound
  have sound := Buffer.sound_compact ready.sound
  refine ⟨ready.toSized.of_capacity sound same, ?_⟩
  have length : b.compact.length = b.length := by
    rw [← Buffer.length_readable sound, Buffer.readable_compact ready.sound,
      Buffer.length_readable ready.sound]
  rw [length, same]
  exact ready.full

/-- **Before a read** there is room in the buffer. -/
theorem makeRoom_sized (sound : pool.Sound) (ready : Ready pool.chunkSize limit b) :
    Sized pool.chunkSize limit (makeRoom pool b).1 ∧ 0 < (makeRoom pool b).1.free := by
  refine ⟨?_, (makeRoom_spec sound (ready.toSized.holds sound)).2⟩
  -- a buffer that is compact and has nothing free is full
  have front : ∃ b', (if b.free = 0 then b.compact else b) = b' ∧ Ready pool.chunkSize limit b' ∧
      (b'.free = 0 → b'.length = b'.capacity) := by
    by_cases none : b.free = 0
    · refine ⟨b.compact, if_pos none, ready.compact, ?_⟩
      intro full
      have fits := ready.compact.sound.fits
      have start := Buffer.start_compact b
      unfold Buffer.free at full
      unfold Buffer.length
      omega
    · exact ⟨b, if_neg none, ready, fun full => absurd full none⟩
  obtain ⟨b', same, ready', full⟩ := front
  unfold makeRoom
  rw [same]
  dsimp only
  split
  · rename_i none
    have size := Pool.capacity_ensureCapacity sound ready'.sound (b'.capacity * 2)
    have cause := ready'.full (full none)
    obtain ⟨-, buffer, -, -⟩ := Pool.ensureCapacity_spec sound ready'.sound (b'.capacity * 2)
    have positive := sound.positive
    have least := ready'.least
    have steps := ready'.steps
    rw [if_pos (by omega), Nat.max_eq_left (by omega)] at size
    -- twice a chunk, or room for a header where chunks are of one byte
    have grown : (pool.ensureCapacity b' (b'.capacity * 2)).1.capacity = 2 * pool.chunkSize ∨
        (pool.ensureCapacity b' (b'.capacity * 2)).1.capacity = headerSize := by
      unfold headerSize at *
      omega
    refine ⟨buffer, ?_, ?_, ?_⟩
    · show _ ≤ (pool.ensureCapacity b' (b'.capacity * 2)).1.capacity
      omega
    · show (pool.ensureCapacity b' (b'.capacity * 2)).1.capacity ≤ _
      unfold largest
      omega
    · exact .inr (grown.imp_right fun header => Nat.le_of_eq header.symm)
  · exact ready'.toSized

/-- **A read** leaves a buffer its size. -/
theorem receive_sized {chunk : Nat} (sized : Sized chunk limit b) (data : Bytes) :
    Sized chunk limit (receive b data) :=
  sized.of_capacity (Buffer.sound_advance_fill sized.sound ..)
    (Buffer.capacity_advance_fill sized.sound ..)

/-- A buffer keeps its size behind the frames, unless the next frame is longer than that. -/
theorem capacity_keepRest (sound : pool.Sound) (buffer : b.Sound) (split : Split) :
    (keepRest pool b split).1.capacity = b.capacity ∧
        (∀ n, split.rest = .part n → n ≤ b.capacity) ∨
      ∃ n, split.rest = .part n ∧ b.capacity < n ∧
        (keepRest pool b split).1.capacity = max n pool.chunkSize := by
  have consumed := Buffer.sound_consume buffer (b.length - split.left.length)
  have same : (b.consume (b.length - split.left.length)).capacity = b.capacity := rfl
  unfold keepRest
  dsimp only
  generalize b.consume (b.length - split.left.length) = b' at consumed same
  cases split.rest with
  | short =>
    refine .inl ⟨?_, by simp⟩
    dsimp only
    split <;> exact same
  | part n =>
    -- a frame that is too large for the buffer is the only reason to grow
    have size := Pool.capacity_ensureCapacity sound consumed n
    dsimp only
    split
    · rename_i small
      rw [if_pos small] at size
      exact .inr ⟨n, rfl, same ▸ small, size⟩
    · rename_i large
      refine .inl ⟨?_, fun n' part => ?_⟩
      · dsimp only
        split
        · exact (Buffer.capacity_compact consumed).trans same
        · exact same
      · rw [← Rest.part.inj part, ← same]
        exact Nat.le_of_not_lt large
  | oversized => exact .inl ⟨same, by simp⟩

/-- **Behind the frames** a buffer holds the frame that its rest begins, and has room for what is
missing of it. -/
theorem keepRest_ready (sound : pool.Sound) (sized : Sized pool.chunkSize limit b) :
    Sized pool.chunkSize limit (keepRest pool b (Split.ofBytes limit b.readable)).1 ∧
      ((∀ n, (Split.ofBytes limit b.readable).rest ≠ .oversized n) →
        Ready pool.chunkSize limit (keepRest pool b (Split.ofBytes limit b.readable)).1) := by
  have kept := keepRest_spec sound (sized.holds sound) limit
  have capacity := capacity_keepRest sound sized.sound (Split.ofBytes limit b.readable)
  have length := kept.length_eq
  have sized' : Sized pool.chunkSize limit
      (keepRest pool b (Split.ofBytes limit b.readable)).1 := by
    rcases capacity with ⟨same, -⟩ | ⟨n, part, small, grown⟩
    · exact sized.of_capacity kept.sound same
    · obtain ⟨-, header, within⟩ := length_left_of_part part
      have least := sized.least
      refine ⟨kept.sound, ?_, ?_, ?_⟩
      · omega
      · rw [grown]
        unfold largest
        omega
      · omega
  refine ⟨sized', fun within => ⟨sized', ?_⟩⟩
  intro full
  cases rest : (Split.ofBytes limit b.readable).rest with
  | short =>
    have short := length_left_of_short rest
    omega
  | part n =>
    -- the frame is not complete, and fits
    obtain ⟨missing, -⟩ := length_left_of_part rest
    rcases capacity with ⟨same, holds⟩ | ⟨n', part, small, grown⟩
    · have enough := holds n rest
      omega
    · obtain rfl := Rest.part.inj (rest.symm.trans part)
      omega
  | oversized n => exact absurd rest (within n)

/-- **A chunk** that the timer makes a task go back to may be full. -/
theorem shrink_ready (sound : pool.Sound) (ready : Ready pool.chunkSize limit b) :
    Ready pool.chunkSize limit (shrink pool b).1 := by
  unfold shrink
  split
  · exact ready
  · rename_i large
    simp only [Bool.or_eq_true, decide_eq_true_eq, not_or] at large
    have chunk := ready_allocateChunk sound limit
    have size := (Pool.capacity_allocate sound pool.chunkSize).trans (Nat.max_self _)
    have fits : b.readable.length ≤ pool.allocateChunk.1.capacity := by
      rw [Buffer.length_readable ready.sound]
      exact Nat.le_trans (Nat.le_of_not_lt large.2) chunk.least
    obtain ⟨-, buffer, capacity⟩ :=
      Buffer.put_spec (Pool.allocate_spec sound pool.chunkSize).1 fits
    exact ⟨chunk.toSized.of_capacity buffer capacity, fun _ => .inl (capacity.trans size)⟩

/-! None of these changes the size of the chunks. -/

@[simp] theorem chunkSize_makeRoom (pool : Pool) (b : Buffer) :
    (makeRoom pool b).2.chunkSize = pool.chunkSize := by
  unfold makeRoom
  dsimp only
  generalize (if b.free = 0 then b.compact else b) = b
  split
  · exact Pool.chunkSize_ensureCapacity ..
  · rfl

@[simp] theorem chunkSize_keepRest (pool : Pool) (b : Buffer) (split : Split) :
    (keepRest pool b split).2.chunkSize = pool.chunkSize := by
  unfold keepRest
  dsimp only
  split
  · rfl
  · split
    · exact Pool.chunkSize_ensureCapacity ..
    · rfl
  · rfl

@[simp] theorem chunkSize_shrink (pool : Pool) (b : Buffer) :
    (shrink pool b).2.chunkSize = pool.chunkSize := by
  unfold shrink
  split
  · rfl
  · exact (Pool.chunkSize_recycle _ b).trans (Pool.chunkSize_allocate pool pool.chunkSize)

end Intake

end Transport

end AtomicCommit
