import AtomicCommit.Proofs.Buffers

/-!
# Buffers are byte queues

A `ByteQueue` is what can be seen of a buffer from outside: the bytes that wait in it, how many
places in front of them are given up, and the size of its storage. What else is in the storage, such
as what an earlier user of a chunk left there, is not seen. A `Storeroom` has any number of pools and
the buffers in use; each of these stands beside a queue that was treated as the buffer was.

* **one use** — `Buffer.Stands.use` and `Buffer.Stands.ensure`: a buffer still stands for its queue
  when both were used alike.
* **one step** — `Storeroom.Kept.step`: all buffers do, and the pools stay stocked, whatever is done
  in a storeroom.
* **any uses** — `buffers_are_byte_queues`.
-/

namespace AtomicCommit

/-! ## Queues of bytes -/

/-- Bytes that wait in a storage of fixed size. -/
structure ByteQueue where
  bytes : Bytes := []
  /-- How many places in front of the bytes are given up. -/
  gap : Nat := 0
  capacity : Nat
  deriving DecidableEq, Repr

/-- What a user does with a buffer. -/
inductive Buffer.Use where
  | put (data : Bytes)
  /-- Bytes are written over the front of the free region, and the first of them are made
  readable. -/
  | fill (data surplus : Bytes)
  | consume (n : Nat)
  | compact
  | clear
  deriving DecidableEq, Repr

namespace ByteQueue

def room (q : ByteQueue) : Nat :=
  q.capacity - (q.gap + q.bytes.length)

def append (q : ByteQueue) (data : Bytes) : ByteQueue :=
  { q with bytes := q.bytes ++ data.take q.room }

/-- Drop bytes, which gives up their places. -/
def drop (q : ByteQueue) (n : Nat) : ByteQueue :=
  { q with bytes := q.bytes.drop n, gap := q.gap + min n q.bytes.length }

/-- Win back the places given up. -/
def compact (q : ByteQueue) : ByteQueue :=
  { q with gap := 0 }

def use (q : ByteQueue) : Buffer.Use → ByteQueue
  | .put data | .fill data _ => q.append data
  | .consume n => q.drop n
  | .compact => q.compact
  | .clear => { capacity := q.capacity }

/-- Move to a storage of so many places, but not less than a chunk, unless they are there. -/
def ensure (q : ByteQueue) (chunk needed : Nat) : ByteQueue :=
  { q.compact with capacity := if q.capacity < needed then max needed chunk else q.capacity }

end ByteQueue

namespace Buffer

def use (b : Buffer) : Use → Buffer
  | .put data => b.put data
  | .fill data surplus => (b.fill (data ++ surplus)).advance data.length
  | .consume n => b.consume n
  | .compact => b.compact
  | .clear => b.clear

/-! ## What a buffer stands for -/

/-- A buffer looks like a queue from outside. -/
structure Stands (b : Buffer) (q : ByteQueue) : Prop where
  sound : b.Sound
  bytes : b.readable = q.bytes
  gap : b.start = q.gap
  capacity : b.capacity = q.capacity

variable {b : Buffer} {q : ByteQueue}

theorem Blank.stands (blank : b.Blank) : b.Stands { capacity := b.capacity } where
  sound := blank.sound
  bytes := blank.readable_eq
  gap := blank.start
  capacity := rfl

theorem Stands.free_eq (stands : b.Stands q) : b.free = q.room := by
  have size := length_readable stands.sound
  have := stands.sound.ordered
  unfold free ByteQueue.room
  rw [← stands.gap, ← stands.capacity, ← stands.bytes, size]
  unfold length
  omega

/-- What is made readable beyond the storage does not count. -/
theorem advance_eq_of_capacity {room n : Nat} (sound : b.Sound) (free : b.free = room) :
    b.advance n = b.advance (min n room) := by
  have := sound.fits
  unfold Buffer.free at free
  have stop : min (b.stop + n) b.capacity = min (b.stop + min n room) b.capacity := by omega
  unfold advance
  rw [stop]

theorem sound_fill (sound : b.Sound) (data : Bytes) : (b.fill data).Sound := by
  refine ⟨sound.ordered, ?_⟩
  rw [capacity_fill sound]
  exact sound.fits

/-- The first bytes of what is written over the free region are appended, as many as fit. -/
theorem Stands.append (stands : b.Stands q) (data surplus : Bytes) :
    ((b.fill (data ++ surplus)).advance (min data.length b.free)).Stands (q.append data) where
  sound := sound_advance_fill stands.sound ..
  bytes := by
    rw [readable_advance_fill_take stands.sound (by rw [List.length_append]; omega)
      (Nat.min_le_right _ _), List.take_append_of_le_length (Nat.min_le_left _ _), stands.bytes,
      stands.free_eq, Nat.min_comm, ← List.take_eq_take_min]
    rfl
  gap := stands.gap
  capacity := (capacity_advance_fill stands.sound ..).trans stands.capacity

theorem Stands.drop (stands : b.Stands q) (n : Nat) : (b.consume n).Stands (q.drop n) where
  sound := sound_consume stands.sound n
  bytes := (readable_consume stands.sound n).trans (congrArg (List.drop n) stands.bytes)
  gap := by
    have size := length_readable stands.sound
    have := stands.sound.ordered
    show min (b.start + n) b.stop = q.gap + min n q.bytes.length
    rw [← stands.gap, ← stands.bytes, size]
    unfold length
    omega
  capacity := stands.capacity

/-- **One use.** A buffer and its queue are used alike. -/
theorem Stands.use (stands : b.Stands q) (u : Use) : (b.use u).Stands (q.use u) := by
  cases u with
  | put data =>
    have appended := stands.append data []
    rw [List.append_nil] at appended
    exact appended
  | fill data surplus =>
    have free : (b.fill (data ++ surplus)).free = b.free :=
      congrArg (· - b.stop) (capacity_fill stands.sound _)
    show ((b.fill (data ++ surplus)).advance data.length).Stands (q.append data)
    rw [advance_eq_of_capacity (sound_fill stands.sound _) free]
    exact stands.append data surplus
  | consume n => exact stands.drop n
  | compact =>
    exact ⟨sound_compact stands.sound, (readable_compact stands.sound).trans stands.bytes,
      start_compact b, (capacity_compact stands.sound).trans stands.capacity⟩
  | clear => exact ⟨(blank_clear b).sound, (blank_clear b).readable_eq, rfl, stands.capacity⟩

/-- A buffer is made to hold more, and its queue is. -/
theorem Stands.ensure (stands : b.Stands q) {p : Pool} (stocked : p.Stocked) (needed : Nat) :
    (p.ensureCapacity b needed).1.Stands (q.ensure p.chunkSize needed) := by
  obtain ⟨readable, sound, front, capacity⟩ := stocked.grown stands.sound needed
  refine ⟨sound, readable.trans stands.bytes, front, ?_⟩
  rw [capacity, stands.capacity]
  rfl

end Buffer

theorem ByteQueue.needed_le_capacity_ensure (q : ByteQueue) (chunk needed : Nat) :
    needed ≤ (q.ensure chunk needed).capacity := by
  show needed ≤ if q.capacity < needed then max needed chunk else q.capacity
  split <;> omega

/-! ## Storerooms -/

/-- A buffer in use, and the queue that is kept beside it. -/
structure Holding where
  buffer : Buffer
  queue : ByteQueue
  deriving DecidableEq, Repr

/-- Pools, and the buffers that were handed out and not taken back. -/
structure Storeroom where
  pools : List Pool
  inUse : List Holding := []
  deriving DecidableEq, Repr

namespace Storeroom

/-- What is done in a storeroom, with the pool and the buffer at these places. -/
inductive Step where
  | allocate (pool size : Nat)
  | allocateChunk (pool : Nat)
  /-- Any pool may take a buffer back. -/
  | recycle (pool place : Nat)
  | use (place : Nat) (u : Buffer.Use)
  | ensure (pool place needed : Nat)
  deriving DecidableEq, Repr

/-- Pools of these capacities and chunk sizes, with all buffers still to be handed out. -/
def new (sizes : List (Nat × Nat)) : Storeroom where
  pools := sizes.map fun (capacity, chunkSize) => Pool.new capacity chunkSize

/-- Put a buffer into use that the pool at a place has handed out. -/
def handOut (s : Storeroom) (pool : Nat) (out : Buffer × Pool) : Storeroom where
  pools := s.pools.set pool out.2
  inUse := s.inUse ++ [⟨out.1, { capacity := out.1.capacity }⟩]

def step (s : Storeroom) : Step → Storeroom
  | .allocate pool size =>
    match s.pools[pool]? with
    | some p => s.handOut pool (p.allocate size)
    | none => s
  | .allocateChunk pool =>
    match s.pools[pool]? with
    | some p => s.handOut pool p.allocateChunk
    | none => s
  | .recycle pool place =>
    match s.pools[pool]?, s.inUse[place]? with
    | some p, some h =>
      { pools := s.pools.set pool (p.recycle h.buffer), inUse := s.inUse.eraseIdx place }
    | _, _ => s
  | .use place u =>
    match s.inUse[place]? with
    | some h => { s with inUse := s.inUse.set place ⟨h.buffer.use u, h.queue.use u⟩ }
    | none => s
  | .ensure pool place needed =>
    match s.pools[pool]?, s.inUse[place]? with
    | some p, some h =>
      { pools := s.pools.set pool (p.ensureCapacity h.buffer needed).2.2
        inUse := s.inUse.set place
          ⟨(p.ensureCapacity h.buffer needed).1, h.queue.ensure p.chunkSize needed⟩ }
    | _, _ => s

def after (s : Storeroom) (steps : List Step) : Storeroom :=
  steps.foldl step s

/-- Pools are stocked, and buffers stand for the queues beside them. -/
structure Kept (s : Storeroom) : Prop where
  stocked : ∀ p ∈ s.pools, p.Stocked
  stands : ∀ h ∈ s.inUse, h.buffer.Stands h.queue

theorem kept_new (sizes : List (Nat × Nat)) : (new sizes).Kept := by
  refine ⟨?_, fun h held => absurd held List.not_mem_nil⟩
  intro p made
  obtain ⟨⟨capacity, chunkSize⟩, -, rfl⟩ := List.mem_map.mp made
  exact Pool.stocked_new capacity chunkSize

variable {s : Storeroom}

theorem stocked_set (kept : s.Kept) {pool : Nat} {p : Pool} (stocked : p.Stocked) :
    ∀ other ∈ s.pools.set pool p, other.Stocked := by
  intro other member
  rcases List.mem_or_eq_of_mem_set member with before | rfl
  · exact kept.stocked other before
  · exact stocked

theorem stands_set (kept : s.Kept) {place : Nat} {h : Holding} (stands : h.buffer.Stands h.queue) :
    ∀ other ∈ s.inUse.set place h, other.buffer.Stands other.queue := by
  intro other member
  rcases List.mem_or_eq_of_mem_set member with before | rfl
  · exact kept.stands other before
  · exact stands

theorem Kept.handOut (kept : s.Kept) (pool : Nat) {out : Buffer × Pool} (blank : out.1.Blank)
    (stocked : out.2.Stocked) : (s.handOut pool out).Kept where
  stocked := stocked_set kept stocked
  stands := List.forall_mem_append.mpr ⟨kept.stands, List.forall_mem_singleton.mpr blank.stands⟩

/-- **One step.** Whatever is done, pools stay stocked and buffers stand for their queues. -/
theorem Kept.step (kept : s.Kept) (step : Step) : (s.step step).Kept := by
  cases step with
  | allocate pool size =>
    simp only [Storeroom.step]
    split
    · rename_i p here
      obtain ⟨blank, -, stocked⟩ := (kept.stocked p (List.mem_of_getElem? here)).allocate size
      exact kept.handOut pool blank stocked
    · exact kept
  | allocateChunk pool =>
    simp only [Storeroom.step]
    split
    · rename_i p here
      obtain ⟨blank, -, stocked⟩ :=
        (kept.stocked p (List.mem_of_getElem? here)).allocate p.chunkSize
      exact kept.handOut pool blank stocked
    · exact kept
  | recycle pool place =>
    simp only [Storeroom.step]
    split
    · rename_i p h here held
      -- what the pool takes back need not stand for anything
      have stocked := kept.stocked p (List.mem_of_getElem? here)
      refine ⟨stocked_set kept (stocked.recycle h.buffer), ?_⟩
      intro other remains
      exact kept.stands other (List.mem_of_mem_eraseIdx remains)
    · exact kept
  | use place u =>
    simp only [Storeroom.step]
    split
    · rename_i h held
      have stands := kept.stands h (List.mem_of_getElem? held)
      exact ⟨kept.stocked, stands_set kept (stands.use u)⟩
    · exact kept
  | ensure pool place needed =>
    simp only [Storeroom.step]
    split
    · rename_i p h here held
      have stocked := kept.stocked p (List.mem_of_getElem? here)
      have stands := kept.stands h (List.mem_of_getElem? held)
      exact ⟨stocked_set kept (stocked.ensureCapacity h.buffer needed),
        stands_set kept (stands.ensure stocked needed)⟩
    · exact kept

theorem Kept.after (kept : s.Kept) (steps : List Step) : (s.after steps).Kept := by
  induction steps generalizing s with
  | nil => exact kept
  | cons step rest ih => exact ih (kept.step step)

end Storeroom

/-- What `put` says that it took is what the buffer holds more. -/
theorem Buffer.Stands.length_put {b : Buffer} {q : ByteQueue} (stands : b.Stands q) (data : Bytes) :
    (b.put data).length = b.length + b.accepted data := by
  have after : (b.put data).Stands (q.append data) := stands.use (.put data)
  have room := stands.free_eq
  rw [← length_readable after.sound, after.bytes, ← length_readable stands.sound, stands.bytes]
  simp only [ByteQueue.append, List.length_append, List.length_take, accepted, room]
  rw [Nat.min_comm]

/-- **Byte queues.** Take any number of pools, of whatever capacities and chunk sizes, and do with
them and with the buffers that they hand out whatever can be done: the cursors of a buffer in use
stay in order and within its storage, and what can be read from it, and how much more it takes, are
what the queue beside it says. So bytes that are put or filled in are appended as far as they fit,
and `put` says how many do; consuming drops from the front, clearing empties, and nothing else
changes the bytes. A buffer that a pool is asked to make hold `needed` bytes does hold them, with
the bytes that it has at the front, whichever pool is asked. -/
theorem buffers_are_byte_queues (sizes : List (Nat × Nat)) (steps : List Storeroom.Step) :
    let s := (Storeroom.new sizes).after steps
    ∀ h ∈ s.inUse,
      (h.buffer.start ≤ h.buffer.stop ∧ h.buffer.stop ≤ h.buffer.capacity) ∧
      h.buffer.readable = h.queue.bytes ∧ h.buffer.free = h.queue.room ∧
      (∀ data, h.buffer.accepted data = min data.length h.queue.room ∧
        (h.buffer.put data).length = h.buffer.length + h.buffer.accepted data) ∧
      ∀ p ∈ s.pools, ∀ needed,
        needed ≤ (p.ensureCapacity h.buffer needed).1.capacity ∧
        (p.ensureCapacity h.buffer needed).1.start = 0 ∧
        (p.ensureCapacity h.buffer needed).1.readable = h.queue.bytes := by
  intro s h held
  have kept : s.Kept := (Storeroom.kept_new sizes).after steps
  have stands := kept.stands h held
  refine ⟨⟨stands.sound.ordered, stands.sound.fits⟩, stands.bytes, stands.free_eq, ?_, ?_⟩
  · intro data
    refine ⟨?_, stands.length_put data⟩
    unfold Buffer.accepted
    rw [stands.free_eq]
  · intro p here needed
    have grown := stands.ensure (kept.stocked p here) needed
    refine ⟨?_, grown.gap, grown.bytes⟩
    rw [grown.capacity]
    exact h.queue.needed_le_capacity_ensure p.chunkSize needed

namespace Sample

/-- A chunk comes back with old bytes in its storage, and is handed out again. -/
def secondHand : List Storeroom.Step :=
  [.allocateChunk 0, .use 0 (.put [1, 2, 3, 4, 5]), .recycle 0 0, .allocate 0 2,
    .use 0 (.fill [6, 7] [8]), .use 0 (.consume 1)]

end Sample

/-- The case of a chunk with the bytes of an earlier user in its storage, which has to make room for
six bytes and holds one. -/
theorem second_hand_chunk_is_byte_queue :
    let s := (Storeroom.new [(1, 4)]).after Sample.secondHand
    ∃ h ∈ s.inUse, ∃ p ∈ s.pools, h.buffer.storage = [6, 7, 8, 4] ∧ h.buffer.readable = [7] ∧
      6 ≤ (p.ensureCapacity h.buffer 6).1.capacity ∧
      (p.ensureCapacity h.buffer 6).1.readable = [7] := by
  intro s
  have held : ⟨⟨[6, 7, 8, 4], 1, 2, true⟩, ⟨[7], 1, 4⟩⟩ ∈ s.inUse := by decide
  have here : { chunkSize := 4, capacity := 1, outstanding := 1 } ∈ s.pools := by decide
  obtain ⟨-, readable, -, -, grows⟩ :=
    buffers_are_byte_queues [(1, 4)] Sample.secondHand _ held
  obtain ⟨large, -, moved⟩ := grows _ here 6
  exact ⟨_, held, _, here, rfl, readable, large, moved⟩

end AtomicCommit
