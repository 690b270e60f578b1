import AtomicCommit.Proofs.Buffers
import AtomicCommit.Proofs.Cut
import AtomicCommit.Transport.Hub

/-!
# The turns of a reading task

A reading task has some bytes in hand. `Intake.receive`, `keepRest`, `makeRoom` and `shrink` change
where in its buffer they lie, and not which bytes they are. So each turn, `Hub.read`, `Hub.settle`
or `Hub.shrink`, does to them what it would do to a list: `read_spec`, `settle_spec`, `shrink_spec`.
-/

namespace AtomicCommit

open Wire

namespace Transport

open Hub

/-! ## The read buffer -/

namespace Intake

variable {pool : Pool} {b : Buffer} {data more : Bytes}

/-- A buffer of some size with these readable bytes. -/
structure Holds (b : Buffer) (data : Bytes) : Prop where
  sound : b.Sound
  sized : 1 ≤ b.capacity
  bytes : b.readable = data

theorem Holds.length_eq (holds : Holds b data) : b.length = data.length := by
  rw [← holds.bytes, Buffer.length_readable holds.sound]

theorem Holds.compact (holds : Holds b data) : Holds b.compact data where
  sound := Buffer.sound_compact holds.sound
  sized := by
    rw [Buffer.capacity_compact holds.sound]
    exact holds.sized
  bytes := (Buffer.readable_compact holds.sound).trans holds.bytes

theorem holds_ensureCapacity (sound : pool.Sound) (holds : Holds b data) (needed : Nat) :
    Holds (pool.ensureCapacity b needed).1 data ∧
      needed - b.length ≤ (pool.ensureCapacity b needed).1.free := by
  obtain ⟨bytes, buffer, front, capacity⟩ := Pool.ensureCapacity_spec sound holds.sound needed
  have sized := holds.sized
  have grown : Holds (pool.ensureCapacity b needed).1 data :=
    ⟨buffer, by omega, bytes.trans holds.bytes⟩
  refine ⟨grown, ?_⟩
  rw [Buffer.free_of_front front, grown.length_eq, holds.length_eq]
  omega

theorem sound_makeRoom (sound : pool.Sound) (b : Buffer) : (makeRoom pool b).2.Sound := by
  unfold makeRoom
  dsimp only
  generalize (if b.free = 0 then b.compact else b) = b
  split
  · exact Pool.sound_ensureCapacity sound _ _
  · exact sound

/-- There is room for a read afterwards. -/
theorem makeRoom_spec (sound : pool.Sound) (holds : Holds b data) :
    Holds (makeRoom pool b).1 data ∧ 0 < (makeRoom pool b).1.free := by
  have front : Holds (if b.free = 0 then b.compact else b) data := by
    split
    · exact holds.compact
    · exact holds
  unfold makeRoom
  dsimp only
  generalize (if b.free = 0 then b.compact else b) = b at front
  split
  · rename_i full
    obtain ⟨grown, free⟩ := holds_ensureCapacity sound front (b.capacity * 2)
    refine ⟨grown, ?_⟩
    -- what filled the buffer fills at most half of its successor
    show 0 < (pool.ensureCapacity b (b.capacity * 2)).1.free
    have := front.sized
    have := front.sound.fits
    unfold Buffer.length at free
    omega
  · rename_i room
    exact ⟨front, Nat.pos_of_ne_zero room⟩

theorem receive_spec (holds : Holds b data) (fits : more.length ≤ b.free) :
    Holds (receive b more) (data ++ more) where
  sound := Buffer.sound_advance_fill holds.sound ..
  sized := by
    unfold receive
    rw [Buffer.capacity_advance_fill holds.sound]
    exact holds.sized
  bytes := by
    rw [← holds.bytes]
    exact Buffer.readable_advance_fill holds.sound fits

theorem holds_consume (holds : Holds b data) {front left : Bytes} (split : data = front ++ left) :
    Holds (b.consume (b.length - left.length)) left where
  sound := Buffer.sound_consume holds.sound _
  sized := holds.sized
  bytes := by
    have size : b.length - left.length = front.length := by
      rw [holds.length_eq, split, List.length_append]
      omega
    rw [size, Buffer.readable_consume holds.sound, holds.bytes, split, List.drop_left]

theorem sound_keepRest (sound : pool.Sound) (b : Buffer) (split : Split) :
    (keepRest pool b split).2.Sound := by
  unfold keepRest
  dsimp only
  split
  · exact sound
  · split
    · exact Pool.sound_ensureCapacity sound _ _
    · exact sound
  · exact sound

/-- Behind its frames a buffer keeps the rest. -/
theorem keepRest_spec (sound : pool.Sound) (holds : Holds b data) (limit : Nat) :
    Holds (keepRest pool b (Split.ofBytes limit data)).1 (Split.ofBytes limit data).left := by
  have kept := holds_consume holds (cut_ofBytes limit data).whole
  unfold keepRest
  dsimp only
  generalize b.consume (b.length - (Split.ofBytes limit data).left.length) = b at kept
  split
  · show Holds (if b.isEmpty then b.clear else b) _
    split
    · rename_i empty
      have blank := Buffer.blank_clear b
      refine ⟨blank.sound, kept.sized, ?_⟩
      rw [blank.readable_eq, ← kept.bytes, eq_comm, ← List.length_eq_zero_iff,
        Buffer.length_readable kept.sound, Buffer.length, eq_of_beq empty, Nat.sub_self]
    · exact kept
  · rename_i frameLength _
    split
    · exact (holds_ensureCapacity sound kept frameLength).1
    · show Holds (if b.capacity < b.start + frameLength then b.compact else b) _
      split
      · exact kept.compact
      · exact kept
  · exact kept

theorem sound_shrink (sound : pool.Sound) (b : Buffer) : (shrink pool b).2.Sound := by
  unfold shrink
  split
  · exact sound
  · exact Pool.sound_recycle (Pool.allocate_spec sound pool.chunkSize).2.2 b

/-- Going back to a chunk keeps the bytes. -/
theorem shrink_spec (sound : pool.Sound) (holds : Holds b data) :
    Holds (shrink pool b).1 data := by
  unfold shrink
  split
  · exact holds
  · rename_i large
    simp only [Bool.or_eq_true, decide_eq_true_eq, not_or] at large
    obtain ⟨blank, size, -⟩ := Pool.allocate_spec sound pool.chunkSize
    have fits : b.readable.length ≤ pool.allocateChunk.1.capacity := by
      rw [Buffer.length_readable holds.sound]
      exact Nat.le_trans (Nat.le_of_not_lt large.2) size
    obtain ⟨bytes, chunk, capacity⟩ := Buffer.put_spec blank fits
    refine ⟨chunk, ?_, bytes.trans holds.bytes⟩
    show 1 ≤ (pool.allocateChunk.1.put b.readable).capacity
    rw [show (pool.allocateChunk.1.put b.readable).capacity = _ from capacity]
    exact Nat.le_trans sound.positive size

end Intake

/-! ## Turns -/

/-- The bytes that a reading task has in hand before it reads. One that waits has room for more. -/
def Reader.Holds : Reader → Bytes → Prop
  | .starting, data => data = []
  | .reading buffer, data => Intake.Holds buffer data
  | .waiting buffer, data => Intake.Holds buffer data ∧ 0 < buffer.free
  | _, _ => False

namespace Peer

variable {p : Peer} {room : Nat}

theorem read_of_arrived (arrived : p.incoming ≠ []) (positive : 0 < room) :
    p.read room =
        ({ p with incoming := p.incoming.drop room }, .bytes (p.incoming.take room)) ∧
      p.incoming.take room ≠ [] := by
  constructor
  · unfold read
    rw [if_pos arrived, if_neg (Nat.ne_of_gt positive)]
  · rw [Ne, List.take_eq_nil_iff]
    rintro (none | none)
    · omega
    · exact arrived none

theorem read_of_empty (empty : p.incoming = []) (room : Nat) :
    (∃ text, p.read room = ({ p with readError := none }, .failed text)) ∨
      p.read room = (p, .ended) ∨ p.read room = (p, .blocked) := by
  unfold read
  rw [if_neg (not_not_intro empty)]
  cases p.readError with
  | some text => exact .inl ⟨text, rfl⟩
  | none =>
    cases ended : p.ended with
    | true => exact .inr (.inl rfl)
    | false => exact .inr (.inr rfl)

end Peer

namespace Hub

variable {h : Hub} {place crew limit : Nat} {c : Connection} {reader : Reader} {b : Buffer}
  {data : Bytes}

/-- The bytes that have arrived at a connection and are not read yet. -/
def incoming (h : Hub) (place : Nat) : Bytes :=
  (h.connections[place]?).elim [] fun c => c.peer.incoming

/-- The readable bytes of a reading task's buffer. -/
def held (h : Hub) (place crew : Nat) : Option Bytes :=
  match (h.connections[place]?).bind fun c => c.readers[crew]? with
  | some .starting => some []
  | some (.reading buffer) | some (.waiting buffer) => some buffer.readable
  | _ => none

/-- The connection is open, has this limit, and has a reading task that has come this far. -/
structure Finds (h : Hub) (place crew limit : Nat) (c : Connection) (reader : Reader) : Prop where
  found : h.connections[place]? = some c
  task : c.readers[crew]? = some reader
  isOpen : c.closeReason = none
  limited : c.maxPacketSize = limit
  pool : h.pool.Sound

theorem Finds.incoming_eq (serves : h.Finds place crew limit c reader) :
    h.incoming place = c.peer.incoming := by
  unfold incoming
  rw [serves.found]
  rfl

theorem incoming_update (found : h.connections[place]? = some c) (f : Connection → Connection) :
    (h.update place f).incoming place = (f c).peer.incoming := by
  unfold incoming update
  rw [List.getElem?_modify_eq, found]
  rfl

theorem Finds.held_eq (serves : h.Finds place crew limit c reader)
    (holds : reader.Holds data) : h.held place crew = some data := by
  unfold held
  rw [serves.found, Option.bind_some, serves.task]
  cases reader with
  | starting => exact congrArg some (Eq.symm holds)
  | reading buffer => exact congrArg some holds.bytes
  | waiting buffer => exact congrArg some holds.1.bytes
  | stopping | leaving | finished => exact holds.elim

theorem Finds.set (serves : h.Finds place crew limit c reader) {k : Hub}
    (same : k.connections = h.connections) (pool : k.pool.Sound)
    {f : Connection → Connection} {next : Reader} (task : (f c).readers[crew]? = some next)
    (isOpen : (f c).closeReason = c.closeReason) (limited : (f c).maxPacketSize = c.maxPacketSize) :
    (k.update place f).Finds place crew limit (f c) next where
  found := by
    show (k.connections.modify place f)[place]? = some (f c)
    rw [same, List.getElem?_modify_eq, serves.found]
    rfl
  task := task
  isOpen := isOpen.trans serves.isOpen
  limited := limited.trans serves.limited
  pool := pool

theorem Finds.task_modify (serves : h.Finds place crew limit c reader) (next : Reader) :
    (c.readers.modify crew fun _ => next)[crew]? = some next := by
  rw [List.getElem?_modify_eq, serves.task]
  rfl

theorem Finds.resume (serves : h.Finds place crew limit c reader) {pool : Pool}
    (sound : pool.Sound) (b : Buffer) :
    ({ h with pool := pool }.update place (Connection.setReader · crew (.reading b))).Finds
      place crew limit (c.setReader crew (.reading b)) (.reading b) :=
  serves.set (k := { h with pool := pool }) rfl sound (serves.task_modify _) rfl rfl

/-- Some open connection with this limit has a reading task that has come this far. -/
def Serves (h : Hub) (place crew limit : Nat) (reader : Reader) : Prop :=
  ∃ c, h.Finds place crew limit c reader

/-- What a reading turn makes of the bytes in hand and of those that have arrived. -/
structure Takes (place crew limit : Nat) (data arrived : Bytes) (out : Hub × Turn) : Prop where
  /-- Some of them are read, and the frames are cut off. -/
  frames : arrived ≠ [] → ∃ more service b, more ≠ [] ∧
    arrived = more ++ out.1.incoming place ∧
    out.2 = .frames service (Split.ofBytes limit (data ++ more)) ∧
    out.1.Serves place crew limit (.reading b) ∧ Intake.Holds b (data ++ more)
  /-- There is room for what comes next. -/
  waits : out.2 = .wait →
    ∃ b, out.1.Serves place crew limit (.waiting b) ∧ Reader.Holds (.waiting b) data
  nothing : arrived = [] → ∀ service split, out.2 ≠ .frames service split

theorem readInto_spec (serves : h.Finds place crew limit c reader) (holds : Intake.Holds b data)
    (room : 0 < b.free) :
    Takes place crew limit data (h.incoming place) (h.readInto place crew c b) := by
  rw [serves.incoming_eq]
  by_cases arrived : c.peer.incoming = []
  · unfold readInto
    rcases Peer.read_of_empty arrived b.free with ⟨text, reading⟩ | reading | reading
    · rw [reading]
      exact ⟨fun some => absurd arrived some, by simp, fun _ => by simp⟩
    · rw [reading]
      exact ⟨fun some => absurd arrived some, by simp, fun _ => by simp⟩
    · rw [reading]
      refine ⟨fun some => absurd arrived some, fun _ => ?_, fun _ => by simp⟩
      have awaits : (c.await crew b).readers[crew]? = some (.waiting b) :=
        serves.task_modify (.waiting b)
      exact ⟨b, ⟨_, serves.set rfl serves.pool awaits rfl rfl⟩, holds, room⟩
  · obtain ⟨reading, taken⟩ := Peer.read_of_arrived arrived room
    have received : Intake.Holds (Intake.receive b (c.peer.incoming.take b.free))
        (data ++ c.peer.incoming.take b.free) :=
      Intake.receive_spec holds (List.length_take_le _ _)
    unfold readInto
    rw [reading]
    dsimp only
    rw [received.bytes, serves.limited]
    refine ⟨fun _ => ⟨_, c.service, _, taken, ?_, rfl, ?_, received⟩, by simp,
      fun none => absurd none arrived⟩
    · -- what is not taken is what still waits
      refine (List.take_append_drop b.free _).symm.trans (congrArg _ (Eq.symm ?_))
      exact incoming_update (c := c) serves.found _
    · refine ⟨_, serves.set ?_ ?_ ?_ ?_ ?_⟩
      · rfl
      · exact serves.pool
      · exact serves.task_modify _
      · rfl
      · rfl

/-- **Read.** A turn of a reading task that is about to read. -/
theorem read_spec (serves : h.Finds place crew limit c reader) (holds : reader.Holds data) :
    Takes place crew limit data (h.incoming place) (h.read place crew) := by
  have isOpen : c.isClosed = false := by
    simp [Connection.isClosed, serves.isOpen]
  -- A fresh buffer and one kept from before differ in where room is found, not in what follows.
  have readOn : ∀ {k : Hub} {b : Buffer}, k.Finds place crew limit c reader →
      Intake.Holds b data → k.connections = h.connections →
      Takes place crew limit data (h.incoming place) (k.readOn place crew c b) := by
    intro k b ready inHand same
    have sound := Intake.sound_makeRoom ready.pool b
    obtain ⟨inHand, room⟩ := Intake.makeRoom_spec ready.pool inHand
    have arrived : h.incoming place =
        Hub.incoming { k with pool := (Intake.makeRoom k.pool b).2 } place := by
      unfold incoming
      rw [same]
    unfold Hub.readOn
    rw [isOpen, arrived]
    exact readInto_spec ⟨ready.found, ready.task, ready.isOpen, ready.limited, sound⟩ inHand room
  unfold read
  rw [serves.found]
  dsimp only
  rw [serves.task]
  cases reader with
  | starting =>
    obtain ⟨blank, size, sound⟩ := Pool.allocate_spec serves.pool h.pool.chunkSize
    have empty : Intake.Holds h.pool.allocateChunk.1 data := by
      rw [show data = [] from holds]
      exact ⟨blank.sound, Nat.le_trans serves.pool.positive size, blank.readable_eq⟩
    exact readOn (k := { h with pool := h.pool.allocateChunk.2 })
      ⟨serves.found, serves.task, serves.isOpen, serves.limited, sound⟩ empty rfl
  | reading buffer => exact readOn serves holds rfl
  | waiting buffer => exact readInto_spec serves holds.1 holds.2
  | stopping | leaving | finished => exact holds.elim

/-- **Settle.** Behind the frames of a turn the task keeps the rest, or stops for a rest that
announces too much. -/
theorem settle_spec (serves : h.Finds place crew limit c (.reading b))
    (holds : Intake.Holds b data) :
    (∀ n, Exceeds limit (Split.ofBytes limit data).left n →
        (h.settle place crew (Split.ofBytes limit data)).2 = some (oversizedReason n limit)) ∧
      ((∀ n, ¬ Exceeds limit (Split.ofBytes limit data).left n) →
        (h.settle place crew (Split.ofBytes limit data)).2 = none ∧
          ∃ b', (h.settle place crew (Split.ofBytes limit data)).1.Serves place crew limit
              (.reading b') ∧
            Intake.Holds b' (Split.ofBytes limit data).left) := by
  have kept := Intake.keepRest_spec serves.pool holds limit
  have sound := Intake.sound_keepRest serves.pool b (Split.ofBytes limit data)
  unfold settle
  rw [serves.found]
  dsimp only
  rw [serves.task]
  dsimp only
  -- Only a length beyond the limit ends the run; a short header and a part of a frame both wait.
  cases rest : (Split.ofBytes limit data).rest with
  | oversized length =>
    have large := oversized_ofBytes_iff.mp rest
    constructor
    · intro n exceeds
      have same := rest.symm.trans (oversized_ofBytes_iff.mpr exceeds)
      rw [Rest.oversized.inj same, serves.limited]
    · intro within
      exact absurd large (within length)
  | short | part =>
    have within : ∀ n, ¬ Exceeds limit (Split.ofBytes limit data).left n := by
      intro n exceeds
      rw [oversized_ofBytes_iff.mpr exceeds] at rest
      simp at rest
    refine ⟨fun n exceeds => absurd exceeds (within n), fun _ => ⟨rfl, _, ?_, kept⟩⟩
    exact ⟨_, serves.resume sound _⟩

/-- **Shrink.** Giving up a larger buffer loses nothing. -/
theorem shrink_spec (serves : h.Finds place crew limit c (.reading b))
    (holds : Intake.Holds b data) :
    ∃ b', (h.shrink place crew).Serves place crew limit (.reading b') ∧
      Intake.Holds b' data := by
  have kept := Intake.shrink_spec serves.pool holds
  have sound := Intake.sound_shrink serves.pool b
  unfold shrink
  rw [serves.found]
  dsimp only
  rw [serves.task]
  dsimp only
  split
  · exact ⟨_, ⟨_, serves.resume sound _⟩, kept⟩
  · exact ⟨b, ⟨c, serves⟩, holds⟩

end Hub

end Transport

end AtomicCommit
