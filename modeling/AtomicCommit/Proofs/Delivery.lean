import AtomicCommit.Proofs.Reading

/-!
# Frames do not depend on how bytes arrive

`Course` is a run of one reading task while anything else goes on around it: its peer sends, others
write, and other tasks have their turns and share the pool of buffers. `Around` is what such things
have in common.

* **around** — nothing that others do disturbs the task: `around_peer`, `around_write`,
  `around_send`, `around_read`, `around_settle`, `around_shrink`.
* **step** — `Course.keeps`: what a task has handed over and what it has in hand are the cut of what
  it has read.
* **run** — `frames_do_not_depend_on_arrival`.
-/

namespace AtomicCommit

open Wire

namespace Transport

namespace Hub

variable {h : Hub} {place crew limit : Nat} {c : Connection} {reader : Reader} {b : Buffer}
  {data : Bytes}

/-! ## What goes on around a task -/

/-- A change that leaves a reading task alone and does not close its connection. -/
structure Around (place crew : Nat) (h k : Hub) : Prop where
  connection : ∀ {c}, h.connections[place]? = some c → ∃ c', k.connections[place]? = some c' ∧
    c'.readers[crew]? = c.readers[crew]? ∧ c'.closeReason = c.closeReason ∧
    c'.maxPacketSize = c.maxPacketSize
  pool : h.pool.Sound → k.pool.Sound

theorem Serves.around {k : Hub} (serves : h.Serves place crew limit reader)
    (around : Around place crew h k) : k.Serves place crew limit reader := by
  obtain ⟨c, finds⟩ := serves
  obtain ⟨c', found, task, isOpen, limited⟩ := around.connection finds.found
  exact ⟨c', found, task.trans finds.task, isOpen.trans finds.isOpen, limited.trans finds.limited,
    around.pool finds.pool⟩

/-- A connection changes, and another task of its own perhaps, but not this one. -/
theorem around_update {h k : Hub} {other : Nat} {f : Connection → Connection}
    (same : k.connections = h.connections.modify other f) (pool : h.pool.Sound → k.pool.Sound)
    (task : other = place → ∀ c, (f c).readers[crew]? = c.readers[crew]?)
    (isOpen : ∀ c, (f c).closeReason = c.closeReason)
    (limited : ∀ c, (f c).maxPacketSize = c.maxPacketSize) : Around place crew h k where
  connection := by
    intro c found
    by_cases here : other = place
    · refine ⟨f c, ?_, task here c, isOpen c, limited c⟩
      rw [same, here, List.getElem?_modify_eq, found]
      rfl
    · refine ⟨c, ?_, rfl, rfl, rfl⟩
      rw [same, List.getElem?_modify_ne _ _ here]
      exact found
  pool := pool

theorem around_refl (h : Hub) (place crew : Nat) : Around place crew h h :=
  ⟨fun {c} found => ⟨c, found, rfl, rfl, rfl⟩, id⟩

/-- What the peer of any connection does. -/
theorem around_peer (h : Hub) (place crew other : Nat) (act : Peer.Act) :
    Around place crew h (h.update other fun c => { c with peer := c.peer.act act }) :=
  around_update rfl id (fun _ _ => rfl) (fun _ => rfl) (fun _ => rfl)

/-- What is queued for any connection. -/
theorem around_write (h : Hub) (place crew other : Nat) (data : Bytes) :
    Around place crew h (h.write other data).1 := by
  unfold write
  split
  · exact around_refl h place crew
  · split
    · exact around_refl h place crew
    · exact around_update rfl (fun sound => Pool.sound_pack sound data) (fun _ _ => rfl)
        (fun _ => rfl) (fun _ => rfl)

/-- The turns of any writing task. -/
theorem around_send (h : Hub) (place crew other task : Nat) :
    Around place crew h (h.send other task).1 := by
  have changes : ∀ {k : Hub} {f : Connection → Connection},
      k.connections = h.connections.modify other f → (h.pool.Sound → k.pool.Sound) →
      (∀ c, (f c).readers = c.readers ∧ (f c).closeReason = c.closeReason ∧
        (f c).maxPacketSize = c.maxPacketSize) → Around place crew h k := by
    intro k f same pool kept
    exact around_update same pool (fun _ c => congrArg (·[crew]?) (kept c).1)
      (fun c => (kept c).2.1) (fun c => (kept c).2.2)
  have recycled := fun chunk (sound : h.pool.Sound) => Pool.sound_recycle sound chunk
  -- every branch leaves readers, reason and limit as they are, and only recycles
  unfold send
  split
  · exact around_refl h place crew
  · split
    · unfold sendChunk
      dsimp only
      split
      · exact changes rfl (recycled _) fun _ => ⟨rfl, rfl, rfl⟩
      · split
        · exact changes rfl (recycled _) fun _ => ⟨rfl, rfl, rfl⟩
        · exact changes rfl id fun _ => ⟨rfl, rfl, rfl⟩
    · exact changes rfl (recycled _) fun _ => ⟨rfl, rfl, rfl⟩
    · exact changes rfl id fun _ => ⟨rfl, rfl, rfl⟩
    · split
      · exact changes rfl id fun _ => ⟨rfl, rfl, rfl⟩
      · split
        · exact changes rfl id fun _ => ⟨rfl, rfl, rfl⟩
        · exact changes rfl id fun _ => ⟨rfl, rfl, rfl⟩
    · exact around_refl h place crew

section Others

variable {other task : Nat}

/-- The connection of another reading task changes in that task. -/
theorem around_task (different : other ≠ place ∨ task ≠ crew) {h k : Hub}
    {f : Connection → Connection} {r : Reader}
    (same : k.connections = h.connections.modify other f) (pool : h.pool.Sound → k.pool.Sound)
    (readers : ∀ c, (f c).readers = c.readers.modify task fun _ => r)
    (isOpen : ∀ c, (f c).closeReason = c.closeReason)
    (limited : ∀ c, (f c).maxPacketSize = c.maxPacketSize) : Around place crew h k := by
  refine around_update same pool ?_ isOpen limited
  intro here c
  rw [readers, List.getElem?_modify_ne _ _ (different.resolve_left (not_not_intro here))]

theorem around_readInto (different : other ≠ place ∨ task ≠ crew) {h k : Hub}
    (same : k.connections = h.connections) (pool : h.pool.Sound → k.pool.Sound)
    (c : Connection) (b : Buffer) : Around place crew h (k.readInto other task c b).1 := by
  have changes := fun {g : Hub} {f : Connection → Connection} {r : Reader}
      (became : g.connections = k.connections.modify other f) =>
    around_task different (h := h) (k := g) (r := r)
      (became.trans (congrArg (List.modify · other f) same))
  unfold readInto
  dsimp only
  split
  · exact changes rfl pool (fun _ => rfl) (fun _ => rfl) (fun _ => rfl)
  · exact changes rfl pool (fun _ => rfl) (fun _ => rfl) (fun _ => rfl)
  · exact changes rfl pool (fun _ => rfl) (fun _ => rfl) (fun _ => rfl)
  · exact changes rfl pool (fun _ => rfl) (fun _ => rfl) (fun _ => rfl)

theorem around_readOn (different : other ≠ place ∨ task ≠ crew) {h k : Hub}
    (same : k.connections = h.connections) (pool : h.pool.Sound → k.pool.Sound)
    (c : Connection) (b : Buffer) : Around place crew h (k.readOn other task c b).1 := by
  unfold readOn
  split
  · exact around_task different (congrArg (List.modify · other _) same) pool (fun _ => rfl)
      (fun _ => rfl) (fun _ => rfl)
  · have still (sound : h.pool.Sound) : (Intake.makeRoom k.pool b).2.Sound :=
      Intake.sound_makeRoom (pool sound) b
    exact around_readInto different (k := { k with pool := (Intake.makeRoom k.pool b).2 })
      same still c _

/-- The turns of another reading task that is about to read. -/
theorem around_read (different : other ≠ place ∨ task ≠ crew) (h : Hub) :
    Around place crew h (h.read other task).1 := by
  unfold read
  split
  · exact around_refl h place crew
  · split
    · have still (sound : h.pool.Sound) : h.pool.allocateChunk.2.Sound :=
        (Pool.allocate_spec sound h.pool.chunkSize).2.2
      exact around_readOn different (h := h) (k := { h with pool := h.pool.allocateChunk.2 })
        rfl still _ _
    · exact around_readOn different (k := h) rfl id _ _
    · exact around_readInto different (k := h) rfl id _ _
    · exact around_task different (k := h.update other _) rfl id (fun _ => rfl) (fun _ => rfl)
        (fun _ => rfl)
    · exact around_refl h place crew

/-- The turns of another reading task behind its frames. -/
theorem around_settle (different : other ≠ place ∨ task ≠ crew) (h : Hub) (split : Split) :
    Around place crew h (h.settle other task split).1 := by
  unfold settle
  split
  · exact around_refl h place crew
  · split
    · have sound := fun b (sound : h.pool.Sound) => Intake.sound_keepRest sound b split
      dsimp only
      split
      · exact around_task different rfl (sound _) (fun _ => rfl) (fun _ => rfl) (fun _ => rfl)
      · exact around_task different rfl (sound _) (fun _ => rfl) (fun _ => rfl) (fun _ => rfl)
    · exact around_refl h place crew

/-- The turns of another reading task that may give up its buffer for a chunk. -/
theorem around_shrink (different : other ≠ place ∨ task ≠ crew) (h : Hub) :
    Around place crew h (h.shrink other task) := by
  unfold shrink
  split
  · exact around_refl h place crew
  · split
    · split
      · exact around_task different rfl (fun sound => Intake.sound_shrink sound _)
          (fun _ => rfl) (fun _ => rfl) (fun _ => rfl)
      · exact around_refl h place crew
    · exact around_refl h place crew

end Others

/-! ## Runs -/

/-- What a reading task does next. -/
inductive Phase where
  | read
  | settle (split : Split)
  | shrink

/-- A run of one reading task of an open connection, with anything else going on around it: the hub
that it has led to, what the task does next, the bytes that it has read so far, and the frames that
it has handed over. -/
inductive Course (place crew limit : Nat) : Hub → Phase → Bytes → List Bytes → Prop where
  | start {h : Hub} (fresh : h.Serves place crew limit .starting) :
      Course place crew limit h .read [] []
  | around {h h' : Hub} {phase : Phase} {received : Bytes} {frames : List Bytes}
      (past : Course place crew limit h phase received frames) (around : Around place crew h h') :
      Course place crew limit h' phase received frames
  | wait {h h' : Hub} {received : Bytes} {frames : List Bytes}
      (past : Course place crew limit h .read received frames)
      (turn : h.read place crew = (h', .wait)) : Course place crew limit h' .read received frames
  | read {h h' : Hub} {received data : Bytes} {frames : List Bytes} {service : Option Nat}
      {split : Split} (past : Course place crew limit h .read received frames)
      (turn : h.read place crew = (h', .frames service split))
      (arrived : h.incoming place = data ++ h'.incoming place) :
      Course place crew limit h' (.settle split) (received ++ data) (frames ++ split.frames)
  | settle {h h' : Hub} {received : Bytes} {frames : List Bytes} {split : Split}
      (past : Course place crew limit h (.settle split) received frames)
      (turn : h.settle place crew split = (h', none)) :
      Course place crew limit h' .shrink received frames
  | shrink {h : Hub} {received : Bytes} {frames : List Bytes}
      (past : Course place crew limit h .shrink received frames) :
      Course place crew limit (h.shrink place crew) .read received frames

/-- What a reading task has in hand, in terms of what it has read and handed over. -/
def Keeps (place crew limit : Nat) (h : Hub) (received : Bytes) (frames : List Bytes) :
    Phase → Prop
  | .read => ∃ left reader, h.Serves place crew limit reader ∧ reader.Holds left ∧
      Cut limit received frames left ∧ ∀ n, ¬ Exceeds limit left n
  | .settle split => ∃ data b, h.Serves place crew limit (.reading b) ∧ Intake.Holds b data ∧
      split = Split.ofBytes limit data ∧ Cut limit received frames split.left
  | .shrink => ∃ left b, h.Serves place crew limit (.reading b) ∧ Intake.Holds b left ∧
      Cut limit received frames left ∧ ∀ n, ¬ Exceeds limit left n

theorem Course.keeps {phase : Phase} {received : Bytes} {frames : List Bytes}
    (course : Course place crew limit h phase received frames) :
    Keeps place crew limit h received frames phase := by
  induction course with
  | start fresh =>
    refine ⟨[], .starting, fresh, rfl, Cut.nil limit, ?_⟩
    rintro n ⟨header, parsed, -⟩
    simp [Header.parse] at parsed
  | around past around ih =>
    rename_i phase received frames
    cases phase with
    | read =>
      obtain ⟨left, reader, serves, rest⟩ := ih
      exact ⟨left, reader, serves.around around, rest⟩
    | settle split =>
      obtain ⟨data, b, serves, rest⟩ := ih
      exact ⟨data, b, serves.around around, rest⟩
    | shrink =>
      obtain ⟨left, b, serves, rest⟩ := ih
      exact ⟨left, b, serves.around around, rest⟩
  | wait past turn ih =>
    obtain ⟨left, reader, ⟨c, finds⟩, holds, cut⟩ := ih
    have takes := read_spec finds holds
    rw [turn] at takes
    obtain ⟨b, serves, inHand⟩ := takes.waits rfl
    exact ⟨left, .waiting b, serves, inHand, cut⟩
  | read past turn arrived ih =>
    rename_i h h' received data frames service split
    obtain ⟨left, reader, ⟨c, finds⟩, holds, cut, -⟩ := ih
    have takes := read_spec finds holds
    rw [turn] at takes
    have some : h.incoming place ≠ [] := fun none => takes.nothing none service split rfl
    obtain ⟨more, service', b, -, came, same, serves, inHand⟩ := takes.frames some
    obtain rfl : data = more := List.append_cancel_right (arrived.symm.trans came)
    obtain ⟨-, rfl⟩ := Turn.frames.inj same
    -- what is left of the bytes before is cut together with those that came
    exact ⟨left ++ data, b, serves, inHand, rfl, cut.extend (cut_ofBytes limit (left ++ data))⟩
  | settle past turn ih =>
    obtain ⟨data, b, ⟨c, finds⟩, holds, rfl, cut⟩ := ih
    obtain ⟨stops, goesOn⟩ := settle_spec finds holds
    rw [turn] at stops goesOn
    have within : ∀ n, ¬ Exceeds limit (Split.ofBytes limit data).left n := by
      intro n exceeds
      exact absurd (stops n exceeds) (by simp)
    obtain ⟨-, b', serves, inHand⟩ := goesOn within
    exact ⟨_, b', serves, inHand, cut, within⟩
  | shrink past ih =>
    obtain ⟨left, b, ⟨c, finds⟩, holds, cut⟩ := ih
    obtain ⟨b', serves, inHand⟩ := shrink_spec finds holds
    exact ⟨left, .reading b', serves, inHand, cut⟩

end Hub

end Transport

open Transport

/-- **Frames do not depend on how bytes arrive.** Whatever goes on around a reading task, and
however the bytes that it reads are cut into reads, the frames that it has handed over are the
complete ones at the front of all that it has read, and its buffer holds what is left of that. It
takes in what arrives, and stops for a rest that announces more than the limit, after the frames in
front of it. -/
theorem frames_do_not_depend_on_arrival {place crew limit : Nat} {h : Hub} {phase : Hub.Phase}
    {received : Bytes} {frames : List Bytes}
    (course : Hub.Course place crew limit h phase received frames) :
    ∃ left, Cut limit received frames left ∧
      match phase with
      | .read => h.held place crew = some left ∧ (∀ n, ¬ Exceeds limit left n) ∧
          (h.incoming place ≠ [] → ∃ h' service split data,
            h.read place crew = (h', .frames service split) ∧ data ≠ [] ∧
              h.incoming place = data ++ h'.incoming place)
      | .settle split => split.left = left ∧
          (∀ n, Exceeds limit left n →
            (h.settle place crew split).2 = some (Hub.oversizedReason n limit)) ∧
          ((∀ n, ¬ Exceeds limit left n) → (h.settle place crew split).2 = none)
      | .shrink => h.held place crew = some left ∧ ∀ n, ¬ Exceeds limit left n := by
  have keeps := course.keeps
  -- what the course keeps names the bytes left at each phase
  cases phase with
  | read =>
    obtain ⟨left, reader, ⟨c, finds⟩, holds, cut, within⟩ := keeps
    refine ⟨left, cut, finds.held_eq holds, within, ?_⟩
    intro waits
    obtain ⟨more, service, b, some, came, turn, -⟩ := (Hub.read_spec finds holds).frames waits
    exact ⟨_, service, _, more, Prod.ext rfl turn, some, came⟩
  | settle split =>
    obtain ⟨data, b, ⟨c, finds⟩, holds, rfl, cut⟩ := keeps
    obtain ⟨stops, goesOn⟩ := Hub.settle_spec finds holds
    exact ⟨_, cut, rfl, stops, fun within => (goesOn within).1⟩
  | shrink =>
    obtain ⟨left, b, ⟨c, finds⟩, holds, cut, within⟩ := keeps
    exact ⟨left, cut, finds.held_eq (show Reader.Holds (.reading b) left from holds), within⟩

namespace Sample

/-- A connection at which the first bytes of a frame of six have arrived, with chunks of four bytes
to read them into. -/
def arrivals : Hub where
  name := "sample"
  pool := Pool.new 2 4
  connections := [{
    id := 1, host := "a.db", port := 3306, maxPacketSize := 16, shrinks := true
    readers := [.starting]
    peer := { incoming := [2, 0, 0, 0] } }]

/-- The chunk is full of a part of the frame, and was kept for want of more. -/
def halfway : Hub :=
  ((arrivals.read 0 0).1.settle 0 0 ⟨[], [2, 0, 0, 0], .part 6⟩).1.shrink 0 0

/-- The rest of the frame arrives, and two bytes of the next one. -/
def fed : Hub :=
  halfway.update 0 fun c => { c with peer := c.peer.act (.send [7, 8, 1, 0]) }

def beyond : Hub :=
  ((fed.read 0 0).1.settle 0 0 ⟨[[2, 0, 0, 0, 7, 8]], [1, 0], .short⟩).1.shrink 0 0

end Sample

open Sample in
/-- The case of a frame that two reads bring, the second with the beginning of another. -/
theorem frame_of_two_reads :
    Cut 16 [2, 0, 0, 0, 7, 8, 1, 0] [[2, 0, 0, 0, 7, 8]] [1, 0] ∧
      beyond.held 0 0 = some [1, 0] := by
  have start : Hub.Course 0 0 16 arrivals .read [] [] :=
    .start ⟨_, rfl, rfl, rfl, rfl, Pool.sound_new 2 (by decide)⟩
  have first := Hub.Course.read start
    (show arrivals.read 0 0 = ((arrivals.read 0 0).1, .frames none ⟨[], [2, 0, 0, 0], .part 6⟩) by
      decide +kernel)
    (show arrivals.incoming 0 = [2, 0, 0, 0] ++ (arrivals.read 0 0).1.incoming 0 by decide +kernel)
  have second : Hub.Course 0 0 16 halfway .read [2, 0, 0, 0] [] :=
    (first.settle (Prod.ext rfl (by decide +kernel))).shrink
  have arrived : Hub.Course 0 0 16 fed .read [2, 0, 0, 0] [] :=
    second.around (Hub.around_peer halfway 0 0 0 _)
  have third := Hub.Course.read arrived
    (show fed.read 0 0 =
        ((fed.read 0 0).1, .frames none ⟨[[2, 0, 0, 0, 7, 8]], [1, 0], .short⟩) by
      decide +kernel)
    (show fed.incoming 0 = [7, 8, 1, 0] ++ (fed.read 0 0).1.incoming 0 by decide +kernel)
  have last : Hub.Course 0 0 16 beyond .read [2, 0, 0, 0, 7, 8, 1, 0] [[2, 0, 0, 0, 7, 8]] :=
    (third.settle (Prod.ext rfl (by decide +kernel))).shrink
  obtain ⟨left, cut, held, -⟩ := frames_do_not_depend_on_arrival last
  have bytes : beyond.held 0 0 = some [1, 0] := by decide +kernel
  obtain rfl : left = [1, 0] := Option.some.inj (held.symm.trans bytes)
  exact ⟨cut, held⟩

end AtomicCommit
