import AtomicCommit.Proofs.Capacity
import AtomicCommit.Proofs.Change
import AtomicCommit.Proofs.Delivery

/-!
# Room to read

A reading task never asks its socket for nothing, and no peer makes its buffer grow beyond what its
longest frame needs.

* **others** — `Hub.spares_move`: whatever else is done to a hub leaves the buffer of a task alone.
* **turns** — `Hub.ample_read`, `Hub.ample_settle` and `Hub.ample_shrink`: what one turn keeps.
* **run** — `Hub.Stint.ample`, and `reader_always_has_room`.
-/

namespace AtomicCommit

open Wire

namespace Transport

namespace Hub

variable {h k : Hub} {place crew chunk limit : Nat} {c : Connection} {r : Reader} {b : Buffer}

/-! ## Chunks of a hub -/

theorem pool_readInto (h : Hub) (place crew : Nat) (c : Connection) (b : Buffer) :
    (h.readInto place crew c b).1.pool = h.pool := by
  unfold readInto
  dsimp only
  split <;> rfl

theorem chunkSize_readOn (h : Hub) (place crew : Nat) (c : Connection) (b : Buffer) :
    (h.readOn place crew c b).1.pool.chunkSize = h.pool.chunkSize := by
  unfold readOn
  split
  · rfl
  · exact (congrArg Pool.chunkSize (pool_readInto ..)).trans
      (Intake.chunkSize_makeRoom h.pool b)

theorem chunkSize_read (h : Hub) (place crew : Nat) :
    (h.read place crew).1.pool.chunkSize = h.pool.chunkSize := by
  unfold read
  split
  · rfl
  · split
    · exact (chunkSize_readOn ..).trans (Pool.chunkSize_allocate h.pool h.pool.chunkSize)
    · exact chunkSize_readOn ..
    · exact congrArg Pool.chunkSize (pool_readInto ..)
    · rfl
    · rfl

theorem chunkSize_close (h : Hub) (place : Nat) (reason : String) :
    (h.close place reason).1.pool.chunkSize = h.pool.chunkSize := by
  unfold close
  split
  · rfl
  · dsimp only
    split <;> exact Pool.chunkSize_recycleAll ..

theorem chunkSize_send (h : Hub) (place crew : Nat) :
    (h.send place crew).1.pool.chunkSize = h.pool.chunkSize := by
  unfold send
  split
  · rfl
  · split
    · unfold sendChunk
      dsimp only
      split
      · exact Pool.chunkSize_recycle ..
      · split
        · exact Pool.chunkSize_recycle ..
        · rfl
    · exact Pool.chunkSize_recycle ..
    · rfl
    · split
      · rfl
      · split <;> rfl
    · rfl

/-- No step changes the size of the chunks. -/
theorem chunkSize_move (h : Hub) (m : Move) : (h.move m).pool.chunkSize = h.pool.chunkSize := by
  cases m with
  | «open» | serve | act | endWriter => rfl
  | start place =>
    show (h.start place).1.pool.chunkSize = _
    unfold start
    split <;> rfl
  | write place data =>
    show (h.write place data).1.pool.chunkSize = _
    unfold write
    split
    · rfl
    · split
      · rfl
      · exact Pool.chunkSize_pack ..
  | close place reason => exact chunkSize_close ..
  | read place crew => exact chunkSize_read ..
  | settle place crew split =>
    show (h.settle place crew split).1.pool.chunkSize = _
    unfold settle
    split
    · rfl
    · split
      · dsimp only
        split <;> exact Intake.chunkSize_keepRest ..
      · rfl
  | shrink place crew =>
    show (h.shrink place crew).pool.chunkSize = _
    unfold shrink
    split
    · rfl
    · split
      · split
        · exact Intake.chunkSize_shrink ..
        · rfl
      · rfl
  | endReader place crew =>
    show (h.endReader place crew).pool.chunkSize = _
    unfold endReader
    split
    · rfl
    · split
      · exact Pool.chunkSize_recycle ..
      · rfl
  | send place crew =>
    have sent := chunkSize_send h place crew
    show (carryOn place (h.send place crew)).pool.chunkSize = _
    cases out : h.send place crew with
    | mk k progress =>
      rw [out] at sent
      cases progress with
      | wait | again => exact sent
      | leave | fail => exact (chunkSize_close ..).trans sent
  | borrow size => exact Pool.chunkSize_allocate ..
  | giveBack buffer => exact Pool.chunkSize_recycle ..

end Hub

/-! ## What others do -/

/-- What becomes of a reading task without a turn of its own: it is told to stop while it waits, and
its buffer is returned for it when it has stopped. -/
inductive Reader.Lapses : Reader → Reader → Prop
  | same (r : Reader) : Lapses r r
  | stopped (b : Buffer) : Lapses (.waiting b) (.stopping b)
  | returned (b : Buffer) : Lapses (.leaving b) .finished

theorem Reader.Lapses.trans {r r' r'' : Reader} (first : r.Lapses r') (second : r'.Lapses r'') :
    r.Lapses r'' := by
  cases first with
  | same => exact second
  | stopped b =>
    cases second
    exact .stopped b
  | returned b =>
    cases second
    exact .returned b

theorem Reader.lapses_stopReader (r : Reader) : r.Lapses (Connection.stopReader r) := by
  cases r with
  | waiting b => exact .stopped b
  | starting | reading | stopping | leaving | finished => exact .same _

namespace Hub

variable {h k : Hub} {place crew chunk limit : Nat} {c : Connection} {r : Reader} {b : Buffer}

/-- A change that leaves a reading task to lapse at most. -/
structure Spares (place crew : Nat) (h k : Hub) : Prop where
  task : ∀ {c r}, h.connections[place]? = some c → c.readers[crew]? = some r →
    ∃ c' r', k.connections[place]? = some c' ∧ c'.readers[crew]? = some r' ∧ r.Lapses r' ∧
      c'.maxPacketSize = c.maxPacketSize
  pool : h.pool.Sound → k.pool.Sound

theorem Around.spares (around : Around place crew h k) : Spares place crew h k where
  task := by
    intro c r found task
    obtain ⟨c', found', same, -, limited⟩ := around.connection found
    exact ⟨c', r, found', same.trans task, .same r, limited⟩
  pool := around.pool

theorem Spares.trans {g : Hub} (first : Spares place crew g h) (second : Spares place crew h k) :
    Spares place crew g k where
  task := by
    intro c r found task
    obtain ⟨c', r', found', task', lapses, limited⟩ := first.task found task
    obtain ⟨c'', r'', found'', task'', lapses', limited'⟩ := second.task found' task'
    exact ⟨c'', r'', found'', task'', lapses.trans lapses', limited'.trans limited⟩
  pool := second.pool ∘ first.pool

/-- Some connection changes, and its reading tasks do not. -/
theorem spares_aside (h : Hub) (place crew other : Nat) {f : Connection → Connection}
    (kept : ∀ c, (f c).readers = c.readers ∧ (f c).closeReason = c.closeReason ∧
      (f c).maxPacketSize = c.maxPacketSize) : Spares place crew h (h.update other f) :=
  (around_update (k := h.update other f) rfl id (fun _ c => congrArg (·[crew]?) (kept c).1)
    (fun c => (kept c).2.1) fun c => (kept c).2.2).spares

/-- Some connection changes, and its reading tasks lapse at most. -/
theorem spares_update {other : Nat} {f : Connection → Connection}
    (found : h.connections[other]? = some c)
    (same : k.connections = h.connections.modify other f) (pool : h.pool.Sound → k.pool.Sound)
    (task : ∀ r, c.readers[crew]? = some r → ∃ r', (f c).readers[crew]? = some r' ∧ r.Lapses r')
    (limited : (f c).maxPacketSize = c.maxPacketSize) : Spares place crew h k where
  task := by
    intro c' r found' here
    by_cases there : other = place
    · subst there
      obtain rfl : c = c' := Option.some.inj (found.symm.trans found')
      obtain ⟨r', here', lapses⟩ := task r here
      refine ⟨f c, r', ?_, here', lapses, limited⟩
      rw [same, List.getElem?_modify_eq, found]
      rfl
    · refine ⟨c', r, ?_, here, .same r, rfl⟩
      rw [same, List.getElem?_modify_ne _ _ there]
      exact found'
  pool := pool

/-- A close stops one task that waits. -/
theorem lapses_close (c : Connection) (reason : String) (task : c.readers[crew]? = some r) :
    ∃ r', (c.close reason).readers[crew]? = some r' ∧ r.Lapses r' := by
  have readers : (c.close reason).readers = c.readers ∨
      ∃ first, (c.close reason).readers = c.readers.modify first Connection.stopReader := by
    unfold Connection.close
    dsimp only
    cases c.waiting with
    | nil =>
      left
      cases c.stuck <;> rfl
    | cons first rest =>
      refine .inr ⟨first, ?_⟩
      cases c.stuck <;> rfl
  rcases readers with same | ⟨first, stopped⟩
  · exact ⟨r, same ▸ task, .same r⟩
  · by_cases own : first = crew
    · refine ⟨Connection.stopReader r, ?_, r.lapses_stopReader⟩
      rw [stopped, own, List.getElem?_modify_eq, task]
      rfl
    · refine ⟨r, ?_, .same r⟩
      rw [stopped, List.getElem?_modify_ne _ _ own]
      exact task

theorem spares_close (h : Hub) (place crew other : Nat) (reason : String) :
    Spares place crew h (h.close other reason).1 := by
  unfold close
  split
  · exact (around_refl h place crew).spares
  · rename_i c found
    have pool := fun sound : h.pool.Sound => Pool.sound_recycleAll sound c.queue
    dsimp only
    split
    · exact spares_update found rfl pool (fun r task => ⟨r, task, .same r⟩) rfl
    · refine spares_update found rfl pool (fun r task => lapses_close c reason task) ?_
      unfold Connection.close
      dsimp only
      cases c.waiting <;> cases c.stuck <;> rfl

theorem spares_endReader (h : Hub) (place crew other task : Nat) :
    Spares place crew h (h.endReader other task) := by
  unfold endReader
  split
  · exact (around_refl h place crew).spares
  · rename_i c found
    split
    · rename_i buffer leaving
      refine spares_update found rfl (fun sound => Pool.sound_recycle sound buffer) ?_ rfl
      intro r here
      by_cases own : task = crew
      · subst own
        obtain rfl : r = .leaving buffer := Option.some.inj (here.symm.trans leaving)
        refine ⟨.finished, ?_, .returned buffer⟩
        show (c.readers.modify task fun _ => .finished)[task]? = _
        rw [List.getElem?_modify_eq, here]
        rfl
      · refine ⟨r, ?_, .same r⟩
        show (c.readers.modify task fun _ => .finished)[crew]? = _
        rw [List.getElem?_modify_ne _ _ own]
        exact here
    · exact (around_refl h place crew).spares

theorem spares_start (h : Hub) (place crew other : Nat) :
    Spares place crew h (h.start other).1 := by
  unfold start
  split
  · exact (around_refl h place crew).spares
  · rename_i c found
    refine spares_update found rfl id ?_ rfl
    intro r task
    refine ⟨r, ?_, .same r⟩
    show (c.readers ++ [.starting])[crew]? = _
    rw [List.getElem?_append_left (List.getElem?_eq_some_iff.mp task).1]
    exact task

theorem spares_open (h : Hub) (place crew : Nat) (host : String) (port : UInt16)
    (maxPacketSize : Nat) (shrinks : Bool) :
    Spares place crew h (h.open host port maxPacketSize shrinks) where
  task := by
    intro c r found task
    refine ⟨c, r, ?_, task, .same r, rfl⟩
    show (h.connections ++ [_])[place]? = _
    rw [List.getElem?_append_left (List.getElem?_eq_some_iff.mp found).1]
    exact found
  pool := id

/-- Whether this is a turn of the reading task. -/
def Move.isTurnOf (place crew : Nat) : Move → Bool
  | .read p c | .settle p c _ | .shrink p c => p == place && c == crew
  | _ => false

/-- **Others.** -/
theorem spares_move (h : Hub) {m : Move} (other : m.isTurnOf place crew = false) :
    Spares place crew h (h.move m) := by
  have different : ∀ {p c : Nat}, (p == place && c == crew) = false → p ≠ place ∨ c ≠ crew := by
    intro p c not
    simpa only [Bool.and_eq_false_iff, beq_eq_false_iff_ne] using not
  cases m with
  | «open» host port maxPacketSize shrinks => exact spares_open ..
  | start place => exact spares_start ..
  | serve p service => exact spares_aside h place crew p fun _ => ⟨rfl, rfl, rfl⟩
  | write p data => exact (around_write h place crew p data).spares
  | close p reason => exact spares_close h place crew p reason
  | act p act => exact spares_aside h place crew p fun _ => ⟨rfl, rfl, rfl⟩
  | read p task => exact (around_read (different other) h).spares
  | settle p task split => exact (around_settle (different other) h split).spares
  | shrink p task => exact (around_shrink (different other) h).spares
  | endReader p task => exact spares_endReader h place crew p task
  | send p task =>
    -- a task that stops closes the connection, and that spares the readers too
    have sent := (around_send h place crew p task).spares
    show Spares place crew h (carryOn p (h.send p task))
    cases out : h.send p task with
    | mk k progress =>
      rw [out] at sent
      cases progress with
      | wait | again => exact sent
      | leave | fail => exact sent.trans (spares_close k place crew p _)
  | endWriter p task =>
    refine spares_aside h place crew p fun c => ?_
    split <;> exact ⟨rfl, rfl, rfl⟩
  | borrow size =>
    exact ⟨fun found task => ⟨_, _, found, task, .same _, rfl⟩,
      fun sound => (Pool.allocate_spec sound size).2.2⟩
  | giveBack buffer =>
    exact ⟨fun found task => ⟨_, _, found, task, .same _, rfl⟩,
      fun sound => Pool.sound_recycle sound buffer⟩

/-! ## Turns -/

/-- What is known of the buffer of a reading task that has come this far. -/
def Provides (chunk limit : Nat) : Phase → Reader → Prop
  | .read, .starting | .read, .finished => True
  | .read, .reading b => Intake.Ready chunk limit b
  | .read, .waiting b => Intake.Sized chunk limit b ∧ 0 < b.free
  | .read, .stopping b | .read, .leaving b => Intake.Sized chunk limit b
  | .settle split, .reading b =>
    Intake.Sized chunk limit b ∧ split = Split.ofBytes limit b.readable
  | .shrink, .reading b => Intake.Ready chunk limit b
  | _, _ => False

theorem Provides.lapse {phase : Phase} {r' : Reader} (provides : Provides chunk limit phase r)
    (lapses : r.Lapses r') : Provides chunk limit phase r' := by
  cases lapses with
  | same => exact provides
  | stopped b =>
    cases phase with
    | read => exact provides.1
    | settle | shrink => exact provides.elim
  | returned b =>
    cases phase with
    | read => trivial
    | settle | shrink => exact provides.elim

/-- A reading task of a connection with this limit, at a pool with chunks of this size. -/
structure Seats (h : Hub) (place crew chunk limit : Nat) (c : Connection) (r : Reader) :
    Prop where
  found : h.connections[place]? = some c
  task : c.readers[crew]? = some r
  limited : c.maxPacketSize = limit
  sound : h.pool.Sound
  chunked : h.pool.chunkSize = chunk

theorem Seats.set {f : Connection → Connection} {next : Reader}
    (seats : h.Seats place crew chunk limit c r)
    (same : k.connections = h.connections.modify place f) (sound : k.pool.Sound)
    (chunked : k.pool.chunkSize = chunk)
    (readers : (f c).readers = c.readers.modify crew fun _ => next)
    (limited : (f c).maxPacketSize = c.maxPacketSize) :
    k.Seats place crew chunk limit (f c) next where
  found := by
    rw [same, List.getElem?_modify_eq, seats.found]
    rfl
  task := by
    rw [readers, List.getElem?_modify_eq, seats.task]
    rfl
  limited := limited.trans seats.limited
  sound := sound
  chunked := chunked

/-- A reading task that has come this far, with a buffer that provides for what comes next. -/
def Ample (place crew chunk limit : Nat) (h : Hub) (phase : Phase) : Prop :=
  ∃ c r, h.Seats place crew chunk limit c r ∧ Provides chunk limit phase r

theorem Ample.spared {phase : Phase} (ample : Ample place crew chunk limit h phase)
    (spares : Spares place crew h k) (chunked : k.pool.chunkSize = h.pool.chunkSize) :
    Ample place crew chunk limit k phase := by
  obtain ⟨c, r, seats, provides⟩ := ample
  obtain ⟨c', r', found, task, lapses, limited⟩ := spares.task seats.found seats.task
  exact ⟨c', r', ⟨found, task, limited.trans seats.limited, spares.pool seats.sound,
    chunked.trans seats.chunked⟩, provides.lapse lapses⟩

/-- What a reading task does behind a turn in which it was about to read. -/
def Turn.next : Turn → Phase
  | .frames _ split => .settle split
  | .wait | .leave | .fail _ => .read

/-- What it does behind its frames, unless it stops for a reason. -/
def settled : Option String → Phase
  | none => .shrink
  | some _ => .read

theorem ample_leave (seats : h.Seats place crew chunk limit c r)
    (sized : Intake.Sized chunk limit b) :
    Ample place crew chunk limit (h.update place (Connection.setReader · crew (.leaving b)))
      .read :=
  ⟨_, .leaving b, seats.set rfl seats.sound seats.chunked rfl rfl, sized⟩

theorem ample_readInto (seats : h.Seats place crew chunk limit c r)
    (sized : Intake.Sized chunk limit b) (room : 0 < b.free) :
    Ample place crew chunk limit (h.readInto place crew c b).1
      (h.readInto place crew c b).2.next := by
  unfold readInto
  cases out : c.peer.read b.free with
  | mk peer reading =>
    cases reading with
    | blocked =>
      exact ⟨_, .waiting b, seats.set rfl seats.sound seats.chunked rfl rfl, sized, room⟩
    | ended => exact ample_leave seats sized
    | failed text =>
      exact ⟨_, .leaving b, seats.set rfl seats.sound seats.chunked rfl rfl, sized⟩
    | bytes data =>
      refine ⟨_, .reading (Intake.receive b data),
        seats.set rfl seats.sound seats.chunked rfl rfl, ?_, ?_⟩
      · exact Intake.receive_sized sized _
      · rw [seats.limited]

/-- A task with a buffer in hand makes room in it, unless the connection is closed. -/
theorem ample_readOn (seats : h.Seats place crew chunk limit c r)
    (ready : Intake.Ready chunk limit b) :
    Ample place crew chunk limit (h.readOn place crew c b).1
      (h.readOn place crew c b).2.next := by
  unfold readOn
  split
  · exact ample_leave seats ready.toSized
  · obtain ⟨found, task, limited, sound, rfl⟩ := seats
    obtain ⟨sized, room⟩ := Intake.makeRoom_sized sound ready
    exact ample_readInto ⟨found, task, limited, Intake.sound_makeRoom sound b,
      Intake.chunkSize_makeRoom h.pool b⟩ sized room

/-- **Read.** -/
theorem ample_read (ample : Ample place crew chunk limit h .read) :
    Ample place crew chunk limit (h.read place crew).1 (h.read place crew).2.next := by
  obtain ⟨c, r, seats, provides⟩ := id ample
  unfold read
  rw [seats.found]
  dsimp only
  rw [seats.task]
  cases r with
  | starting =>
    obtain ⟨found, task, limited, sound, rfl⟩ := seats
    exact ample_readOn ⟨found, task, limited, (Pool.allocate_spec sound _).2.2,
      Pool.chunkSize_allocate ..⟩ (Intake.ready_allocateChunk sound limit)
  | reading b => exact ample_readOn seats provides
  | waiting b => exact ample_readInto seats provides.1 provides.2
  | stopping b => exact ample_leave seats provides
  | leaving | finished => exact ample

/-- **Settle.** -/
theorem ample_settle {split : Split} (ample : Ample place crew chunk limit h (.settle split)) :
    Ample place crew chunk limit (h.settle place crew split).1
      (settled (h.settle place crew split).2) := by
  obtain ⟨c, r, seats, provides⟩ := ample
  cases r with
  | reading b =>
    obtain ⟨sized, rfl⟩ := provides
    obtain ⟨found, task, limited, sound, rfl⟩ := id seats
    have whole := Intake.sound_keepRest sound b (Split.ofBytes limit b.readable)
    have chunked := Intake.chunkSize_keepRest h.pool b (Split.ofBytes limit b.readable)
    obtain ⟨sized', ready⟩ := Intake.keepRest_ready sound sized
    unfold settle
    rw [found]
    dsimp only
    rw [task]
    dsimp only
    cases rest : (Split.ofBytes limit b.readable).rest with
    | oversized n => exact ⟨_, .leaving _, seats.set rfl whole chunked rfl rfl, sized'⟩
    | short | part =>
      exact ⟨_, .reading _, seats.set rfl whole chunked rfl rfl, ready fun n => by simp [rest]⟩
  | starting | waiting | stopping | leaving | finished => exact provides.elim

/-- **Shrink.** -/
theorem ample_shrink (ample : Ample place crew chunk limit h .shrink) :
    Ample place crew chunk limit (h.shrink place crew) .read := by
  obtain ⟨c, r, seats, provides⟩ := ample
  cases r with
  | reading b =>
    obtain ⟨found, task, limited, sound, rfl⟩ := id seats
    unfold shrink
    rw [found]
    dsimp only
    rw [task]
    dsimp only
    split
    · exact ⟨_, .reading _, seats.set rfl (Intake.sound_shrink sound b)
        (Intake.chunkSize_shrink h.pool b) rfl rfl, Intake.shrink_ready sound provides⟩
    · exact ⟨c, .reading b, seats, provides⟩
  | starting | waiting | stopping | leaving | finished => exact provides.elim

/-! ## Runs -/

/-- A run of one reading task, with anything else going on around it, closes included. Whether a
larger buffer is to be given up is decided by a timer, and may change at any time. -/
inductive Stint (place crew chunk limit : Nat) : Hub → Phase → Prop where
  | start {h : Hub} {c : Connection} (fresh : h.Seats place crew chunk limit c .starting) :
      Stint place crew chunk limit h .read
  | others {h : Hub} {phase : Phase} {m : Move} (past : Stint place crew chunk limit h phase)
      (other : m.isTurnOf place crew = false) : Stint place crew chunk limit (h.move m) phase
  | timer {h : Hub} {phase : Phase} (past : Stint place crew chunk limit h phase)
      (other : Nat) (shrinks : Bool) :
      Stint place crew chunk limit (h.update other fun c => { c with shrinks := shrinks }) phase
  | read {h : Hub} (past : Stint place crew chunk limit h .read) :
      Stint place crew chunk limit (h.read place crew).1 (h.read place crew).2.next
  | settle {h : Hub} {split : Split} (past : Stint place crew chunk limit h (.settle split)) :
      Stint place crew chunk limit (h.settle place crew split).1
        (settled (h.settle place crew split).2)
  | shrink {h : Hub} (past : Stint place crew chunk limit h .shrink) :
      Stint place crew chunk limit (h.shrink place crew) .read

theorem Stint.ample {phase : Phase} (stint : Stint place crew chunk limit h phase) :
    Ample place crew chunk limit h phase := by
  induction stint with
  | start fresh => exact ⟨_, .starting, fresh, trivial⟩
  | others past other ih => exact ih.spared (spares_move _ other) (chunkSize_move _ _)
  | timer past other shrinks ih =>
    exact ih.spared (spares_aside _ _ _ other fun _ => ⟨rfl, rfl, rfl⟩) rfl
  | read past ih => exact ample_read ih
  | settle past ih => exact ample_settle ih
  | shrink past ih => exact ample_shrink ih

/-! ## Socket reads -/

/-- The socket read that the next turn of a reading task makes, if it makes one: the buffer that is
read into, and the pool at that moment. -/
def socketRead? (h : Hub) (place crew : Nat) : Option (Buffer × Pool) :=
  match h.connections[place]? with
  | none => none
  | some c =>
    match c.readers[crew]? with
    | some .starting =>
      if c.isClosed then none
      else some (Intake.makeRoom h.pool.allocateChunk.2 h.pool.allocateChunk.1)
    | some (.reading b) => if c.isClosed then none else some (Intake.makeRoom h.pool b)
    | some (.waiting b) => some (b, h.pool)
    | _ => none

/-- A turn is its socket read, or comes to nothing that was read. -/
theorem read_of_socketRead (found : h.connections[place]? = some c) :
    match h.socketRead? place crew with
    | some (b, pool) => h.read place crew = { h with pool := pool }.readInto place crew c b
    | none => (h.read place crew).2 = .leave ∨ (h.read place crew).2 = .wait := by
  unfold socketRead? read
  rw [found]
  dsimp only
  cases c.readers[crew]? with
  | none => exact .inr rfl
  | some r =>
    cases r with
    | starting | reading =>
      dsimp only [readOn]
      by_cases closed : c.isClosed = true
      · rw [if_pos closed, if_pos closed]
        exact .inl rfl
      · rw [if_neg closed, if_neg closed]
    | waiting => rfl
    | stopping => exact .inl rfl
    | leaving | finished => exact .inr rfl

theorem Ample.socketRead {pool : Pool} (ample : Ample place crew chunk limit h .read)
    (reads : h.socketRead? place crew = some (b, pool)) :
    Intake.Sized chunk limit b ∧ 0 < b.free := by
  obtain ⟨c, r, ⟨found, task, limited, sound, chunked⟩, provides⟩ := ample
  -- whatever buffer the task begins with, it makes room before it reads
  have roomy : ∀ {pool' : Pool} {b' : Buffer}, pool'.Sound → pool'.chunkSize = chunk →
      Intake.Ready chunk limit b' → Intake.makeRoom pool' b' = (b, pool) →
      Intake.Sized chunk limit b ∧ 0 < b.free := by
    rintro pool' b' sound rfl ready made
    have spec := Intake.makeRoom_sized sound ready
    rwa [made] at spec
  unfold socketRead? at reads
  rw [found] at reads
  dsimp only at reads
  rw [task] at reads
  cases r with
  | starting =>
    obtain ⟨-, same⟩ := Option.ite_none_left_eq_some.mp reads
    exact roomy (Pool.allocate_spec sound _).2.2 ((Pool.chunkSize_allocate ..).trans chunked)
      (chunked ▸ Intake.ready_allocateChunk sound limit) (Option.some.inj same)
  | reading b' =>
    obtain ⟨-, same⟩ := Option.ite_none_left_eq_some.mp reads
    exact roomy sound chunked provides (Option.some.inj same)
  | waiting b' =>
    obtain ⟨rfl, -⟩ := Prod.mk.inj (Option.some.inj reads)
    exact provides
  | stopping | leaving | finished => simp at reads

end Hub

/-- The buffer that a reading task has in hand. -/
def Reader.buffer? : Reader → Option Buffer
  | .starting | .finished => none
  | .reading b | .waiting b | .stopping b | .leaving b => some b

theorem Hub.Provides.sized {chunk limit : Nat} : {phase : Hub.Phase} → {r : Reader} →
    {b : Buffer} → Hub.Provides chunk limit phase r → r.buffer? = some b →
    Intake.Sized chunk limit b
  | .read, .reading _, _, ready, rfl | .shrink, .reading _, _, ready, rfl => ready.toSized
  | .read, .waiting _, _, provides, rfl | .settle _, .reading _, _, provides, rfl => provides.1
  | .read, .stopping _, _, sized, rfl | .read, .leaving _, _, sized, rfl => sized

/-- With room, only an end looks like an end. -/
theorem Peer.ended_of_read {p : Peer} {room : Nat} (positive : 0 < room)
    (ended : (p.read room).2 = .ended) : p.incoming = [] ∧ p.ended = true := by
  unfold Peer.read at ended
  split at ended
  · rw [if_neg (Nat.ne_of_gt positive)] at ended
    simp at ended
  · rename_i arrived
    refine ⟨Decidable.not_not.mp arrived, ?_⟩
    split at ended
    · simp at ended
    · by_cases finished : p.ended = true
      · exact finished
      · simp [finished] at ended

end Transport

open Transport

/-- **The reader always has room, and its buffer is bounded.** Whatever a peer sends, however its
bytes are cut into reads, whatever the timer decides and whatever else happens, the buffer that a
reading task has in hand is never larger than two chunks or the longest frame. When the task is
about to read, its next turn either makes no socket read or makes one into a buffer of such a size
that has at least one byte free, so that only the end of the stream looks like an end. -/
theorem reader_always_has_room {place crew chunk limit : Nat} {h : Hub} {phase : Hub.Phase}
    (stint : Hub.Stint place crew chunk limit h phase) :
    ∃ c r, h.connections[place]? = some c ∧ c.readers[crew]? = some r ∧
      (∀ b, r.buffer? = some b → b.capacity ≤ max (2 * chunk) (limit + 4)) ∧
      (phase = .read →
        match h.socketRead? place crew with
        | some (b, pool) =>
          h.read place crew = { h with pool := pool }.readInto place crew c b ∧ 0 < b.free ∧
            b.capacity ≤ max (2 * chunk) (limit + 4) ∧
            ((c.peer.read b.free).2 = .ended → c.peer.incoming = [] ∧ c.peer.ended = true)
        | none => (h.read place crew).2 = .leave ∨ (h.read place crew).2 = .wait) := by
  have ample := stint.ample
  obtain ⟨c, r, seats, provides⟩ := id ample
  refine ⟨c, r, seats.found, seats.task, fun b inHand => (provides.sized inHand).most, ?_⟩
  rintro rfl
  have turn := @Hub.read_of_socketRead h place crew c seats.found
  -- whether the turn gets as far as the socket
  cases reads : h.socketRead? place crew with
  | none =>
    rw [reads] at turn
    exact turn
  | some read =>
    obtain ⟨b, pool⟩ := read
    rw [reads] at turn
    obtain ⟨sized, room⟩ := ample.socketRead reads
    exact ⟨turn, room, sized.most, Peer.ended_of_read room⟩

open Sample in
/-- The case of a task that was made to go back to a chunk, which is full of the beginning of a
frame. -/
theorem full_chunk_is_doubled :
    ∃ b pool, halfway.socketRead? 0 0 = some (b, pool) ∧ b.capacity = 8 ∧ 0 < b.free := by
  have first : (arrivals.read 0 0).2 = .frames none ⟨[], [2, 0, 0, 0], .part 6⟩ := by
    decide +kernel
  have settled : ((arrivals.read 0 0).1.settle 0 0 ⟨[], [2, 0, 0, 0], .part 6⟩).2 = none := by
    decide +kernel
  have begun : Hub.Stint 0 0 4 16 (arrivals.read 0 0).1 (arrivals.read 0 0).2.next :=
    .read (.start ⟨rfl, rfl, rfl, Pool.sound_new 2 (by decide), rfl⟩)
  rw [first] at begun
  have kept := begun.settle
  rw [settled] at kept
  have stint : Hub.Stint 0 0 4 16 halfway .read := kept.shrink
  obtain ⟨c, r, -, -, -, reads⟩ := reader_always_has_room stint
  have size : (halfway.socketRead? 0 0).map (·.1.capacity) = some 8 := by decide +kernel
  obtain ⟨⟨b, pool⟩, read, capacity⟩ := Option.map_eq_some_iff.mp size
  have roomy := reads rfl
  rw [read] at roomy
  exact ⟨b, pool, read, capacity, roomy.2.1⟩

end AtomicCommit
