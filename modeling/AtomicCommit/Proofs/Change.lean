import AtomicCommit.Measure
import AtomicCommit.Proofs.Reading

/-!
# What a hub's steps do to a connection

A hub's steps are its operations, taken in any order by callers, tasks and peers. Each changes one
connection at most, and what it does to that one is a `Change`: the reading side is left to itself
but for the number of buffers it holds, and of the writing side, the `Outlet`, a change says
everything. A writing task that stops closes its connection before anyone else has a turn, and so
the two are one step here; what the task's turn does on its own is `Hub.Sends`.

* **balance** — the pool's count follows every buffer: `Change.balance`.
* **turns** — `send_cases`: a writing task goes on, or returns what it has in hand and leaves.
* **cases** — `move_cases`: a step changes nothing, opens a connection, uses the pool for a
  stranger, ends a writing task that has stopped, or makes one `Change`.
-/

namespace AtomicCommit

open Wire

namespace Transport

namespace Intake

theorem outstanding_makeRoom (pool : Pool) (b : Buffer) :
    (makeRoom pool b).2.outstanding = pool.outstanding := by
  unfold makeRoom
  dsimp only
  generalize (if b.free = 0 then b.compact else b) = b
  split
  · exact Pool.outstanding_ensureCapacity ..
  · rfl

theorem outstanding_keepRest (pool : Pool) (b : Buffer) (split : Split) :
    (keepRest pool b split).2.outstanding = pool.outstanding := by
  unfold keepRest
  dsimp only
  split
  · rfl
  · split
    · exact Pool.outstanding_ensureCapacity ..
    · rfl
  · rfl

theorem outstanding_shrink (pool : Pool) (b : Buffer) :
    (shrink pool b).2.outstanding = pool.outstanding := by
  unfold shrink
  split
  · rfl
  · show (pool.allocateChunk.2.recycle b).outstanding = pool.outstanding
    rw [Pool.outstanding_recycle, show pool.allocateChunk.2.outstanding = _ from
      Pool.outstanding_allocate pool pool.chunkSize]
    grind

end Intake

/-! ## Views -/

/-- How many buffers a reading task holds. -/
def Reader.buffers : Reader → Nat
  | .starting | .finished => 0
  | .reading _ | .waiting _ | .stopping _ | .leaving _ => 1

/-- The chunk that a writing task has in hand. -/
def Writer.hand : Writer → List Buffer
  | .sending chunk _ | .stopping chunk => [chunk]
  | .idle | .leaving | .finished => []

def Writer.chunks (w : Writer) : Nat := w.hand.length

/-- Whether a writing task was not told to stop. -/
def Writer.isActive : Writer → Bool
  | .idle | .sending _ _ => true
  | .stopping _ | .leaving | .finished => false

/-- The writing side of a connection. -/
structure Outlet where
  closed : Bool
  queue : List Buffer
  writers : List Writer
  /-- What the peer has taken. -/
  taken : Bytes
  outBytes : UInt64

namespace Connection

def outlet (c : Connection) : Outlet where
  closed := c.isClosed
  queue := c.queue
  writers := c.writers
  taken := c.peer.taken
  outBytes := c.outBytes

def readBuffers (c : Connection) : Nat :=
  total Reader.buffers c.readers

/-- How many buffers of the pool a connection has. -/
def holdings (c : Connection) : Nat :=
  c.readBuffers + c.queue.length + total Writer.chunks c.writers

end Connection

/-! ## Changes -/

/-- What is left of writing tasks of which one may be told to stop. -/
def CalledOff (before after : List Writer) : Prop :=
  after = before ∨ ∃ crew, after = before.modify crew Connection.stopWriter

/-- What a step does to a connection and the pool, and the bytes that it queues. -/
inductive Change (p : Pool) (c : Connection) : Bytes → Pool → Connection → Prop
  /-- Only the reading side changes. -/
  | aside {p' : Pool} {c' : Connection} (outlet : c'.outlet = c.outlet)
      (sound : p.Sound → p'.Sound)
      (counted : p'.outstanding + UInt64.ofNat c.readBuffers =
        p.outstanding + UInt64.ofNat c'.readBuffers) : Change p c [] p' c'
  /-- A crew joins. -/
  | join {c' : Connection} (outlet : c'.outlet = { c.outlet with writers := c.writers ++ [.idle] })
      (reads : c'.readBuffers = c.readBuffers) : Change p c [] p c'
  /-- Data is queued. -/
  | queue {c' : Connection} (data : Bytes) (isOpen : c.isClosed = false)
      (outlet : c'.outlet = { c.outlet with queue := c.queue ++ (p.pack data).1 })
      (reads : c'.readBuffers = c.readBuffers) : Change p c data (p.pack data).2 c'
  /-- A writing task takes a chunk. -/
  | take {c' : Connection} {crew : Nat} {chunk : Buffer} {queue : List Buffer}
      (idle : c.writers[crew]? = some .idle) (queued : c.queue = chunk :: queue)
      (outlet : c'.outlet = { c.outlet with
        queue := queue
        writers := c.writers.modify crew fun _ => .sending chunk 0 })
      (reads : c'.readBuffers = c.readBuffers) : Change p c [] p c'
  /-- A part of a chunk goes out. -/
  | pass {c' : Connection} {crew sent n : Nat} {chunk : Buffer}
      (hand : c.writers[crew]? = some (.sending chunk sent)) (short : sent + n < chunk.length)
      (outlet : c'.outlet = { c.outlet with
        writers := c.writers.modify crew fun _ => .sending chunk (sent + n)
        taken := c.peer.taken ++ (chunk.readable.drop sent).take n })
      (reads : c'.readBuffers = c.readBuffers) : Change p c [] p c'
  /-- The rest of a chunk goes out. -/
  | complete {c' : Connection} {crew sent n : Nat} {chunk : Buffer}
      (hand : c.writers[crew]? = some (.sending chunk sent)) (whole : chunk.length ≤ sent + n)
      (outlet : c'.outlet = { c.outlet with
        writers := c.writers.modify crew fun _ => .idle
        taken := c.peer.taken ++ (chunk.readable.drop sent).take n
        outBytes := c.outBytes + chunk.length.toUInt64 })
      (reads : c'.readBuffers = c.readBuffers) : Change p c [] (p.recycle chunk) c'
  /-- The connection is closed, perhaps once more. -/
  | close {c' : Connection} {writers : List Writer} (calledOff : CalledOff c.writers writers)
      (outlet : c'.outlet = { c.outlet with closed := true, queue := [], writers := writers })
      (reads : c'.readBuffers = c.readBuffers) : Change p c [] (p.recycleAll c.queue) c'
  /-- A writing task stops and closes the connection. -/
  | stop {c' : Connection} {crew : Nat} {w : Writer} {writers : List Writer}
      (hand : c.writers[crew]? = some w)
      (calledOff : CalledOff (c.writers.modify crew fun _ => .leaving) writers)
      (outlet : c'.outlet = { c.outlet with closed := true, queue := [], writers := writers })
      (reads : c'.readBuffers = c.readBuffers) : Change p c [] (p.recycleAll (w.hand ++ c.queue)) c'

/-- A writing task that has stopped ends. -/
structure Finishes (c c' : Connection) (crew : Nat) : Prop where
  leaving : c.writers[crew]? = some .leaving
  outlet : c'.outlet = { c.outlet with writers := c.writers.modify crew fun _ => .finished }
  reads : c'.readBuffers = c.readBuffers

theorem total_calledOff {before after : List Writer} (off : CalledOff before after) :
    total Writer.chunks after = total Writer.chunks before := by
  rcases off with rfl | ⟨crew, rfl⟩
  · rfl
  · apply total_modify_of_eq
    intro w
    cases w <;> rfl

/-- What a task has in hand counts as long as it does not change hands. -/
theorem total_modify_writer {writers : List Writer} {crew : Nat} {w : Writer}
    (hand : writers[crew]? = some w) (v : Writer) :
    total Writer.chunks (writers.modify crew fun _ => v) + w.chunks =
      total Writer.chunks writers + v.chunks :=
  total_modify hand

theorem Connection.holdings_eq (c : Connection) : c.holdings =
    c.readBuffers + c.outlet.queue.length + total Writer.chunks c.outlet.writers := rfl

/-- A count of what the pool handed out goes with a count of what is held. -/
theorem counted_of_held {out out' : UInt64} {returned held held' : Nat}
    (back : out' + UInt64.ofNat returned = out) (fewer : held' + returned = held) :
    out' + UInt64.ofNat held = out + UInt64.ofNat held' := by
  rw [← fewer, ← back, UInt64.ofNat_add]
  grind

/-- **Balance.** The pool counts as many buffers more as the connection has. -/
theorem Change.balance {p p' : Pool} {c c' : Connection} {data : Bytes}
    (change : Change p c data p' c') :
    p'.outstanding + UInt64.ofNat c.holdings = p.outstanding + UInt64.ofNat c'.holdings := by
  rw [c'.holdings_eq, c.holdings_eq]
  cases change with
  | aside outlet sound counted =>
    rw [outlet]
    simp only [UInt64.ofNat_add]
    grind
  | join outlet reads =>
    rw [outlet, reads]
    simp [Connection.outlet, Writer.chunks, Writer.hand]
  | queue data isOpen outlet reads =>
    rw [outlet, reads, Pool.outstanding_pack]
    simp only [Connection.outlet, List.length_append, UInt64.ofNat_add]
    grind
  | take idle queued outlet reads =>
    rename_i crew chunk queue
    -- a chunk that is taken up leaves the queue for a hand
    have hands := total_modify_writer idle (.sending chunk 0)
    simp only [Writer.chunks, Writer.hand, List.length_cons, List.length_nil] at hands
    rw [outlet, reads]
    simp only [Connection.outlet, queued, List.length_cons]
    congr 2
    omega
  | pass hand short outlet reads =>
    rename_i crew sent n chunk
    have hands := total_modify_writer hand (.sending chunk (sent + n))
    simp only [Writer.chunks, Writer.hand, List.length_cons, List.length_nil] at hands
    rw [outlet, reads]
    simp only [Connection.outlet]
    congr 2
    omega
  | complete hand whole outlet reads =>
    rename_i crew sent n chunk
    have hands := total_modify_writer hand .idle
    simp only [Writer.chunks, Writer.hand, List.length_cons, List.length_nil] at hands
    rw [outlet, reads]
    -- the chunk goes back to the pool
    refine counted_of_held (p.outstanding_recycle_add chunk) ?_
    simp only [Connection.outlet]
    omega
  | close calledOff outlet reads =>
    rw [outlet, reads]
    refine counted_of_held (Pool.outstanding_recycleAll p c.queue) ?_
    simp only [Connection.outlet, List.length_nil, total_calledOff calledOff]
    omega
  | stop hand calledOff outlet reads =>
    rename_i crew w writers
    have hands : total Writer.chunks (c.writers.modify crew fun _ => .leaving) + w.hand.length =
      total Writer.chunks c.writers := total_modify_writer hand .leaving
    rw [outlet, reads]
    refine counted_of_held (Pool.outstanding_recycleAll p _) ?_
    simp only [Connection.outlet, List.length_nil, total_calledOff calledOff, List.length_append]
    omega

/-- A task that ends has nothing in hand. -/
theorem Finishes.holdings_eq {c c' : Connection} {crew : Nat} (finishes : Finishes c c' crew) :
    c'.holdings = c.holdings := by
  have hands := total_modify_writer finishes.leaving .finished
  simp only [Writer.chunks, Writer.hand, List.length_nil] at hands
  rw [c'.holdings_eq, c.holdings_eq, finishes.outlet, finishes.reads]
  simp only [Connection.outlet]
  omega

namespace Hub

/-! ## Steps -/

/-- Whatever can be done to a hub. -/
inductive Move where
  | «open» (host : String) (port : UInt16) (maxPacketSize : Nat) (shrinks : Bool)
  | start (place : Nat)
  | serve (place : Nat) (service : Option Nat)
  | write (place : Nat) (data : Bytes)
  | close (place : Nat) (reason : String)
  /-- The peer of a connection does something. -/
  | act (place : Nat) (act : Peer.Act)
  | read (place crew : Nat)
  | settle (place crew : Nat) (split : Split)
  | shrink (place crew : Nat)
  | endReader (place crew : Nat)
  | send (place crew : Nat)
  | endWriter (place crew : Nat)
  /-- Somebody outside of the hub takes a buffer from its pool. -/
  | borrow (size : Nat)
  /-- Somebody outside of the hub hands the pool a buffer. -/
  | giveBack (buffer : Buffer)
  deriving DecidableEq, Repr

def Move.isForeign : Move → Bool
  | .borrow _ | .giveBack _ => true
  | _ => false

/-- What follows a turn of a writing task at once: if it stops, it closes the connection. -/
def carryOn (place : Nat) : Hub × Progress → Hub
  | (h, .fail reason) => (h.close place reason).1
  | (h, .leave) => (h.close place writerStopped).1
  | (h, .wait) | (h, .again) => h

def move (h : Hub) : Move → Hub
  | .open host port maxPacketSize shrinks => h.open host port maxPacketSize shrinks
  | .start place => (h.start place).1
  | .serve place service => h.update place fun c => { c with service := service }
  | .write place data => (h.write place data).1
  | .close place reason => (h.close place reason).1
  | .act place act => h.update place fun c => { c with peer := c.peer.act act }
  | .read place crew => (h.read place crew).1
  | .settle place crew split => (h.settle place crew split).1
  | .shrink place crew => h.shrink place crew
  | .endReader place crew => h.endReader place crew
  | .send place crew => carryOn place (h.send place crew)
  | .endWriter place crew => h.endWriter place crew
  | .borrow size => { h with pool := (h.pool.allocate size).2 }
  | .giveBack buffer => { h with pool := h.pool.recycle buffer }

def after (h : Hub) : List Move → Hub
  | [] => h
  | m :: rest => (h.move m).after rest

end Hub

/-! ## What each step does -/

/-- Nothing changes, or one connection does and nothing is queued. -/
inductive Hub.Alters (h k : Hub) : Prop
  | still (connections : k.connections = h.connections) (pool : k.pool = h.pool)
  | changed {place : Nat} {c : Connection} {f : Connection → Connection}
      (found : h.connections[place]? = some c)
      (connections : k.connections = h.connections.modify place f)
      (change : Change h.pool c [] k.pool (f c))

/-- A reading task goes on with another buffer, or with none. -/
theorem Change.of_reader {p p' : Pool} {c c' : Connection} {crew : Nat} {r r' : Reader}
    (task : c.readers[crew]? = some r) (readers : c'.readers = c.readers.modify crew fun _ => r')
    (outlet : c'.outlet = c.outlet) (sound : p.Sound → p'.Sound)
    (counted : p'.outstanding + UInt64.ofNat r.buffers =
      p.outstanding + UInt64.ofNat r'.buffers) : Change p c [] p' c' := by
  refine .aside outlet sound ?_
  have buffers : c'.readBuffers + r.buffers = c.readBuffers + r'.buffers := by
    unfold Connection.readBuffers
    rw [readers]
    exact total_modify task
  have words := congrArg UInt64.ofNat buffers
  simp only [UInt64.ofNat_add] at words
  grind

/-! ### Reading -/

theorem Peer.taken_read (p : Peer) (room : Nat) : (p.read room).1.taken = p.taken := by
  unfold read
  split
  · split <;> rfl
  · split <;> rfl

/-- What a peer takes, it has taken in order. -/
theorem Peer.taken_write {p p' : Peer} {data : Bytes} {n : Nat}
    (took : p.write data = (p', .ok n)) : p'.taken = p.taken ++ data.take n := by
  unfold write at took
  split at took
  · rename_i nothing
    obtain ⟨rfl, -⟩ := Prod.mk.inj took
    simp [nothing]
  · split at took
    · exact absurd (congrArg Prod.snd took) (by simp)
    · split at took
      · exact absurd (congrArg Prod.snd took) (by simp)
      · obtain ⟨rfl, count⟩ := Prod.mk.inj took
        obtain rfl := Except.ok.inj count
        simp [taken]

/-- The peer is another, but has taken the same. -/
theorem Connection.outlet_peer (c : Connection) {peer : Peer} (same : peer.taken = c.peer.taken) :
    { c with peer := peer }.outlet = c.outlet := by
  simp only [outlet, same]
  rfl

/-- A close leaves nothing queued, and calls off one task of each kind. -/
theorem Connection.close_spec (c : Connection) (reason : String) :
    CalledOff c.writers (c.close reason).writers ∧
      (c.close reason).outlet =
        { c.outlet with closed := true, queue := [], writers := (c.close reason).writers } ∧
      (c.close reason).readBuffers = c.readBuffers := by
  refine ⟨?_, ?_, ?_⟩
  · cases hs : c.stuck with
    | nil =>
      refine .inl ?_
      cases hw : c.waiting <;> simp [close, hs, hw]
    | cons crew stuck =>
      refine .inr ⟨crew, ?_⟩
      cases hw : c.waiting <;> simp [close, hs, hw]
  · cases hs : c.stuck <;> cases hw : c.waiting <;>
      simp [close, hs, hw, outlet, isClosed]
  · have stopped : ∀ crew, total Reader.buffers (c.readers.modify crew stopReader) =
        total Reader.buffers c.readers := by
      intro crew
      apply total_modify_of_eq
      intro r
      cases r <;> rfl
    unfold readBuffers
    cases hs : c.stuck <;> cases hw : c.waiting <;> simp [close, hs, hw, stopped]

namespace Hub

variable {h k : Hub} {place crew : Nat} {c : Connection} {r : Reader} {b : Buffer}

/-- A reading task that held as many buffers as it has handed over goes on with one. -/
theorem alters_readInto (found : h.connections[place]? = some c)
    (task : c.readers[crew]? = some r) (same : k.connections = h.connections)
    (sound : h.pool.Sound → k.pool.Sound)
    (counted : k.pool.outstanding + UInt64.ofNat r.buffers = h.pool.outstanding + 1) :
    h.Alters (k.readInto place crew c b).1 := by
  have taken := c.peer.taken_read b.free
  unfold readInto
  generalize c.peer.read b.free = out at taken
  obtain ⟨peer, reading⟩ := out
  have changes : ∀ {g : Hub} {f : Connection → Connection} {r' : Reader},
      g.connections = k.connections.modify place f → g.pool = k.pool →
      (f c).readers = c.readers.modify crew (fun _ => r') → (f c).outlet = c.outlet →
      r'.buffers = 1 → h.Alters g := by
    intro g f r' connections pool readers outlet one
    refine .changed found (same ▸ connections) (.of_reader task readers outlet ?_ ?_)
    · rw [pool]
      exact sound
    · rw [pool, one]
      exact counted
  -- in each case the task goes on with the buffer it has
  cases reading with
  | blocked => exact changes rfl rfl rfl rfl rfl
  | ended => exact changes rfl rfl rfl rfl rfl
  | failed text =>
    exact changes rfl rfl rfl (c.outlet_peer taken) rfl
  | bytes data =>
    exact changes rfl rfl rfl (c.outlet_peer taken) rfl

theorem alters_readOn (found : h.connections[place]? = some c)
    (task : c.readers[crew]? = some r) (same : k.connections = h.connections)
    (sound : h.pool.Sound → k.pool.Sound)
    (counted : k.pool.outstanding + UInt64.ofNat r.buffers = h.pool.outstanding + 1) :
    h.Alters (k.readOn place crew c b).1 := by
  unfold readOn
  split
  · refine .changed found (congrArg (List.modify · place _) same) (.of_reader task rfl rfl sound ?_)
    exact counted
  · have room := Intake.outstanding_makeRoom k.pool b
    refine alters_readInto (k := { k with pool := (Intake.makeRoom k.pool b).2 }) found task same
      (fun whole => Intake.sound_makeRoom (sound whole) b) ?_
    show (Intake.makeRoom k.pool b).2.outstanding + _ = _
    rw [room]
    exact counted

theorem alters_read (h : Hub) (place crew : Nat) : h.Alters (h.read place crew).1 := by
  unfold read
  split
  · exact .still rfl rfl
  · rename_i c found
    split
    · rename_i task
      refine alters_readOn (k := { h with pool := _ }) found task rfl ?_ ?_
      · exact fun sound => (Pool.allocate_spec sound h.pool.chunkSize).2.2
      · exact (UInt64.add_zero _).trans (Pool.outstanding_allocate h.pool h.pool.chunkSize)
    · rename_i task
      exact alters_readOn found task rfl id rfl
    · rename_i task
      exact alters_readInto found task rfl id rfl
    · rename_i task
      exact .changed found rfl (.of_reader task rfl rfl id rfl)
    · exact .still rfl rfl

theorem alters_settle (h : Hub) (place crew : Nat) (split : Split) :
    h.Alters (h.settle place crew split).1 := by
  unfold settle
  split
  · exact .still rfl rfl
  · rename_i c found
    split
    · rename_i buffer task
      have sound := fun (sound : h.pool.Sound) => Intake.sound_keepRest sound buffer split
      have counted := Intake.outstanding_keepRest h.pool buffer split
      dsimp only
      split
      · exact .changed found rfl (.of_reader task rfl rfl sound (congrArg (· + 1) counted))
      · exact .changed found rfl (.of_reader task rfl rfl sound (congrArg (· + 1) counted))
    · exact .still rfl rfl

theorem alters_shrink (h : Hub) (place crew : Nat) : h.Alters (h.shrink place crew) := by
  unfold shrink
  split
  · exact .still rfl rfl
  · rename_i c found
    split
    · rename_i buffer task
      split
      · have counted := Intake.outstanding_shrink h.pool buffer
        exact .changed found rfl (.of_reader task rfl rfl
          (fun sound => Intake.sound_shrink sound buffer) (congrArg (· + 1) counted))
      · exact .still rfl rfl
    · exact .still rfl rfl

theorem alters_endReader (h : Hub) (place crew : Nat) : h.Alters (h.endReader place crew) := by
  unfold endReader
  split
  · exact .still rfl rfl
  · rename_i c found
    split
    · rename_i buffer task
      refine .changed found rfl (.of_reader task rfl rfl
        (fun sound => Pool.sound_recycle sound buffer) ?_)
      show (h.pool.recycle buffer).outstanding + 1 = h.pool.outstanding + 0
      rw [Pool.outstanding_recycle]
      grind
    · exact .still rfl rfl

/-! ### Writing and closing -/

/-- A close of a connection, first or not. -/
theorem close_spec (found : h.connections[place]? = some c) (reason : String) :
    (h.close place reason).1.pool = h.pool.recycleAll c.queue ∧
      ∃ f writers, (h.close place reason).1.connections = h.connections.modify place f ∧
        CalledOff c.writers writers ∧
        (f c).outlet = { c.outlet with closed := true, queue := [], writers := writers } ∧
        (f c).readBuffers = c.readBuffers := by
  unfold close
  rw [found]
  dsimp only
  split
  · rename_i closed
    refine ⟨rfl, _, c.writers, rfl, .inl rfl, ?_, rfl⟩
    simp only [Connection.outlet, ← closed]
    rfl
  · obtain ⟨calledOff, outlet, reads⟩ := c.close_spec reason
    exact ⟨rfl, _, _, rfl, calledOff, outlet, reads⟩

theorem alters_close (h : Hub) (place : Nat) (reason : String) :
    h.Alters (h.close place reason).1 := by
  cases found : h.connections[place]? with
  | none =>
    unfold close
    rw [found]
    exact .still rfl rfl
  | some c =>
    obtain ⟨pool, f, writers, connections, calledOff, outlet, reads⟩ := close_spec found reason
    exact .changed found connections (pool ▸ .close calledOff outlet reads)

/-- A writing task that returns what it has in hand and leaves, and the close that follows. -/
theorem alters_stop {w : Writer} (found : h.connections[place]? = some c)
    (hand : c.writers[crew]? = some w) (returned : k.pool = h.pool.recycleAll w.hand)
    (left : k.connections = h.connections.modify place (Connection.setWriter · crew .leaving))
    (reason : String) : h.Alters (k.close place reason).1 := by
  have foundLeft : k.connections[place]? = some (c.setWriter crew .leaving) := by
    rw [left, List.getElem?_modify_eq, found]
    rfl
  obtain ⟨pool, f, writers, connections, calledOff, outlet, reads⟩ := close_spec foundLeft reason
  rw [left, List.modify_modify_eq] at connections
  refine .changed found connections ?_
  have everything : (k.close place reason).1.pool = h.pool.recycleAll (w.hand ++ c.queue) := by
    rw [pool, returned]
    exact List.foldl_append.symm
  rw [everything]
  exact .stop hand calledOff outlet reads

/-- What a turn of a writing task comes to. -/
inductive Sends (h : Hub) (place crew : Nat) (out : Hub × Progress) : Prop
  /-- It goes on or waits. -/
  | goesOn (alters : h.Alters out.1) (nothing : carryOn place out = out.1)
  /-- It returns what it has in hand and leaves, and is to close the connection. -/
  | stops {c : Connection} {w : Writer} (found : h.connections[place]? = some c)
      (hand : c.writers[crew]? = some w) (returned : out.1.pool = h.pool.recycleAll w.hand)
      (left : out.1.connections =
        h.connections.modify place (Connection.setWriter · crew .leaving))
      (reason : String) (closes : carryOn place out = (out.1.close place reason).1)

theorem sendChunk_cases {chunk : Buffer} {sent : Nat} (found : h.connections[place]? = some c)
    (hand : c.writers[crew]? = some (.sending chunk sent)) :
    h.Sends place crew (h.sendChunk place crew c chunk sent) := by
  unfold sendChunk
  cases out : c.peer.write (chunk.readable.drop sent) with
  | mk peer result =>
    cases result with
    | error text => exact .stops found hand rfl rfl _ rfl
    | ok n =>
      have taken : ∀ (writers : List Writer) (outBytes : UInt64),
          (⟨c.isClosed, c.queue, writers, peer.taken, outBytes⟩ : Outlet) =
            ⟨c.isClosed, c.queue, writers,
              c.peer.taken ++ (chunk.readable.drop sent).take n, outBytes⟩ :=
        fun _ _ => congrArg (Outlet.mk _ _ _ · _) (Peer.taken_write out)
      dsimp only
      split
      · rename_i whole
        refine .goesOn (.changed found rfl ?_) rfl
        exact .complete (n := n) hand whole (taken _ _) rfl
      · rename_i short
        refine .goesOn (.changed found rfl ?_) rfl
        exact .pass (n := n) hand (Nat.lt_of_not_le short) (taken _ _) rfl

/-- **Turns.** -/
theorem send_cases (h : Hub) (place crew : Nat) : h.Sends place crew (h.send place crew) := by
  unfold send
  cases found : h.connections[place]? with
  | none => exact .goesOn (.still rfl rfl) rfl
  | some c =>
    dsimp only
    split
    · rename_i hand
      exact sendChunk_cases found hand
    · rename_i hand
      exact .stops found hand rfl rfl _ rfl
    · rename_i idle queued
      exact .goesOn (.changed found rfl (.take idle queued rfl rfl)) rfl
    · rename_i idle queued
      split
      · exact .stops found idle rfl rfl _ rfl
      · split
        · exact .stops found idle rfl rfl _ rfl
        · exact .goesOn (.changed found rfl (.aside rfl id rfl)) rfl
    · exact .goesOn (.still rfl rfl) rfl

theorem alters_send (h : Hub) (place crew : Nat) :
    h.Alters (carryOn place (h.send place crew)) := by
  cases send_cases h place crew with
  | goesOn alters nothing =>
    rw [nothing]
    exact alters
  | stops found hand returned left reason closes =>
    rw [closes]
    exact alters_stop found hand returned left reason

/-- A connection that is not there is not changed. -/
theorem still_of_none (none : h.connections[place]? = none) (f : Connection → Connection) :
    h.Alters (h.update place f) := by
  refine .still ?_ rfl
  exact List.modify_eq_self (List.getElem?_eq_none_iff.mp none)

/-- What changes neither the writing side nor the reading tasks. -/
theorem alters_update (h : Hub) (place : Nat) {f : Connection → Connection}
    (outlet : ∀ c, (f c).outlet = c.outlet) (readers : ∀ c, (f c).readers = c.readers) :
    h.Alters (h.update place f) := by
  cases found : h.connections[place]? with
  | none => exact still_of_none found f
  | some c =>
    refine .changed found rfl (.aside (outlet c) id ?_)
    unfold Connection.readBuffers
    rw [readers]
    rfl

theorem alters_start (h : Hub) (place : Nat) : h.Alters (h.start place).1 := by
  unfold start
  split
  · exact .still rfl rfl
  · rename_i c found
    refine .changed found rfl (.join rfl ?_)
    show total Reader.buffers (c.readers ++ [.starting]) = total Reader.buffers c.readers
    simp [Reader.buffers]

/-! ### Every step -/

/-- The bytes that a step queues at a connection. -/
def queuedBy (h : Hub) (place : Nat) : Move → Bytes
  | .write p data =>
    if p = place ∧ (h.connections[p]?).isSome ∧ (h.write p data).2.isOk then data else []
  | _ => []

/-- What a step does to a hub. -/
inductive Shift (h : Hub) (m : Move) (k : Hub) : Prop
  | still (connections : k.connections = h.connections) (pool : k.pool = h.pool)
      (nothing : ∀ place, h.queuedBy place m = [])
  /-- A connection is opened. -/
  | opened {c : Connection} (connections : k.connections = h.connections ++ [c])
      (pool : k.pool = h.pool) (blank : c.outlet = ⟨false, [], [], [], 0⟩)
      (unread : c.readBuffers = 0) (nothing : ∀ place, h.queuedBy place m = [])
  | changed {place : Nat} {c : Connection} {f : Connection → Connection}
      (found : h.connections[place]? = some c)
      (connections : k.connections = h.connections.modify place f)
      (change : Change h.pool c (h.queuedBy place m) k.pool (f c))
      (elsewhere : ∀ other, other ≠ place → h.queuedBy other m = [])
  /-- A writing task ends. -/
  | ended {place crew : Nat} {c : Connection} {f : Connection → Connection}
      (ends : m = .endWriter place crew) (found : h.connections[place]? = some c)
      (connections : k.connections = h.connections.modify place f) (pool : k.pool = h.pool)
      (finishes : Finishes c (f c) crew)
  /-- Somebody outside of the hub uses the pool. -/
  | foreign (isForeign : m.isForeign = true) (connections : k.connections = h.connections)
      (sound : h.pool.Sound → k.pool.Sound) (nothing : ∀ place, h.queuedBy place m = [])

theorem Alters.shift {m : Move} (alters : h.Alters k) (nothing : ∀ place, h.queuedBy place m = []) :
    h.Shift m k := by
  cases alters with
  | still connections pool => exact .still connections pool nothing
  | changed found connections change =>
    exact .changed found connections ((nothing _).symm ▸ change) fun other _ => nothing other

theorem shift_write (h : Hub) (place : Nat) (data : Bytes) :
    h.Shift (.write place data) (h.write place data).1 := by
  cases found : h.connections[place]? with
  | none =>
    have same : (h.write place data).1 = h := by
      unfold write
      rw [found]
    rw [same]
    exact .still rfl rfl fun other => if_neg (by simp [found])
  | some c =>
    cases closed : c.isClosed with
    | true =>
      have refused : h.write place data = (h, .error c.closedFault) := by
        unfold write
        rw [found]
        exact if_pos closed
      rw [refused]
      exact .still rfl rfl fun other => if_neg (by simp [refused, Except.isOk, Except.toBool])
    | false =>
      have accepted : h.write place data = ({ h with pool := (h.pool.pack data).2 }.update place
          fun c => { c with
            queue := c.queue ++ (h.pool.pack data).1, idle := c.idle.drop 1 },
          .ok c.idle.head?) := by
        unfold write
        rw [found]
        simp [closed]
      have queued : h.queuedBy place (.write place data) = data :=
        if_pos (by simp [found, accepted, Except.isOk, Except.toBool])
      refine .changed found (congrArg (·.1.connections) accepted) ?_ ?_
      · rw [queued, accepted]
        exact .queue data closed rfl rfl
      · exact fun other different => if_neg fun here => different here.1.symm

theorem shift_endWriter (h : Hub) (place crew : Nat) :
    h.Shift (.endWriter place crew) (h.endWriter place crew) := by
  cases found : h.connections[place]? with
  | none => exact Alters.shift (still_of_none found _) fun _ => rfl
  | some c =>
    by_cases leaving : c.writers[crew]? = some .leaving
    · refine .ended rfl found rfl rfl ?_
      rw [if_pos leaving]
      exact ⟨leaving, rfl, rfl⟩
    · refine Alters.shift (.changed found rfl ?_) fun _ => rfl
      rw [if_neg leaving]
      exact .aside rfl id rfl

/-- **Cases.** -/
theorem move_cases (h : Hub) (m : Move) : h.Shift m (h.move m) := by
  cases m with
  | «open» host port maxPacketSize shrinks =>
    exact .opened rfl rfl rfl rfl fun _ => rfl
  | start place => exact (alters_start h place).shift fun _ => rfl
  | serve place service =>
    exact Alters.shift (alters_update h place (fun _ => rfl) fun _ => rfl) fun _ => rfl
  | write place data => exact shift_write h place data
  | close place reason => exact (alters_close h place reason).shift fun _ => rfl
  | act place act =>
    refine Alters.shift (alters_update h place (fun c => ?_) fun _ => rfl) fun _ => rfl
    exact c.outlet_peer (by cases act <;> rfl)
  | read place crew => exact (alters_read h place crew).shift fun _ => rfl
  | settle place crew split => exact (alters_settle h place crew split).shift fun _ => rfl
  | shrink place crew => exact (alters_shrink h place crew).shift fun _ => rfl
  | endReader place crew => exact (alters_endReader h place crew).shift fun _ => rfl
  | send place crew => exact (alters_send h place crew).shift fun _ => rfl
  | endWriter place crew => exact shift_endWriter h place crew
  | borrow size =>
    exact .foreign rfl rfl (fun sound => (Pool.allocate_spec sound size).2.2)
      fun _ => rfl
  | giveBack buffer =>
    exact .foreign rfl rfl (fun sound => Pool.sound_recycle sound buffer)
      fun _ => rfl

end Hub

end Transport

end AtomicCommit
