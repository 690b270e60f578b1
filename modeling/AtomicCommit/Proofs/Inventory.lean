import AtomicCommit.Proofs.Change

/-!
# Where the buffers of a pool are

Every buffer that a pool has handed out is in the hands of a reading task, in the hands of a writing
task, or queued. A yard is a hub whose users and tasks interrupt each other: a write call queues its
data chunk by chunk, and looks at the end whether the connection is still open; a close marks the
connection first, and then returns what is queued chunk by chunk; and a writing task that stops
closes its connection only at its end. Others have their turns in between.

* **calls** — `Yard.write_in_steps`, `Yard.close_in_steps`: a call or a close that nobody
  interrupts does what `Hub.write` or `Hub.close` does.
* **step** — `Yard.Kept.move`: a step returns exactly the buffers that it takes away from a
  connection, and once a writing task has closed its connection at its end, a call under way is all
  that can leave a queue there.
* **run** — `Yard.Kept.after`, and `Yard.Kept.nothing_held` for the end.
-/

namespace AtomicCommit

open Wire

namespace Transport

/-! ## Calls and closes, step by step -/

namespace Hub

/-- Queue the first chunk of the data. -/
def push (h : Hub) (place : Nat) (data : Bytes) : Hub :=
  match h.connections[place]? with
  | none => h
  | some _ =>
    let (chunk, pool) := h.pool.allocateChunk
    { h with pool := pool }.update place fun c =>
      { c with queue := c.queue ++ [chunk.put (data.take (max h.pool.chunkSize 1))] }

/-- The end of a write call. If the connection was closed meanwhile, what is queued is returned. -/
def checkOut (h : Hub) (place : Nat) : Hub × Except Fault (Option Nat) :=
  match h.connections[place]? with
  | none => (h, .ok none)
  | some c =>
    if c.isClosed then
      ({ h with pool := h.pool.recycleAll c.queue }.update place fun c => { c with queue := [] },
        .error c.closedFault)
    else (h.update place fun c => { c with idle := c.idle.drop 1 }, .ok c.idle.head?)

/-- The first part of a close: what is queued is still there. -/
def shut (h : Hub) (place : Nat) (reason : String) : Hub :=
  match h.connections[place]? with
  | none => h
  | some c =>
    if c.isClosed then h
    else { (h.close place reason).1 with pool := h.pool }.update place fun d =>
      { d with queue := c.queue }

/-- Return the first chunk that is queued at a closed connection. -/
def drain (h : Hub) (place : Nat) : Hub :=
  match h.connections[place]? with
  | none => h
  | some c =>
    match c.isClosed, c.queue with
    | true, chunk :: queue =>
      { h with pool := h.pool.recycle chunk }.update place fun c => { c with queue := queue }
    | _, _ => h

/-- Stop a writing task of a closed connection. The word of a close waits for a task that takes a
chunk only after it. -/
def halt (h : Hub) (place crew : Nat) : Hub :=
  h.update place fun c =>
    if c.isClosed then { c with writers := c.writers.modify crew Connection.stopWriter } else c

/-- The end of a writing task that stopped. Whatever stopped it, it closes the connection. -/
def finish (h : Hub) (place crew : Nat) : Hub :=
  match h.connections[place]? with
  | none => h
  | some c =>
    if c.writers[crew]? = some .leaving then (h.close place writerStopped).1.endWriter place crew
    else h

/-- A step of the hub, but nothing follows a turn of a writing task at once. -/
def step (h : Hub) : Move → Hub
  | .send place crew => (h.send place crew).1
  | .endWriter place crew => h.finish place crew
  | m => h.move m

end Hub

/-- A write call under way. -/
structure Call where
  place : Nat
  /-- What is not queued yet. -/
  left : Bytes
  deriving DecidableEq, Repr

/-- A hub, and the write calls under way. -/
structure Yard where
  hub : Hub
  calls : List Call := []
  deriving DecidableEq, Repr

namespace Yard

/-- What can happen between two looks at the pool. -/
inductive Move where
  /-- A step of the hub. -/
  | hub (m : Hub.Move)
  /-- A write call begins, unless the connection is closed. -/
  | call (place : Nat) (data : Bytes)
  /-- A call queues its next chunk. -/
  | push (call : Nat)
  /-- A call with nothing left to queue ends. -/
  | checkOut (call : Nat)
  /-- A close begins. -/
  | shut (place : Nat) (reason : String)
  /-- Somebody who closes a connection returns a chunk. -/
  | drain (place : Nat)
  /-- A writing task with a chunk in hand notices a close. -/
  | halt (place crew : Nat)
  deriving DecidableEq, Repr

def Move.isForeign : Move → Bool
  | .hub m => m.isForeign
  | _ => false

def move (y : Yard) : Move → Yard
  | .hub m => { y with hub := y.hub.step m }
  | .call place data =>
    match y.hub.connections[place]? with
    | none => y
    | some c => if c.isClosed then y else { y with calls := y.calls ++ [⟨place, data⟩] }
  | .push k =>
    match y.calls[k]? with
    | none => y
    | some ⟨_, []⟩ => y
    | some ⟨place, left⟩ => {
      hub := y.hub.push place left
      calls := y.calls.set k ⟨place, left.drop (max y.hub.pool.chunkSize 1)⟩ }
  | .checkOut k =>
    match y.calls[k]? with
    | some ⟨place, []⟩ => { hub := (y.hub.checkOut place).1, calls := y.calls.eraseIdx k }
    | _ => y
  | .shut place reason => { y with hub := y.hub.shut place reason }
  | .drain place => { y with hub := y.hub.drain place }
  | .halt place crew => { y with hub := y.hub.halt place crew }

def after (y : Yard) : List Move → Yard
  | [] => y
  | m :: rest => (y.move m).after rest

end Yard

/-! ## Changes again -/

section Changes

variable {p p' : Pool} {c c' : Connection} {data : Bytes}

theorem mem_modify_const {α : Type} {l : List α} {i : Nat} {a b : α}
    (here : b ∈ l.modify i fun _ => a) : b = a ∨ b ∈ l := by
  obtain ⟨j, found⟩ := List.mem_iff_getElem?.mp here
  rw [List.getElem?_modify] at found
  obtain ⟨old, there, became⟩ := Option.map_eq_some_iff.mp found
  split at became
  · exact .inl became.symm
  · exact .inr (became ▸ List.mem_of_getElem? there)

/-- Once a writing task has ended, the connection is closed, and nothing is queued unless somebody
is busy with it. -/
def Outlet.Cleared (o : Outlet) (busy : Prop) : Prop :=
  Writer.finished ∈ o.writers → o.closed = true ∧ (¬busy → o.queue = [])

theorem Outlet.Cleared.mono {o : Outlet} {busy busy' : Prop} (cleared : o.Cleared busy)
    (more : busy → busy') : o.Cleared busy' :=
  fun ended => ⟨(cleared ended).1, fun free => (cleared ended).2 fun here => free (more here)⟩

/-- Only at its own end is a writing task over. -/
theorem Outlet.Cleared.modify {o : Outlet} {busy : Prop} (cleared : o.Cleared busy) (crew : Nat)
    {v : Writer} (on : v ≠ .finished) :
    { o with writers := o.writers.modify crew fun _ => v }.Cleared busy := by
  intro ended
  rcases mem_modify_const ended with same | before
  · exact absurd same.symm on
  · exact cleared before

theorem CalledOff.finished {before after : List Writer} (off : CalledOff before after)
    (ended : Writer.finished ∈ after) : Writer.finished ∈ before := by
  rcases off with rfl | ⟨crew, rfl⟩
  · exact ended
  · obtain ⟨i, there⟩ := List.mem_iff_getElem?.mp ended
    rw [List.getElem?_modify] at there
    obtain ⟨w, found, stopped⟩ := Option.map_eq_some_iff.mp there
    have same : w = .finished := by
      split at stopped
      · cases w <;> first | rfl | exact absurd stopped (by simp [Connection.stopWriter])
      · exact stopped
    exact same ▸ List.mem_of_getElem? found

/-- A change leaves a connection cleared. -/
theorem Change.cleared {busy : Prop} (change : Change p c data p' c')
    (cleared : c.outlet.Cleared busy) : c'.outlet.Cleared busy := by
  cases change with
  | aside outlet =>
    rw [outlet]
    exact cleared
  | join outlet =>
    rw [outlet]
    intro ended
    exact cleared ((List.mem_append.mp ended).resolve_right (by simp))
  | queue data isOpen outlet =>
    rw [outlet]
    intro ended
    exact absurd (isOpen.symm.trans (cleared ended).1) Bool.false_ne_true
  | take idle queued outlet reads =>
    rename_i crew chunk queue
    rw [outlet]
    intro ended
    have on : Writer.sending chunk 0 ≠ .finished := by simp
    -- what is taken up was queued, so somebody was busy with the queue
    obtain ⟨closed, empty⟩ := cleared.modify crew on ended
    exact ⟨closed, fun free => absurd (queued.symm.trans (empty free)) (by simp)⟩
  | pass hand short outlet =>
    rw [outlet]
    exact cleared.modify _ (by simp)
  | complete hand whole outlet =>
    rw [outlet]
    exact cleared.modify _ (by simp)
  | close calledOff outlet | stop hand calledOff outlet =>
    rw [outlet]
    exact fun _ => ⟨rfl, fun _ => rfl⟩

end Changes

/-! ## What is kept -/

namespace Hub

variable {h k : Hub} {place : Nat} {c : Connection} {f : Connection → Connection}

/-- How many buffers of the pool all connections have: the read buffers of reading tasks, the chunks
queued, and those in the hands of writing tasks. -/
def holdings (h : Hub) : Nat :=
  total Connection.holdings h.connections

/-- The pool counts what the connections have. -/
def Balanced (h : Hub) : Prop :=
  h.pool.outstanding = UInt64.ofNat h.holdings

theorem Balanced.changed (balanced : h.Balanced) (found : h.connections[place]? = some c)
    (connections : k.connections = h.connections.modify place f)
    (balance : k.pool.outstanding + UInt64.ofNat c.holdings =
      h.pool.outstanding + UInt64.ofNat (f c).holdings) : k.Balanced := by
  have together : k.holdings + c.holdings = h.holdings + (f c).holdings := by
    unfold holdings
    rw [connections]
    exact total_modify found
  have words := congrArg UInt64.ofNat together
  simp only [UInt64.ofNat_add] at words
  unfold Balanced at balanced ⊢
  grind

end Hub

namespace Hub

variable {h : Hub} {place : Nat} {c : Connection}

/-- One chunk more is queued, whether the connection is closed or not. -/
theorem push_spec (found : h.connections[place]? = some c) (data : Bytes) :
    h.push place data = { h with pool := h.pool.allocateChunk.2 }.update place fun c =>
      { c with queue := c.queue ++
        [h.pool.allocateChunk.1.put (data.take (max h.pool.chunkSize 1))] } := by
  unfold push
  rw [found]

theorem push_of_none (nowhere : h.connections[place]? = none) (data : Bytes) :
    h.push place data = h := by
  unfold push
  rw [nowhere]

theorem checkOut_of_none (nowhere : h.connections[place]? = none) :
    h.checkOut place = (h, .ok none) := by
  unfold checkOut
  rw [nowhere]

theorem checkOut_of_closed (found : h.connections[place]? = some c) (closed : c.isClosed = true) :
    h.checkOut place = ({ h with pool := h.pool.recycleAll c.queue }.update place fun c =>
      { c with queue := [] }, .error c.closedFault) := by
  unfold checkOut
  rw [found]
  exact if_pos closed

theorem checkOut_of_open (found : h.connections[place]? = some c) (isOpen : c.isClosed = false) :
    h.checkOut place =
      (h.update place fun c => { c with idle := c.idle.drop 1 }, .ok c.idle.head?) := by
  unfold checkOut
  rw [found]
  simp [isOpen]

theorem shut_of_open (found : h.connections[place]? = some c) (isOpen : c.isClosed = false)
    (reason : String) : h.shut place reason =
      { (h.close place reason).1 with pool := h.pool }.update place fun d =>
        { d with queue := c.queue } := by
  unfold shut
  rw [found]
  simp [isOpen]

/-- Only an open connection is shut. -/
theorem shut_cases (h : Hub) (place : Nat) (reason : String) : h.shut place reason = h ∨
    ∃ c, h.connections[place]? = some c ∧ c.isClosed = false := by
  unfold shut
  split
  · exact .inl rfl
  · rename_i c found
    split
    · exact .inl rfl
    · rename_i isOpen
      exact .inr ⟨c, found, by simpa using isOpen⟩

/-- A connection that is shut is closed, and keeps its queue. -/
theorem shut_spec (found : h.connections[place]? = some c) (isOpen : c.isClosed = false)
    (reason : String) :
    (h.shut place reason).pool = h.pool ∧
      ∃ f writers, (h.shut place reason).connections = h.connections.modify place f ∧
        CalledOff c.writers writers ∧
        (f c).outlet = { c.outlet with closed := true, writers := writers } ∧
        (f c).readBuffers = c.readBuffers := by
  obtain ⟨-, f, writers, connections, calledOff, outlet, reads⟩ := close_spec found reason
  rw [shut_of_open found isOpen]
  refine ⟨rfl, fun d => { f d with queue := c.queue }, writers, ?_, calledOff, ?_, reads⟩
  · show List.modify (h.close place reason).1.connections place _ = _
    rw [connections, List.modify_modify_eq]
    rfl
  · exact congrArg (fun o : Outlet => { o with queue := c.queue }) outlet

/-- To change a connection into itself is to change nothing. -/
theorem update_self {f : Connection → Connection} (found : h.connections[place]? = some c)
    (same : f c = c) : h.update place f = h := by
  have unchanged : h.connections.modify place f = h.connections := by
    apply List.ext_getElem?
    intro i
    by_cases here : place = i
    · subst here
      rw [List.getElem?_modify_eq, found]
      exact congrArg some same
    · rw [List.getElem?_modify_ne _ _ here]
  unfold update
  rw [unchanged]

theorem drain_spec (found : h.connections[place]? = some c) (closed : c.isClosed = true)
    {chunk : Buffer} {queue : List Buffer} (queued : c.queue = chunk :: queue) :
    h.drain place = { h with pool := h.pool.recycle chunk }.update place fun c =>
      { c with queue := queue } := by
  unfold drain
  rw [found]
  simp [closed, queued]

end Hub

namespace Yard

variable {y : Yard} {place k : Nat} {c : Connection}

/-- The places of the connections that are being written to. -/
def places (y : Yard) : List Nat :=
  y.calls.map Call.place

/-- What holds of a yard whose pool nobody else uses. -/
structure Kept (y : Yard) : Prop where
  balanced : y.hub.Balanced
  /-- Where a writing task has ended, only a call under way leaves a queue. -/
  cleared : ∀ (place : Nat) (c : Connection), y.hub.connections[place]? = some c →
    c.outlet.Cleared (place ∈ y.places)

/-- One connection changes, and calls end there only. -/
theorem Kept.changed (kept : y.Kept) {z : Yard} {f : Connection → Connection}
    (found : y.hub.connections[place]? = some c)
    (connections : z.hub.connections = y.hub.connections.modify place f)
    (balance : z.hub.pool.outstanding + UInt64.ofNat c.holdings =
      y.hub.pool.outstanding + UInt64.ofNat (f c).holdings)
    (cleared : (f c).outlet.Cleared (place ∈ z.places))
    (elsewhere : ∀ other, other ≠ place → other ∈ y.places → other ∈ z.places) : z.Kept := by
  refine ⟨kept.balanced.changed found connections balance, ?_⟩
  intro other d there
  rw [connections] at there
  by_cases same : other = place
  · subst same
    rw [List.getElem?_modify_eq, found] at there
    obtain rfl := Option.some.inj there
    exact cleared
  · rw [List.getElem?_modify_ne _ _ (Ne.symm same)] at there
    exact (kept.cleared other d there).mono (elsewhere other same)

theorem Kept.still (kept : y.Kept) {z : Yard} (connections : z.hub.connections = y.hub.connections)
    (pool : z.hub.pool = y.hub.pool) (calls : ∀ place ∈ y.places, place ∈ z.places) : z.Kept := by
  refine ⟨?_, ?_⟩
  · unfold Hub.Balanced Hub.holdings
    rw [connections, pool]
    exact kept.balanced
  · intro place c found
    exact (kept.cleared place c (connections ▸ found)).mono (calls place)

/-- A connection is opened. -/
theorem Kept.opened (kept : y.Kept) {k : Hub}
    (connections : k.connections = y.hub.connections ++ [c]) (pool : k.pool = y.hub.pool)
    (blank : c.outlet = ⟨false, [], [], [], 0⟩) (unread : c.readBuffers = 0) :
    Kept ⟨k, y.calls⟩ := by
  refine ⟨?_, ?_⟩
  · have empty : c.holdings = 0 := by
      rw [c.holdings_eq, blank, unread]
      rfl
    unfold Hub.Balanced Hub.holdings
    rw [connections, pool, total_append, total_cons, empty]
    exact kept.balanced
  · intro place d found
    have found : (y.hub.connections ++ [c])[place]? = some d := connections ▸ found
    rw [List.getElem?_append] at found
    split at found
    · exact kept.cleared place d found
    · obtain rfl := List.mem_singleton.mp (List.mem_of_getElem? found)
      rw [blank]
      exact fun none => absurd none List.not_mem_nil

theorem Kept.alters (kept : y.Kept) {k : Hub} (alters : y.hub.Alters k) : Kept ⟨k, y.calls⟩ := by
  cases alters with
  | still connections pool => exact kept.still connections pool fun _ => id
  | changed found connections change =>
    exact kept.changed found connections change.balance
      (change.cleared (kept.cleared _ _ found)) fun _ _ => id

/-- A step keeps what holds, as long as a writing task ends on a connection that is closed with
nothing queued. -/
theorem Kept.shift (kept : y.Kept) {m : Hub.Move} {k : Hub} (shift : y.hub.Shift m k)
    (own : m.isForeign = false)
    (ends : ∀ place crew c, m = .endWriter place crew → y.hub.connections[place]? = some c →
      c.isClosed = true ∧ c.queue = []) : Kept ⟨k, y.calls⟩ := by
  cases shift with
  | still connections pool nothing => exact kept.still connections pool fun _ => id
  | opened connections pool blank unread nothing =>
    exact kept.opened connections pool blank unread
  | changed found connections change elsewhere =>
    exact kept.changed found connections change.balance
      (change.cleared (kept.cleared _ _ found)) fun _ _ => id
  | ended isEnd found connections pool finishes =>
    refine kept.changed found connections ?_ ?_ fun _ _ => id
    · rw [finishes.holdings_eq, pool]
    · obtain ⟨closed, empty⟩ := ends _ _ _ isEnd found
      rw [finishes.outlet]
      exact fun _ => ⟨closed, fun _ => empty⟩
  | foreign isForeign => exact absurd (own.symm.trans isForeign) Bool.false_ne_true

/-- A turn of a writing task. -/
theorem Kept.send (kept : y.Kept) (place crew : Nat) :
    Kept ⟨(y.hub.send place crew).1, y.calls⟩ := by
  cases Hub.send_cases y.hub place crew with
  | goesOn alters nothing => exact kept.alters alters
  | stops found hand returned left reason closes =>
    rename_i c w
    refine kept.changed found left ?_ ?_ fun _ _ => id
    · have hands : total Writer.chunks (c.writers.modify crew fun _ => .leaving) + w.hand.length =
        total Writer.chunks c.writers := total_modify_writer hand .leaving
      have back : (y.hub.send place crew).1.pool.outstanding + UInt64.ofNat w.hand.length =
          y.hub.pool.outstanding := by
        rw [returned]
        exact Pool.outstanding_recycleAll _ _
      refine counted_of_held back ?_
      show (c.setWriter crew .leaving).holdings + _ = _
      simp only [Connection.holdings, Connection.setWriter, Connection.readBuffers]
      omega
    · exact (kept.cleared place c found).modify crew (by simp)

/-- The end of a writing task: what is queued is returned before. -/
theorem Kept.finish (kept : y.Kept) (place crew : Nat) :
    Kept ⟨y.hub.finish place crew, y.calls⟩ := by
  unfold Hub.finish
  split
  · exact kept
  · rename_i c found
    split
    · have shut := kept.alters (Hub.alters_close y.hub place Hub.writerStopped)
      refine shut.shift (Hub.shift_endWriter _ place crew) rfl ?_
      rintro _ _ d ⟨⟩ there
      obtain ⟨-, f, writers, connections, -, outlet, -⟩ := Hub.close_spec found Hub.writerStopped
      have there : (y.hub.close place Hub.writerStopped).1.connections[place]? = some d := there
      rw [connections, List.getElem?_modify_eq, found] at there
      obtain rfl := Option.some.inj there
      exact ⟨congrArg Outlet.closed outlet, congrArg Outlet.queue outlet⟩
    · exact kept

theorem Kept.step (kept : y.Kept) {m : Hub.Move} (own : m.isForeign = false) :
    Kept ⟨y.hub.step m, y.calls⟩ := by
  have others : (∀ place crew, m ≠ .endWriter place crew) → Kept ⟨y.hub.move m, y.calls⟩ :=
    fun goesOn => kept.shift (Hub.move_cases y.hub m) own fun place crew _ isEnd =>
      absurd isEnd (goesOn place crew)
  cases m with
  | send place crew => exact kept.send place crew
  | endWriter place crew => exact kept.finish place crew
  | «open» | start | serve | write | close | act | read | settle | shrink | endReader | borrow
  | giveBack => exact others fun _ _ => by simp

/-! ### Calls -/

/-- What a call that is made comes to. -/
inductive Calls (y : Yard) (place : Nat) (data : Bytes) : Prop
  | refused (same : y.move (.call place data) = y)
      (shut : ∀ c, y.hub.connections[place]? = some c → c.isClosed = true)
  | begins {c : Connection} (found : y.hub.connections[place]? = some c)
      (isOpen : c.isClosed = false)
      (moved : y.move (.call place data) = { y with calls := y.calls ++ [⟨place, data⟩] })

/-- What a turn of a call under way comes to. -/
inductive Pushes (y : Yard) (k : Nat) : Prop
  | idle (same : y.move (.push k) = y) (nothing : ∀ call, y.calls[k]? = some call → call.left = [])
  | queues {place : Nat} {left : Bytes} (under : y.calls[k]? = some ⟨place, left⟩)
      (some : left ≠ []) (moved : y.move (.push k) = {
        hub := y.hub.push place left
        calls := y.calls.set k ⟨place, left.drop (max y.hub.pool.chunkSize 1)⟩ })

/-- What the last turn of a call comes to. -/
inductive ChecksOut (y : Yard) (k : Nat) : Prop
  | idle (same : y.move (.checkOut k) = y) (busy : ∀ place, y.calls[k]? ≠ some ⟨place, []⟩)
  | returns {place : Nat} (under : y.calls[k]? = some ⟨place, []⟩) (moved : y.move (.checkOut k) =
      { hub := (y.hub.checkOut place).1, calls := y.calls.eraseIdx k })

theorem call_cases (y : Yard) (place : Nat) (data : Bytes) : y.Calls place data := by
  cases found : y.hub.connections[place]? with
  | none => exact .refused (by simp only [move, found]) (by simp [found])
  | some c =>
    cases closed : c.isClosed with
    | true => exact .refused (by simp only [move, found, closed, if_true]) (by simp [found, closed])
    | false =>
      refine .begins found closed ?_
      simp only [move, found, closed, Bool.false_eq_true, if_false]

theorem push_cases (y : Yard) (k : Nat) : y.Pushes k := by
  cases under : y.calls[k]? with
  | none => exact .idle (by simp only [move, under]) (by simp [under])
  | some call =>
    obtain ⟨place, left⟩ := call
    cases left with
    | nil => exact .idle (by simp only [move, under]) (by simp [under])
    | cons b rest => exact .queues under (List.cons_ne_nil b rest) (by simp only [move, under])

theorem checkOut_cases (y : Yard) (k : Nat) : y.ChecksOut k := by
  cases under : y.calls[k]? with
  | none => exact .idle (by simp only [move, under]) (by simp [under])
  | some call =>
    obtain ⟨place, left⟩ := call
    cases left with
    | nil => exact .returns under (by simp only [move, under])
    | cons b rest => exact .idle (by simp only [move, under]) (by simp [under])

theorem Kept.call (kept : y.Kept) (place : Nat) (data : Bytes) :
    (y.move (.call place data)).Kept := by
  cases y.call_cases place data with
  | refused same =>
    rw [same]
    exact kept
  | begins found isOpen moved =>
    rw [moved]
    refine kept.still rfl rfl fun other here => ?_
    rw [places, List.map_append]
    exact List.mem_append_left _ here

/-- A call that goes on stays at its place. -/
theorem places_set {left : Bytes} (under : y.calls[k]? = some ⟨place, left⟩) (hub : Hub)
    (rest : Bytes) : places ⟨hub, y.calls.set k ⟨place, rest⟩⟩ = y.places := by
  apply List.ext_getElem?
  intro j
  simp only [places, List.getElem?_map, List.getElem?_set]
  by_cases same : k = j
  · subst same
    obtain ⟨inside, there⟩ := List.getElem?_eq_some_iff.mp under
    simp [inside, there]
  · simp [same]

/-- A call that ends leaves the others at their places. -/
theorem mem_places_eraseIdx {left : Bytes} (under : y.calls[k]? = some ⟨place, left⟩) (hub : Hub)
    {other : Nat} (different : other ≠ place) (here : other ∈ y.places) :
    other ∈ places ⟨hub, y.calls.eraseIdx k⟩ := by
  obtain ⟨call, member, rfl⟩ := List.mem_map.mp here
  obtain ⟨j, found⟩ := List.mem_iff_getElem?.mp member
  have other : j ≠ k := by
    rintro rfl
    obtain rfl := Option.some.inj (found.symm.trans under)
    exact different rfl
  exact List.mem_map_of_mem (List.mem_eraseIdx_iff_getElem?.mpr ⟨j, other, found⟩)

theorem Kept.push (kept : y.Kept) (k : Nat) : (y.move (.push k)).Kept := by
  cases y.push_cases k with
  | idle same =>
    rw [same]
    exact kept
  | @queues place left under _ moved =>
    rw [moved]
    have here : place ∈ y.places := List.mem_map_of_mem (List.mem_of_getElem? under)
    cases found : y.hub.connections[place]? with
    | none =>
      rw [Hub.push_of_none found]
      refine kept.still rfl rfl ?_
      rw [places_set under]
      exact fun _ => id
    | some c =>
      rw [Hub.push_spec found]
      generalize y.hub.pool.allocateChunk.1.put _ = chunk
      refine kept.changed found rfl ?_ ?_ ?_
      · -- the pool hands out one buffer more, and the queue holds it
        have counted : y.hub.pool.allocateChunk.2.outstanding = y.hub.pool.outstanding + 1 :=
          Pool.outstanding_allocate ..
        have more : Connection.holdings { c with queue := c.queue ++ [chunk] } =
            c.holdings + 1 := by
          simp only [Connection.holdings, Connection.readBuffers, List.length_append,
            List.length_singleton]
          omega
        show y.hub.pool.allocateChunk.2.outstanding + _ = _
        rw [more, counted, UInt64.ofNat_add]
        grind
      · rw [places_set under]
        exact fun ended => ⟨(kept.cleared place c found ended).1, fun free => absurd here free⟩
      · rw [places_set under]
        exact fun _ _ => id

theorem Kept.checkOut (kept : y.Kept) (k : Nat) : (y.move (.checkOut k)).Kept := by
  cases y.checkOut_cases k with
  | idle same =>
    rw [same]
    exact kept
  | @returns place under moved =>
    rw [moved]
    have elsewhere : ∀ (hub : Hub) other, other ≠ place → other ∈ y.places →
        other ∈ places ⟨hub, y.calls.eraseIdx k⟩ :=
      fun hub other different here => mem_places_eraseIdx under hub different here
    cases found : y.hub.connections[place]? with
    | none =>
      rw [Hub.checkOut_of_none found]
      refine ⟨kept.balanced, fun other d there => ?_⟩
      refine (kept.cleared other d there).mono (elsewhere _ other ?_)
      rintro rfl
      exact absurd (found.symm.trans there) (by simp)
    | some c =>
      cases closed : c.isClosed with
      | true =>
        have fewer : Connection.holdings { c with queue := [] } + c.queue.length =
            c.holdings := by
          simp only [Connection.holdings, Connection.readBuffers, List.length_nil]
          omega
        rw [Hub.checkOut_of_closed found closed]
        exact kept.changed found rfl
          (counted_of_held (Pool.outstanding_recycleAll y.hub.pool c.queue) fewer)
          (fun _ => ⟨closed, fun _ => rfl⟩) (elsewhere _)
      | false =>
        rw [Hub.checkOut_of_open found closed]
        refine kept.changed found rfl rfl (fun ended => ?_) (elsewhere _)
        -- no task has ended on a connection that is open
        exact absurd (closed.symm.trans (kept.cleared place c found ended).1) Bool.false_ne_true

theorem Kept.shut (kept : y.Kept) (place : Nat) (reason : String) :
    Kept ⟨y.hub.shut place reason, y.calls⟩ := by
  rcases y.hub.shut_cases place reason with same | ⟨c, found, isOpen⟩
  · rw [same]
    exact kept
  · obtain ⟨pool, f, writers, connections, calledOff, outlet, reads⟩ :=
      Hub.shut_spec found isOpen reason
    refine kept.changed found connections ?_ ?_ fun _ _ => id
    · rw [pool, (f c).holdings_eq, outlet, reads, total_calledOff calledOff]
      rfl
    · -- no task has ended on a connection that was open
      rw [outlet]
      intro ended
      have before := (kept.cleared place c found (calledOff.finished ended)).1
      exact absurd (isOpen.symm.trans before) Bool.false_ne_true

theorem Kept.drain (kept : y.Kept) (place : Nat) : Kept ⟨y.hub.drain place, y.calls⟩ := by
  unfold Hub.drain
  split
  · exact kept
  · rename_i c found
    split
    · rename_i chunk queue closed queued
      have returned := y.hub.pool.outstanding_recycle_add chunk
      refine kept.changed found rfl (counted_of_held returned ?_) ?_ fun _ _ => id
      · simp only [Connection.holdings, Connection.readBuffers, queued, List.length_cons]
        omega
      · intro ended
        refine ⟨closed, fun free => ?_⟩
        have empty := (kept.cleared place c found ended).2 free
        exact absurd (queued.symm.trans empty) (by simp)
    · exact kept

theorem Kept.halt (kept : y.Kept) (place crew : Nat) : Kept ⟨y.hub.halt place crew, y.calls⟩ := by
  cases found : y.hub.connections[place]? with
  | none => exact kept.alters (Hub.still_of_none found _)
  | some c =>
    have off : CalledOff c.writers (c.writers.modify crew Connection.stopWriter) := .inr ⟨crew, rfl⟩
    refine kept.changed found rfl ?_ ?_ fun _ _ => id
    · dsimp only
      split
      · show _ = _ + UInt64.ofNat (Connection.holdings _)
        simp only [Connection.holdings, Connection.readBuffers, total_calledOff off]
        rfl
      · rfl
    · split
      · exact fun ended => kept.cleared place c found (off.finished ended)
      · exact kept.cleared place c found

theorem Kept.move (kept : y.Kept) {m : Move} (own : m.isForeign = false) : (y.move m).Kept := by
  cases m with
  | hub m => exact kept.step own
  | call place data => exact kept.call place data
  | push k => exact kept.push k
  | checkOut k => exact kept.checkOut k
  | shut place reason => exact kept.shut place reason
  | drain place => exact kept.drain place
  | halt place crew => exact kept.halt place crew

theorem Kept.after {moves : List Move} (kept : y.Kept)
    (own : ∀ m ∈ moves, m.isForeign = false) : (y.after moves).Kept := by
  induction moves generalizing y with
  | nil => exact kept
  | cons m rest ih =>
    rw [List.forall_mem_cons] at own
    exact ih (kept.move own.1) own.2

def new (name : String) (pool : Pool) : Yard where
  hub := { name := name, pool := pool }

theorem kept_new (name : String) {pool : Pool} (whole : pool.outstanding = 0) :
    (new name pool).Kept where
  balanced := whole
  cleared _ _ none := absurd none (by simp [new])

/-! ## Calls that nobody interrupts -/

theorem after_append (y : Yard) (xs ys : List Move) :
    y.after (xs ++ ys) = (y.after xs).after ys := by
  induction xs generalizing y with
  | nil => rfl
  | cons m rest ih => exact ih _

/-- Chunk by chunk, a call queues what its data is packed into. -/
theorem push_all (calls : List Call) (place : Nat) (p : Pool) (data : Bytes) :
    ∀ {h : Hub} {c : Connection}, h.pool = p → h.connections[place]? = some c →
      after ⟨h, calls ++ [⟨place, data⟩]⟩
          (List.replicate (p.pack data).1.length (.push calls.length)) =
        ⟨{ h with pool := (p.pack data).2 }.update place fun c =>
          { c with queue := c.queue ++ (p.pack data).1 }, calls ++ [⟨place, []⟩]⟩ := by
  fun_induction Pool.pack p data with
  | case1 p =>
    rintro h c rfl found
    have same : (fun c : Connection => { c with queue := c.queue ++ [] }) = id := by
      funext c
      simp
    rw [same, Hub.update, List.modify_id]
    rfl
  | case2 p b rest size chunk p' allocated chunks p'' packed =>
    rename_i ih
    rintro h c rfl found
    have pushed : h.push place (b :: rest) = { h with pool := p' }.update place fun c =>
        { c with queue := c.queue ++ [chunk.put ((b :: rest).take size)] } := by
      unfold Hub.push
      rw [found, allocated]
    -- the first chunk is queued, and the rest is what the call has left
    have moved : move ⟨h, calls ++ [⟨place, b :: rest⟩]⟩ (.push calls.length) =
        ⟨h.push place (b :: rest), calls ++ [⟨place, rest.drop (size - 1)⟩]⟩ := by
      have positive : 0 < size := Nat.lt_of_lt_of_le Nat.one_pos (Nat.le_max_right _ _)
      have further : (b :: rest).drop size = rest.drop (size - 1) := by
        rw [← Nat.sub_add_cancel positive, List.drop_succ_cons, Nat.add_sub_cancel]
      have replaced : ∀ call call' : Call,
          (calls ++ [call]).set calls.length call' = calls ++ [call'] := by simp
      simp only [move, List.getElem?_concat_length, replaced]
      rw [← further]
    have found' : ({ h with pool := p' }.update place fun c : Connection =>
        { c with queue := c.queue ++ [chunk.put ((b :: rest).take size)] }).connections[place]? =
          some { c with queue := c.queue ++ [chunk.put ((b :: rest).take size)] } := by
      rw [Hub.update, List.getElem?_modify_eq, found]
      rfl
    have later := ih (show Hub.pool _ = p' from rfl) found'
    rw [packed] at later
    show after (move _ _) (List.replicate chunks.length _) = _
    rw [moved, pushed, later]
    simp only [Hub.update, List.modify_modify_eq, Function.comp_def, List.append_assoc,
      List.singleton_append]

/-- **Calls.** A call that nobody interrupts does what `Hub.write` does in one step. -/
theorem write_in_steps (found : y.hub.connections[place]? = some c) (isOpen : c.isClosed = false)
    (data : Bytes) :
    ∃ n, y.after (.call place data ::
        (List.replicate n (.push y.calls.length) ++ [.checkOut y.calls.length])) =
      { y with hub := (y.hub.write place data).1 } := by
  obtain ⟨hub, calls⟩ := y
  change hub.connections[place]? = some c at found
  refine ⟨(hub.pool.pack data).1.length, ?_⟩
  have begun : move ⟨hub, calls⟩ (.call place data) = ⟨hub, calls ++ [⟨place, data⟩]⟩ := by
    simp only [move, found, isOpen, Bool.false_eq_true, if_false]
  have queued : ({ hub with pool := (hub.pool.pack data).2 }.update place fun c : Connection =>
      { c with queue := c.queue ++ (hub.pool.pack data).1 }).connections[place]? =
        some { c with queue := c.queue ++ (hub.pool.pack data).1 } := by
    rw [Hub.update, List.getElem?_modify_eq, found]
    rfl
  have written : (hub.write place data).1 =
      { hub with pool := (hub.pool.pack data).2 }.update place fun c => { c with
        queue := c.queue ++ (hub.pool.pack data).1, idle := c.idle.drop 1 } := by
    unfold Hub.write
    rw [found]
    simp [isOpen]
  have removed : ∀ call : Call, (calls ++ [call]).eraseIdx calls.length = calls := by
    intro call
    rw [List.eraseIdx_append_of_length_le (Nat.le_refl _), Nat.sub_self]
    exact List.append_nil calls
  show after (move _ _) _ = _
  rw [begun, after_append, push_all calls place hub.pool data rfl found]
  simp only [after, move, List.getElem?_concat_length, removed]
  rw [Hub.checkOut_of_open queued isOpen, written]
  simp only [Hub.update, List.modify_modify_eq, Function.comp_def]

/-- Chunk by chunk, everything queued at a closed connection is returned. -/
theorem drain_all (calls : List Call) {h : Hub} {c : Connection}
    (found : h.connections[place]? = some c) (closed : c.isClosed = true) :
    after ⟨h, calls⟩ (List.replicate c.queue.length (.drain place)) =
      ⟨{ h with pool := h.pool.recycleAll c.queue }.update place fun c => { c with queue := [] },
        calls⟩ := by
  generalize queued : c.queue = queue
  induction queue generalizing h c with
  | nil =>
    have same : h.update place (fun c => { c with queue := [] }) = h :=
      Hub.update_self found (by rw [← queued])
    exact congrArg (Yard.mk · calls) same.symm
  | cons chunk queue ih =>
    have later := ih (h := { h with pool := h.pool.recycle chunk }.update place fun c =>
        { c with queue := queue }) (c := { c with queue := queue })
      (by
        rw [Hub.update, List.getElem?_modify_eq, found]
        rfl) closed rfl
    show after ⟨h.drain place, calls⟩ (List.replicate queue.length (.drain place)) = _
    rw [Hub.drain_spec found closed queued, later]
    simp only [Hub.update, List.modify_modify_eq, Function.comp_def]
    rfl

/-- **Closes.** A close that nobody interrupts does what `Hub.close` does in one step. -/
theorem close_in_steps (found : y.hub.connections[place]? = some c) (isOpen : c.isClosed = false)
    (reason : String) :
    y.after (.shut place reason :: List.replicate c.queue.length (.drain place)) =
      { y with hub := (y.hub.close place reason).1 } := by
  obtain ⟨-, f, _, connections, -, outlet, -⟩ := Hub.shut_spec found isOpen reason
  have shut : (y.hub.shut place reason).connections[place]? = some (f c) := by
    rw [connections, List.getElem?_modify_eq, found]
    rfl
  have drained := drain_all y.calls shut (congrArg Outlet.closed outlet)
  rw [show (f c).queue = c.queue from congrArg Outlet.queue outlet] at drained
  obtain ⟨pool, g, _, connections, -, outlet, -⟩ := Hub.close_spec found reason
  have closed : (y.hub.close place reason).1.connections[place]? = some (g c) := by
    rw [connections, List.getElem?_modify_eq, found]
    rfl
  have empty : { g c with queue := [] } = g c := by
    rw [← show (g c).queue = [] from congrArg Outlet.queue outlet]
  have same := Hub.update_self (f := fun d => { d with queue := [] }) closed empty
  show after ⟨y.hub.shut place reason, y.calls⟩ _ = _
  rw [drained, Hub.shut_of_open found isOpen, ← same]
  simp only [Hub.update, List.modify_modify_eq, Function.comp_def, ← pool]

end Yard

/-! ## Ends -/

/-- The tasks of a connection were started and are over. -/
def Connection.IsOver (c : Connection) : Prop :=
  c.writers ≠ [] ∧ c.isManned = false

theorem Connection.finished_of_isOver {c : Connection} (ended : c.IsOver) :
    (∀ r ∈ c.readers, r = .finished) ∧ ∀ w ∈ c.writers, w = .finished := by
  have unmanned := ended.2
  simp only [isManned, Bool.or_eq_false_iff, List.any_eq_false, bne_iff_ne, ne_eq,
    Decidable.not_not] at unmanned
  exact unmanned

theorem total_eq_zero {α : Type} {g : α → Nat} {l : List α} (nothing : ∀ a ∈ l, g a = 0) :
    total g l = 0 := by
  induction l with
  | nil => rfl
  | cons a rest ih =>
    rw [List.forall_mem_cons] at nothing
    rw [total_cons, nothing.1, ih nothing.2]

namespace Yard

variable {y : Yard} {place : Nat} {c : Connection}

/-- A connection that is over has nothing of the pool. -/
theorem Kept.nothing_held (kept : y.Kept) (found : y.hub.connections[place]? = some c)
    (free : y.calls = []) (ended : c.IsOver) : c.queue = [] ∧ c.holdings = 0 := by
  obtain ⟨readers, writers⟩ := Connection.finished_of_isOver ended
  have finished : Writer.finished ∈ c.outlet.writers := by
    obtain ⟨w, here⟩ := List.exists_mem_of_ne_nil c.writers ended.1
    exact writers w here ▸ here
  have empty : c.queue = [] := by
    apply (kept.cleared place c found finished).2
    rw [places, free]
    exact List.not_mem_nil
  have read : c.readBuffers = 0 := by
    apply total_eq_zero
    intro r here
    rw [readers r here]
    rfl
  have hands : total Writer.chunks c.writers = 0 := by
    apply total_eq_zero
    intro w here
    rw [writers w here]
    rfl
  exact ⟨empty, by rw [Connection.holdings, read, hands, empty]; rfl⟩

end Yard

end Transport

open Transport

/-- **Every buffer is somewhere, and comes back.** Take a pool that has handed out nothing, and any
number of connections that use it and nobody else, and anything that happens to them: calls and
closes, of which several may be under way at once, turns of tasks, whatever the peers do. What the
pool counts as handed out are the read buffers of reading tasks, the chunks queued, and the chunks
in the hands of writing tasks. When the tasks of all connections are over and no call is under way,
it counts nothing and nothing is queued. To write to a closed connection is refused, and changes
nothing. -/
theorem every_buffer_is_somewhere (name : String) {pool : Pool} (whole : pool.outstanding = 0)
    {moves : List Yard.Move} (own : ∀ m ∈ moves, m.isForeign = false) :
    let y := (Yard.new name pool).after moves
    y.hub.pool.outstanding = UInt64.ofNat y.hub.holdings ∧
      (y.calls = [] → (∀ c ∈ y.hub.connections, c.IsOver) →
        y.hub.pool.outstanding = 0 ∧ ∀ c ∈ y.hub.connections, c.queue = []) ∧
      ∀ place c data, y.hub.connections[place]? = some c → c.isClosed = true →
        y.hub.write place data = (y.hub, .error c.closedFault) ∧
          y.move (.call place data) = y := by
  intro y
  have kept : y.Kept := (Yard.kept_new name whole).after own
  refine ⟨kept.balanced, ?_, ?_⟩
  · intro free ended
    -- a connection that is over holds no buffer
    have nothing : ∀ c ∈ y.hub.connections, c.queue = [] ∧ c.holdings = 0 := by
      intro c here
      obtain ⟨place, found⟩ := List.mem_iff_getElem?.mp here
      exact kept.nothing_held found free (ended c here)
    refine ⟨?_, fun c here => (nothing c here).1⟩
    rw [kept.balanced, Hub.holdings, total_eq_zero fun c here => (nothing c here).2]
    rfl
  · intro place c data found closed
    constructor
    · unfold Hub.write
      rw [found]
      exact if_pos closed
    · simp only [Yard.move, found, closed, if_true]

namespace Sample

/-- A connection that is read and written to in chunks of four bytes. A close begins after the first
chunk of five bytes, and the call queues the second before it looks. -/
def overtakenCall : List Yard.Move :=
  [.hub (.open "a.db" 3306 16 true), .hub (.start 0), .hub (.read 0 0),
    .call 0 [1, 2, 3, 4, 5], .push 0, .shut 0 "bye", .push 0]

/-- The close returns one chunk, the call looks and returns the other, and the tasks end. -/
def ending : List Yard.Move :=
  [.drain 0, .checkOut 0, .hub (.read 0 0), .hub (.endReader 0 0), .hub (.send 0 0),
    .hub (.endWriter 0 0)]

end Sample

open Sample in
/-- The case of a call that a close overtakes. -/
theorem every_buffer_comes_back_of_overtaken :
    (Pool.new 2 4).outstanding = 0 ∧
      (∀ m ∈ overtakenCall ++ ending, m.isForeign = false) ∧
      ((Yard.new "sample" (Pool.new 2 4)).after overtakenCall).hub.pool.outstanding = 3 ∧
      ((Yard.new "sample" (Pool.new 2 4)).after (overtakenCall ++ ending)).hub.pool.outstanding =
        0 := by
  have own : ∀ m ∈ overtakenCall ++ ending, m.isForeign = false := by decide
  refine ⟨rfl, own, by decide +kernel, ?_⟩
  have whole : (Pool.new 2 4).outstanding = 0 := rfl
  obtain ⟨-, comesBack, -⟩ := every_buffer_is_somewhere "sample" whole own
  have ended : ∀ c ∈ ((Yard.new "sample" (Pool.new 2 4)).after
      (overtakenCall ++ ending)).hub.connections, c.writers ≠ [] ∧ c.isManned = false := by
    decide +kernel
  exact (comesBack (by decide +kernel) ended).1

end AtomicCommit
