import AtomicCommit.Proofs.Inventory

/-!
# What a step of a yard does to the writing side of a connection

In a yard, calls, closes and tasks interrupt each other, and so chunks can be queued at a connection
that is closed already, a task can take one up there, and what is queued is returned piece by piece.
`Handles` says all that a step can do to the writing side of one connection, and which bytes it
queues there.

* **packing** — `Pool.put_chunk` and `Pool.pack_spec`: chunks hold what is put into them.
* **every step** — `Yard.handled`: seen from one connection, a step of a yard is a `Handles`.
* **what stays** — `Yard.sound_after`: the pool stays sound.
-/

namespace AtomicCommit

open Wire

/-! ## Packing -/

/-- A chunk as it is queued. -/
structure Buffer.Full (b : Buffer) : Prop where
  sound : b.Sound
  positive : 0 < b.length

/-- A chunk that the pool hands out holds the first of what is to be packed. -/
theorem Pool.put_chunk {p : Pool} (sound : p.Sound) {data : Bytes} (some : data ≠ []) :
    let chunk := p.allocateChunk.1.put (data.take (max p.chunkSize 1))
    chunk.readable = data.take (max p.chunkSize 1) ∧ chunk.Full := by
  obtain ⟨blank, room, -⟩ := allocate_spec sound p.chunkSize
  have size : max p.chunkSize 1 = p.chunkSize := Nat.max_eq_left sound.positive
  have fits : (data.take (max p.chunkSize 1)).length ≤ (p.allocate p.chunkSize).1.capacity :=
    Nat.le_trans (List.length_take_le _ _) (size.symm ▸ room)
  obtain ⟨readable, whole, -⟩ := Buffer.put_spec blank fits
  refine ⟨readable, whole, ?_⟩
  show 0 < ((p.allocate p.chunkSize).1.put _).length
  rw [← Buffer.length_readable whole, readable, List.length_take]
  have := List.length_pos_iff.mpr some
  omega

/-- **Packing.** The chunks hold the data, in order, and none is empty. -/
theorem Pool.pack_spec {p : Pool} (sound : p.Sound) (data : Bytes) :
    (p.pack data).1.flatMap Buffer.readable = data ∧ ∀ b ∈ (p.pack data).1, b.Full := by
  fun_induction pack p data with
  | case1 => exact ⟨rfl, fun b none => absurd none List.not_mem_nil⟩
  | case2 p first rest size chunk p' allocated chunks p'' packed ih =>
    have still := (allocate_spec sound p.chunkSize).2.2
    rw [show p.allocate p.chunkSize = (chunk, p') from allocated] at still
    rw [packed] at ih
    obtain ⟨holds, full⟩ := ih still
    -- A chunk takes at least one byte, so what is left to pack is shorter.
    have positive : 0 < size := Nat.lt_of_lt_of_le Nat.one_pos (Nat.le_max_right _ _)
    have first_chunk := put_chunk sound (List.cons_ne_nil first rest)
    rw [allocated] at first_chunk
    obtain ⟨readable, whole⟩ := first_chunk
    have split : (first :: rest).take size ++ rest.drop (size - 1) = first :: rest := by
      rw [← List.drop_succ_cons (a := first), Nat.sub_add_cancel positive, List.take_append_drop]
    refine ⟨?_, ?_⟩
    · rw [List.flatMap_cons, readable, holds, split]
    · intro b here
      rcases List.mem_cons.mp here with rfl | later
      · exact whole
      · exact full b later

namespace Transport

/-! ## Every step -/

/-- What a step of a hub does to the writing side of a connection, and the bytes that it queues. A
writing task that stops does not close the connection at once. -/
inductive Works (p : Pool) (c c' : Connection) : Bytes → Prop
  | changes {p' : Pool} {data : Bytes} (change : Change p c data p' c') : Works p c c' data
  /-- A writing task stops, and is to close the connection. -/
  | leaves {crew : Nat} {w : Writer} (hand : c.writers[crew]? = some w)
      (outlet : c'.outlet =
        { c.outlet with writers := c.writers.modify crew fun _ => .leaving }) : Works p c c' []
  /-- A writing task that has stopped closes the connection and ends. -/
  | ends {d : Connection} {writers : List Writer} {crew : Nat}
      (calledOff : CalledOff c.writers writers)
      (closed : d.outlet = { c.outlet with closed := true, queue := [], writers := writers })
      (finishes : Finishes d c' crew) : Works p c c' []

/-- What a step of a yard does: as much as a step of a hub, or a part of a call or of a close. -/
inductive Handles (p : Pool) (c c' : Connection) : Bytes → Prop
  | works {data : Bytes} (works : Works p c c' data) : Handles p c c' data
  /-- A chunk is queued, on a closed connection too. -/
  | queues {chunk : Buffer} (full : chunk.Full)
      (outlet : c'.outlet = { c.outlet with queue := c.queue ++ [chunk] }) :
      Handles p c c' chunk.readable
  /-- The connection is closed. A task may be called off, and chunks are returned. -/
  | cuts {writers : List Writer} {front queue : List Buffer}
      (calledOff : CalledOff c.writers writers) (chunks : c.queue = front ++ queue)
      (outlet : c'.outlet = { c.outlet with closed := true, queue := queue, writers := writers }) :
      Handles p c c' []

theorem works_aside {p : Pool} {c c' : Connection} (outlet : c'.outlet = c.outlet)
    (reads : c'.readBuffers = c.readBuffers) : Works p c c' [] :=
  .changes (@Change.aside p c p c' outlet id (by rw [reads]))

theorem handles_aside {p : Pool} {c c' : Connection} (outlet : c'.outlet = c.outlet)
    (reads : c'.readBuffers = c.readBuffers) : Handles p c c' [] :=
  .works (works_aside outlet reads)

theorem CalledOff.length_eq {before after : List Writer} (off : CalledOff before after) :
    after.length = before.length := by
  rcases off with rfl | ⟨crew, rfl⟩
  · rfl
  · exact List.length_modify ..

theorem Finishes.length_writers {c c' : Connection} {crew : Nat} (finishes : Finishes c c' crew) :
    c'.writers.length = c.writers.length := by
  show c'.outlet.writers.length = _
  rw [finishes.outlet]
  exact List.length_modify ..

theorem Change.length_writers_le {p p' : Pool} {c c' : Connection} {data : Bytes}
    (change : Change p c data p' c') : c.writers.length ≤ c'.writers.length := by
  show c.writers.length ≤ c'.outlet.writers.length
  cases change with
  | aside outlet => exact Nat.le_of_eq (congrArg (·.writers.length) outlet.symm)
  | close calledOff outlet =>
    rw [outlet]
    exact Nat.le_of_eq calledOff.length_eq.symm
  | stop hand calledOff outlet =>
    rw [outlet]
    exact Nat.le_of_eq (calledOff.length_eq.trans (List.length_modify ..)).symm
  | join outlet | queue data isOpen outlet | take idle queued outlet | pass hand short outlet
  | complete hand whole outlet =>
    rw [outlet]
    simp [Connection.outlet]

theorem Works.length_writers_le {p : Pool} {c c' : Connection} {data : Bytes}
    (works : Works p c c' data) : c.writers.length ≤ c'.writers.length := by
  cases works with
  | changes change => exact change.length_writers_le
  | leaves hand outlet =>
    show c.writers.length ≤ c'.outlet.writers.length
    rw [outlet]
    exact Nat.le_of_eq (List.length_modify ..).symm
  | ends calledOff closed finishes =>
    have same := congrArg (·.writers.length) closed
    exact Nat.le_of_eq
      (calledOff.length_eq.symm.trans (same.symm.trans finishes.length_writers.symm))

/-- Crews only join. -/
theorem Handles.length_writers_le {p : Pool} {c c' : Connection} {data : Bytes}
    (handles : Handles p c c' data) : c.writers.length ≤ c'.writers.length := by
  show c.writers.length ≤ c'.outlet.writers.length
  cases handles with
  | works works => exact works.length_writers_le
  | queues full outlet =>
    rw [outlet]
    exact Nat.le_refl _
  | cuts calledOff chunks outlet =>
    rw [outlet]
    exact Nat.le_of_eq calledOff.length_eq.symm

theorem Works.closed {p : Pool} {c c' : Connection} {data : Bytes} (works : Works p c c' data)
    (closed : c.isClosed = true) : c'.isClosed = true := by
  change c.outlet.closed = true at closed
  show c'.outlet.closed = true
  cases works with
  | changes change =>
    cases change with
    | aside outlet | join outlet | queue data isOpen outlet | take idle queued outlet
    | pass hand short outlet | complete hand whole outlet =>
      rw [outlet]
      exact closed
    | close calledOff outlet | stop hand calledOff outlet => rw [outlet]
  | leaves hand outlet =>
    rw [outlet]
    exact closed
  | ends calledOff shut finishes => rw [finishes.outlet, shut]

/-- No step opens a connection again. -/
theorem Handles.closed {p : Pool} {c c' : Connection} {data : Bytes}
    (handles : Handles p c c' data) (closed : c.isClosed = true) : c'.isClosed = true := by
  cases handles with
  | works works => exact works.closed closed
  | queues full outlet =>
    show c'.outlet.closed = true
    rw [outlet]
    exact closed
  | cuts calledOff chunks outlet =>
    show c'.outlet.closed = true
    rw [outlet]

/-! ## Yards -/

section Seen

variable {h k : Hub} {place other : Nat} {c d : Connection} {p : Pool}

/-- A step that changes one connection, seen from any. What it does is told by a relation `R`, by
which any connection may stay as it is. -/
theorem seen_at {R : Connection → Connection → Bytes → Prop} (aside : ∀ c, R c c [])
    (queued : Nat → Bytes) {f : Connection → Connection}
    (found : h.connections[place]? = some c) (there : h.connections[other]? = some d)
    (connections : k.connections = h.connections.modify other f)
    (does : R d (f d) (queued other)) (elsewhere : ∀ place, place ≠ other → queued place = []) :
    ∃ c', k.connections[place]? = some c' ∧ R c c' (queued place) := by
  rw [connections]
  -- One connection is changed, and seen from any other place nothing has happened.
  by_cases here : other = place
  · subst here
    obtain rfl := Option.some.inj (there.symm.trans found)
    refine ⟨f d, ?_, does⟩
    rw [List.getElem?_modify_eq, found]
    rfl
  · refine ⟨c, ?_, ?_⟩
    · rw [List.getElem?_modify_ne _ _ here]
      exact found
    · rw [elsewhere place (Ne.symm here)]
      exact aside c

theorem handles_at (queued : Nat → Bytes) {f : Connection → Connection}
    (found : h.connections[place]? = some c) (there : h.connections[other]? = some d)
    (connections : k.connections = h.connections.modify other f)
    (handles : Handles p d (f d) (queued other))
    (elsewhere : ∀ place, place ≠ other → queued place = []) :
    ∃ c', k.connections[place]? = some c' ∧ Handles p c c' (queued place) :=
  seen_at (fun _ => handles_aside rfl rfl) queued found there connections handles elsewhere

/-- A step that changes no connection. -/
theorem works_still {queued : Bytes} (found : h.connections[place]? = some c)
    (connections : k.connections = h.connections) (nothing : queued = []) :
    ∃ c', k.connections[place]? = some c' ∧ Works p c c' queued := by
  rw [connections, nothing]
  exact ⟨c, found, works_aside rfl rfl⟩

theorem handles_still {queued : Bytes} (found : h.connections[place]? = some c)
    (connections : k.connections = h.connections) (nothing : queued = []) :
    ∃ c', k.connections[place]? = some c' ∧ Handles p c c' queued := by
  rw [connections, nothing]
  exact ⟨c, found, handles_aside rfl rfl⟩

theorem Hub.Alters.works (alters : h.Alters k) (found : h.connections[place]? = some c) :
    ∃ c', k.connections[place]? = some c' ∧ Works h.pool c c' [] := by
  cases alters with
  | still connections => exact works_still found connections rfl
  | changed there connections change =>
    exact seen_at (fun _ => works_aside rfl rfl) (fun _ => []) found there connections
      (.changes change) fun _ _ => rfl

theorem Hub.Shift.works {m : Hub.Move} (shift : h.Shift m k)
    (goesOn : ∀ place crew, m ≠ .endWriter place crew)
    (found : h.connections[place]? = some c) :
    ∃ c', k.connections[place]? = some c' ∧ Works h.pool c c' (h.queuedBy place m) := by
  cases shift with
  | still connections pool nothing =>
    exact works_still found connections (nothing place)
  | opened connections pool blank unread nothing =>
    refine ⟨c, ?_, ?_⟩
    · rw [connections]
      exact (List.getElem?_append_left (List.getElem?_eq_some_iff.mp found).1).trans found
    · rw [nothing]
      exact works_aside rfl rfl
  | changed there connections change elsewhere =>
    exact seen_at (fun _ => works_aside rfl rfl) (h.queuedBy · m) found there connections
      (.changes change) elsewhere
  | @ended _ crew _ _ isEnd => exact absurd isEnd (goesOn _ crew)
  | foreign isForeign connections sound nothing =>
    exact works_still found connections (nothing place)

/-- A turn of a writing task. -/
theorem Hub.send_works (found : h.connections[place]? = some c) (other crew : Nat) :
    ∃ c', (h.send other crew).1.connections[place]? = some c' ∧ Works h.pool c c' [] := by
  cases send_cases h other crew with
  | goesOn alters => exact alters.works found
  | stops there hand returned left =>
    exact seen_at (fun _ => works_aside rfl rfl) (fun _ => []) found there left
      (.leaves hand rfl) fun _ _ => rfl

/-- A task that was told to stop, or stops for itself, is not called off any more. -/
theorem CalledOff.leaving {before after : List Writer} (off : CalledOff before after) {crew : Nat}
    (leaving : before[crew]? = some .leaving) : after[crew]? = some .leaving := by
  rcases off with rfl | ⟨i, rfl⟩
  · exact leaving
  · rw [List.getElem?_modify, leaving]
    split <;> rfl

/-- The end of a writing task. -/
theorem Hub.finish_works (found : h.connections[place]? = some c) (other crew : Nat) :
    ∃ c', (h.finish other crew).connections[place]? = some c' ∧ Works h.pool c c' [] := by
  unfold finish
  split
  · exact works_still found rfl rfl
  · rename_i d there
    split
    · rename_i leaving
      obtain ⟨-, f, writers, connections, calledOff, outlet, reads⟩ :=
        close_spec there writerStopped
      -- the close itself does not call off a task that is leaving
      have still : (f d).writers[crew]? = some .leaving := by
        rw [show (f d).writers = writers from congrArg Outlet.writers outlet]
        exact calledOff.leaving leaving
      let g : Connection → Connection := fun c =>
        if (f c).writers[crew]? = some .leaving then
          { (f c).setWriter crew .finished with peer.shutDown := true }
        else f c
      have finishes : Finishes (f d) (g d) crew := by
        rw [show g d = { (f d).setWriter crew .finished with peer.shutDown := true } from
          if_pos still]
        exact ⟨still, rfl, rfl⟩
      refine seen_at (fun _ => works_aside rfl rfl) (fun _ => []) (f := g) found there ?_
        (.ends calledOff outlet finishes) fun _ _ => rfl
      show List.modify (h.close other writerStopped).1.connections other _ = _
      rw [connections, List.modify_modify_eq]
      rfl
    · exact works_still found rfl rfl

end Seen

namespace Yard

variable {y : Yard} {place : Nat} {c : Connection}

/-- The bytes that a step queues at a connection. -/
def queuedBy (y : Yard) (place : Nat) : Move → Bytes
  | .hub m => y.hub.queuedBy place m
  | .push k =>
    match y.calls[k]? with
    | none => []
    | some call => if call.place = place then call.left.take (max y.hub.pool.chunkSize 1) else []
  | _ => []

theorem hub_call (y : Yard) (place : Nat) (data : Bytes) :
    (y.move (.call place data)).hub = y.hub := by
  cases y.call_cases place data with
  | refused same => rw [same]
  | begins found isOpen moved => rw [moved]

theorem queuedBy_push_idle {k : Nat} (nothing : ∀ call, y.calls[k]? = some call → call.left = [])
    (place : Nat) : y.queuedBy place (.push k) = [] := by
  cases under : y.calls[k]? with
  | none => simp only [queuedBy, under]
  | some call => simp [queuedBy, under, nothing call under]

theorem queuedBy_push {k place : Nat} {left : Bytes} (under : y.calls[k]? = some ⟨place, left⟩)
    (other : Nat) : y.queuedBy other (.push k) =
      if place = other then left.take (max y.hub.pool.chunkSize 1) else [] := by
  simp only [queuedBy, under]

/-- **Every step** of a hub, seen from one connection. -/
theorem step_works (found : y.hub.connections[place]? = some c) (m : Hub.Move) :
    ∃ c', (y.hub.step m).connections[place]? = some c' ∧
      Works y.hub.pool c c' (y.hub.queuedBy place m) := by
  have others (goesOn : ∀ place crew, m ≠ .endWriter place crew) :
      ∃ c', (y.hub.move m).connections[place]? = some c' ∧
        Works y.hub.pool c c' (y.hub.queuedBy place m) :=
    (Hub.move_cases y.hub m).works goesOn found
  cases m with
  | send other crew => exact Hub.send_works found other crew
  | endWriter other crew => exact Hub.finish_works found other crew
  | «open» | start | serve | write | close | act | read | settle | shrink | endReader | borrow
  | giveBack => exact others fun _ _ => by simp

theorem push_handled (sound : y.hub.pool.Sound) (found : y.hub.connections[place]? = some c)
    (k : Nat) : ∃ c', (y.move (.push k)).hub.connections[place]? = some c' ∧
      Handles y.hub.pool c c' (y.queuedBy place (.push k)) := by
  cases y.push_cases k with
  | idle same nothing =>
    rw [same, queuedBy_push_idle nothing]
    exact handles_still found rfl rfl
  | @queues other left under some moved =>
    have queued := queuedBy_push under
    have elsewhere : ∀ place, place ≠ other → y.queuedBy place (.push k) = [] :=
      fun place different => (queued place).trans (if_neg different.symm)
    rw [moved]
    cases there : y.hub.connections[other]? with
    | none =>
      refine handles_still found ?_ (elsewhere place ?_)
      · exact congrArg Hub.connections (Hub.push_of_none there left)
      · rintro rfl
        exact absurd (found.symm.trans there) (by simp)
    | some d =>
      -- the chunk goes behind the others, whether the connection is open or not
      obtain ⟨readable, full⟩ := Pool.put_chunk sound some
      refine handles_at (y.queuedBy · (.push k)) found there ?_ ?_ elsewhere
        (f := fun c => { c with queue := c.queue ++
          [y.hub.pool.allocateChunk.1.put (left.take (max y.hub.pool.chunkSize 1))] })
      · show (y.hub.push other left).connections = _
        rw [Hub.push_spec there]
        rfl
      · rw [((queued other).trans (if_pos rfl)).trans readable.symm]
        exact .queues full rfl

/-- **Every step** of a yard, seen from one connection. -/
theorem handled (sound : y.hub.pool.Sound) (found : y.hub.connections[place]? = some c)
    (m : Move) : ∃ c', (y.move m).hub.connections[place]? = some c' ∧
      Handles y.hub.pool c c' (y.queuedBy place m) := by
  cases m with
  | hub m =>
    obtain ⟨c', next, works⟩ := step_works found m
    exact ⟨c', next, .works works⟩
  | push k => exact push_handled sound found k
  | call other data =>
    rw [hub_call]
    exact handles_still found rfl rfl
  | checkOut k =>
    cases y.checkOut_cases k with
    | idle same =>
      rw [same]
      exact handles_still found rfl rfl
    | @returns other under moved =>
      rw [moved]
      show ∃ c', (y.hub.checkOut other).1.connections[place]? = some c' ∧ _
      cases there : y.hub.connections[other]? with
      | none =>
        rw [Hub.checkOut_of_none there]
        exact handles_still found rfl rfl
      | some d =>
        cases closed : d.isClosed with
        | true =>
          rw [Hub.checkOut_of_closed there closed]
          refine handles_at (fun _ => []) found there rfl
            (.cuts (.inl rfl) (List.append_nil d.queue).symm ?_) fun _ _ => rfl
          rw [← closed]
          rfl
        | false =>
          rw [Hub.checkOut_of_open there closed]
          exact handles_at (fun _ => []) found there rfl (handles_aside rfl rfl)
            fun _ _ => rfl
  | shut other reason =>
    show ∃ c', (y.hub.shut other reason).connections[place]? = some c' ∧ _
    rcases y.hub.shut_cases other reason with same | ⟨d, there, isOpen⟩
    · rw [same]
      exact handles_still found rfl rfl
    · obtain ⟨-, f, writers, connections, calledOff, outlet, -⟩ :=
        Hub.shut_spec there isOpen reason
      exact handles_at (fun _ => []) found there connections
        (.cuts calledOff (List.nil_append d.queue).symm outlet) fun _ _ => rfl
  | drain other =>
    show ∃ c', (y.hub.drain other).connections[place]? = some c' ∧ _
    -- Draining goes chunk by chunk: each turn gives one back and leaves the rest queued.
    unfold Hub.drain
    split
    · exact handles_still found rfl rfl
    · rename_i d there
      split
      · rename_i chunk queue closed queued
        refine handles_at (fun _ => []) found there rfl
          (.cuts (.inl rfl) (show d.queue = [chunk] ++ queue from queued) ?_) fun _ _ => rfl
        rw [← closed]
        rfl
      · exact handles_still found rfl rfl
  | halt other crew =>
    show ∃ c', (y.hub.halt other crew).connections[place]? = some c' ∧ _
    cases there : y.hub.connections[other]? with
    | none =>
      obtain ⟨c', next, works⟩ := (Hub.still_of_none there _).works found
      exact ⟨c', next, .works works⟩
    | some d =>
      refine handles_at (fun _ => []) found there rfl ?_ fun _ _ => rfl
      split
      · rename_i closed
        refine .cuts (.inr ⟨crew, rfl⟩) (List.nil_append d.queue).symm ?_
        rw [← closed]
        rfl
      · exact handles_aside rfl rfl

/-! ## What stays -/

end Yard

theorem Change.sound {p p' : Pool} {c c' : Connection} {data : Bytes}
    (change : Change p c data p' c') (sound : p.Sound) : p'.Sound := by
  cases change with
  | aside outlet kept counted => exact kept sound
  | queue data => exact Pool.sound_pack sound data
  | complete hand => exact Pool.sound_recycle sound _
  | close | stop => exact Pool.sound_recycleAll sound _
  | join | take | pass => exact sound

theorem Hub.Alters.sound {h k : Hub} (alters : h.Alters k) (sound : h.pool.Sound) :
    k.pool.Sound := by
  cases alters with
  | still connections pool => exact pool ▸ sound
  | changed found connections change => exact change.sound sound

theorem Hub.Shift.sound {h k : Hub} {m : Hub.Move} (shift : h.Shift m k) (sound : h.pool.Sound) :
    k.pool.Sound := by
  cases shift with
  | still connections pool => exact pool ▸ sound
  | opened connections pool => exact pool ▸ sound
  | changed found connections change => exact change.sound sound
  | ended ends found connections pool => exact pool ▸ sound
  | foreign isForeign connections kept => exact kept sound

theorem Hub.sound_step {h : Hub} (sound : h.pool.Sound) (m : Hub.Move) :
    (h.step m).pool.Sound := by
  cases m with
  | send place crew =>
    show (h.send place crew).1.pool.Sound
    cases send_cases h place crew with
    | goesOn alters => exact alters.sound sound
    | stops found hand returned =>
      rw [returned]
      exact Pool.sound_recycleAll sound _
  | endWriter place crew =>
    show (h.finish place crew).pool.Sound
    unfold finish
    split
    · exact sound
    · split
      · exact (alters_close h place writerStopped).sound sound
      · exact sound
  | «open» | start | serve | write | close | act | read | settle | shrink | endReader | borrow
  | giveBack => exact (move_cases h _).sound sound

namespace Yard

variable {y : Yard}

theorem sound_move (sound : y.hub.pool.Sound) (m : Move) : (y.move m).hub.pool.Sound := by
  cases m with
  | hub m => exact Hub.sound_step sound m
  | call place data =>
    rw [hub_call]
    exact sound
  | push k =>
    cases y.push_cases k with
    | idle same =>
      rw [same]
      exact sound
    | queues under some moved =>
      rw [moved]
      show (Hub.push _ _ _).pool.Sound
      unfold Hub.push
      split
      · exact sound
      · exact (Pool.allocate_spec sound _).2.2
  | checkOut k =>
    cases y.checkOut_cases k with
    | idle same =>
      rw [same]
      exact sound
    | returns under moved =>
      rw [moved]
      show (Hub.checkOut _ _).1.pool.Sound
      unfold Hub.checkOut
      split
      · exact sound
      · split
        · exact Pool.sound_recycleAll sound _
        · exact sound
  | shut place reason =>
    show (y.hub.shut place reason).pool.Sound
    rcases y.hub.shut_cases place reason with same | ⟨c, found, isOpen⟩
    · rw [same]
      exact sound
    · rw [(Hub.shut_spec found isOpen reason).1]
      exact sound
  | drain place =>
    show (y.hub.drain place).pool.Sound
    unfold Hub.drain
    split
    · exact sound
    · split
      · exact Pool.sound_recycle sound _
      · exact sound
  | halt place crew => exact sound

theorem sound_after (sound : y.hub.pool.Sound) (moves : List Move) :
    (y.after moves).hub.pool.Sound := by
  induction moves generalizing y with
  | nil => exact sound
  | cons m rest ih => exact ih (sound_move sound m)

end Yard

end Transport

end AtomicCommit
