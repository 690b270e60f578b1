import AtomicCommit.Proofs.Handling

/-!
# What becomes of the bytes queued at a connection

What is written to a connection is cut into chunks, each chunk is taken in hand by the writing task,
and the peer takes it piece by piece. A shipment accounts for every byte queued: those of chunks
that went out whole, the part that went out of the chunk in hand and the rest of it, those still
queued, and those lost. Chunks are lost from the front of the queue: a close marks the connection
first and then returns them one by one, and until the writing task notices, it may take up the next
one although the one before was returned. `Marks` keeps record of that.

* **kinds of steps** — `Ships.take`, `Ships.pass`, `Ships.complete`, `Ships.queue`, `Ships.leave`
  and `Ships.cut`: what each does to a shipment.
* **every step** — `Ships.handle`: whatever a yard does, every byte stays accounted for.
* **whole calls** — `Works.inTurn`: as long as nobody interrupts a call or a close, chunks are taken
  up in turn.
-/

namespace AtomicCommit

open Wire

namespace Transport

/-! ## Marks -/

/-- What became of the chunks of a connection that were not taken up in turn. -/
structure Marks where
  /-- A chunk was returned to the pool that nobody had taken up. -/
  returned : Bool := false
  /-- A chunk was taken up after that. -/
  skipped : Bool := false
  deriving DecidableEq, Repr

/-- A chunk leaves the queue for somebody's hand, or for the pool. -/
def Marks.past (m : Marks) (o o' : Outlet) : Marks :=
  if o.queue.length ≤ o'.queue.length then m
  else if total Writer.chunks o.writers < total Writer.chunks o'.writers then
    { m with skipped := m.skipped || m.returned }
  else { m with returned := true }

namespace Marks

variable {m : Marks} {o o' : Outlet}

theorem past_of_same (same : o'.queue = o.queue) : m.past o o' = m :=
  if_pos (Nat.le_of_eq (congrArg List.length same.symm))

theorem past_of_queued {chunks : List Buffer} (behind : o'.queue = o.queue ++ chunks) :
    m.past o o' = m := by
  apply if_pos
  rw [behind, List.length_append]
  exact Nat.le_add_right _ _

theorem past_of_taken {chunk : Buffer} (chunks : o.queue = chunk :: o'.queue)
    (taken : total Writer.chunks o.writers < total Writer.chunks o'.writers) :
    m.past o o' = { m with skipped := m.skipped || m.returned } := by
  have fewer : ¬ o.queue.length ≤ o'.queue.length := by
    rw [chunks, List.length_cons]
    omega
  rw [past, if_neg fewer, if_pos taken]

/-- As long as nobody takes a chunk up, fewer are queued because some were returned. -/
theorem past_of_untaken (untaken : total Writer.chunks o'.writers ≤ total Writer.chunks o.writers) :
    m.past o o' =
      if o.queue.length ≤ o'.queue.length then m else { m with returned := true } := by
  rw [past, if_neg (Nat.not_lt_of_le untaken)]

/-- What counts is how many chunks are queued and in hand. -/
theorem past_congr {p p' : Outlet} (queue : p.queue = o.queue) (queue' : p'.queue = o'.queue)
    (hands : total Writer.chunks p.writers = total Writer.chunks o.writers)
    (hands' : total Writer.chunks p'.writers = total Writer.chunks o'.writers) :
    m.past p p' = m.past o o' := by
  unfold past
  rw [queue, queue', hands, hands']

end Marks

/-! ## Shipments -/

/-- What a writing task has in hand that has not gone out. -/
def Writer.unsent : Writer → Bytes
  | .sending chunk sent => chunk.readable.drop sent
  | .idle | .stopping _ | .leaving | .finished => []

/-- What a writing task has in hand: the part that went out, and the rest. -/
def Writer.Holds (part rest : Bytes) : Writer → Prop
  | .idle => part = [] ∧ rest = []
  | .sending chunk sent => chunk.Full ∧ sent < chunk.length ∧
      part = chunk.readable.take sent ∧ rest = chunk.readable.drop sent
  | .stopping _ | .leaving | .finished => rest = []

/-- The only writing task, if there is one, holds this. -/
def Holds (part rest : Bytes) : List Writer → Prop
  | [] => part = [] ∧ rest = []
  | [w] => w.Holds part rest
  | _ => False

/-- No writing task was told to stop, or stops for itself. -/
def Active (writers : List Writer) : Prop :=
  ∀ w ∈ writers, w.isActive = true

/-- Where the bytes are that were queued at a connection. -/
structure Ships (queued : Bytes) (m : Marks) (o : Outlet) (done part rest lost : Bytes) :
    Prop where
  taken : o.taken = done ++ part
  counted : o.outBytes = UInt64.ofNat done.length
  hand : Holds part rest o.writers
  full : ∀ b ∈ o.queue, b.Full
  /-- What is lost lies in front of what is queued, as long as no chunk behind it went out. -/
  whole : m.skipped = false →
    queued = done ++ part ++ rest ++ lost ++ o.queue.flatMap Buffer.readable
  ordered : (done ++ part ++ rest ++ o.queue.flatMap Buffer.readable).Sublist queued
  sized : (done ++ part ++ rest ++ o.queue.flatMap Buffer.readable).length + lost.length =
    queued.length
  /-- Nothing went out of a chunk only in part, unless some of it is still missing. -/
  broken : rest ++ lost = [] → part = []
  /-- Bytes are lost only when a chunk is returned, or when the writing task stops. -/
  keeps : m.returned = false → Active o.writers → lost = []
  /-- Chunks are returned after the close. -/
  shut : m.returned = true ∨ m.skipped = true → o.closed = true

theorem ships_blank : Ships [] {} ⟨false, [], [], [], 0⟩ [] [] [] [] where
  taken := rfl
  counted := rfl
  hand := ⟨rfl, rfl⟩
  full _ none := absurd none List.not_mem_nil
  whole _ := rfl
  ordered := List.Sublist.slnil
  sized := rfl
  broken _ := rfl
  keeps _ _ := rfl
  shut marked := absurd marked (by simp)

/-- The task that has something in hand is the only one. -/
theorem Holds.single {part rest : Bytes} {writers : List Writer} {crew : Nat} {w : Writer}
    (holds : Holds part rest writers) (hand : writers[crew]? = some w) :
    writers = [w] ∧ crew = 0 ∧ w.Holds part rest := by
  cases writers with
  | nil => exact absurd hand (by simp)
  | cons v others =>
    cases others with
    | nil =>
      cases crew with
      | zero =>
        obtain rfl := Option.some.inj hand
        exact ⟨rfl, rfl, holds⟩
      | succ crew => exact absurd hand (by simp)
    | cons => exact absurd holds id

/-- What is in hand of the only task that has anything in hand. -/
theorem Holds.unsent {part rest : Bytes} {writers : List Writer} (holds : Holds part rest writers) :
    writers.flatMap Writer.unsent = rest := by
  cases writers with
  | nil => exact holds.2.symm
  | cons w others =>
    cases others with
    | nil =>
      rw [List.flatMap_cons, List.flatMap_nil, List.append_nil]
      cases w with
      | sending chunk sent => exact holds.2.2.2.symm
      | idle => exact holds.2.symm
      | stopping | leaving | finished => exact Eq.symm holds
    | cons => exact absurd holds id

/-- A task that is called off loses the rest of what it has in hand. -/
theorem Holds.calledOff {part rest : Bytes} {before after : List Writer}
    (holds : Holds part rest before) (off : CalledOff before after) :
    ∃ kept gone, rest = kept ++ gone ∧ Holds part kept after ∧ (Active after → gone = []) := by
  have nothing : ∃ kept gone, rest = kept ++ gone ∧ Holds part kept before ∧
      (Active before → gone = []) :=
    ⟨rest, [], (List.append_nil rest).symm, holds, fun _ => rfl⟩
  rcases off with rfl | ⟨crew, rfl⟩
  · exact nothing
  · cases hand : before[crew]? with
    | none =>
      rw [List.modify_eq_self (List.getElem?_eq_none_iff.mp hand)]
      exact nothing
    | some w =>
      obtain ⟨rfl, rfl, inHand⟩ := holds.single hand
      cases w with
      | sending chunk sent =>
        refine ⟨[], rest, rfl, rfl, fun active => ?_⟩
        exact absurd (active _ List.mem_cons_self) Bool.false_ne_true
      | idle | stopping | leaving | finished => exact nothing

/-- A task that stops goes on to do so. -/
theorem CalledOff.active {before after : List Writer} (off : CalledOff before after)
    (active : Active after) : Active before := by
  rcases off with rfl | ⟨crew, rfl⟩
  · exact active
  · intro w here
    obtain ⟨i, there⟩ := List.mem_iff_getElem?.mp here
    cases w with
    | idle | sending => rfl
    | stopping | leaving | finished =>
      refine active _ (List.mem_of_getElem? (i := i) ?_)
      rw [List.getElem?_modify, there]
      split <;> rfl

section Steps

variable {o : Outlet} {m : Marks} {queued data done part rest lost : Bytes} {crew : Nat}

theorem Ships.join (ships : Ships queued m o done part rest lost)
    (alone : (o.writers ++ [Writer.idle]).length ≤ 1) :
    Ships queued m { o with writers := o.writers ++ [.idle] } done part rest lost := by
  have none : o.writers = [] := by
    rw [List.length_append] at alone
    exact List.length_eq_zero_iff.mp (Nat.le_zero.mp (Nat.le_of_succ_le_succ alone))
  have hand := ships.hand
  have keeps := ships.keeps
  rw [none] at hand keeps ⊢
  exact { ships with
    hand := hand
    keeps := fun inPlace _ => keeps inPlace fun _ nobody => absurd nobody List.not_mem_nil }

/-- Chunks are queued behind the others, on a closed connection too. -/
theorem Ships.queue (ships : Ships queued m o done part rest lost) {chunks : List Buffer}
    (packed : chunks.flatMap Buffer.readable = data) (full : ∀ b ∈ chunks, b.Full) :
    Ships (queued ++ data) m { o with queue := o.queue ++ chunks } done part rest lost := by
  have behind : (o.queue ++ chunks).flatMap Buffer.readable =
      o.queue.flatMap Buffer.readable ++ data := by rw [List.flatMap_append, packed]
  refine { ships with
    full := fun b here => (List.mem_append.mp here).elim (ships.full b) (full b)
    whole := ?_
    ordered := ?_
    sized := ?_ }
  · intro inTurn
    dsimp only
    rw [behind, ships.whole inTurn, List.append_assoc]
  · dsimp only
    rw [behind, ← List.append_assoc]
    exact ships.ordered.append (List.Sublist.refl data)
  · have sized := ships.sized
    dsimp only
    rw [behind]
    simp only [List.length_append] at sized ⊢
    omega

/-- The next chunk is taken up. It goes out in turn unless one in front of it was returned. -/
theorem Ships.take (ships : Ships queued m o done part rest lost)
    (idle : o.writers[crew]? = some .idle) {chunk : Buffer} {queue : List Buffer}
    (chunks : o.queue = chunk :: queue) :
    Ships queued { m with skipped := m.skipped || m.returned } { o with
      queue := queue
      writers := o.writers.modify crew fun _ => .sending chunk 0 } done [] chunk.readable lost := by
  obtain ⟨alone, rfl, rfl, rfl⟩ := ships.hand.single idle
  have full : chunk.Full := ships.full chunk (chunks ▸ List.mem_cons_self)
  have keeps := ships.keeps
  have ordered := ships.ordered
  have sized := ships.sized
  have split : o.queue.flatMap Buffer.readable =
      chunk.readable ++ queue.flatMap Buffer.readable := by rw [chunks, List.flatMap_cons]
  rw [split] at ordered sized
  rw [alone] at keeps ⊢
  have untouched (inPlace : m.returned = false) : lost = [] := by
    apply keeps inPlace
    rintro w here
    obtain rfl := List.mem_singleton.mp here
    rfl
  refine { ships with
    hand := ⟨full, full.positive, rfl, rfl⟩
    full := fun b here => ships.full b (chunks ▸ List.mem_cons_of_mem _ here)
    whole := ?_
    ordered := by simpa using ordered
    sized := by simpa using sized
    broken := fun _ => rfl
    keeps := fun inPlace _ => untouched inPlace
    shut := fun marked => ships.shut (by simpa [or_comm, or_assoc] using marked) }
  intro inTurn
  obtain ⟨before, inPlace⟩ := Bool.or_eq_false_iff.mp inTurn
  rw [ships.whole before, split, untouched inPlace]
  simp

theorem Ships.pass (ships : Ships queued m o done part rest lost) {chunk : Buffer} {sent n : Nat}
    (sending : o.writers[crew]? = some (.sending chunk sent)) (short : sent + n < chunk.length) :
    Ships queued m { o with
      writers := o.writers.modify crew fun _ => .sending chunk (sent + n)
      taken := o.taken ++ (chunk.readable.drop sent).take n }
      done (chunk.readable.take (sent + n)) (chunk.readable.drop (sent + n)) lost := by
  obtain ⟨alone, rfl, full, less, rfl, rfl⟩ := ships.hand.single sending
  have size := Buffer.length_readable full.sound
  have keeps := ships.keeps
  have same : done ++ chunk.readable.take (sent + n) ++ chunk.readable.drop (sent + n) =
      done ++ chunk.readable.take sent ++ chunk.readable.drop sent := by simp
  rw [alone] at keeps ⊢
  exact { ships with
    taken := by rw [ships.taken, List.take_add, List.append_assoc]
    hand := ⟨full, short, rfl, rfl⟩
    whole := by
      rw [same]
      exact ships.whole
    ordered := by
      rw [same]
      exact ships.ordered
    sized := by
      rw [same]
      exact ships.sized
    broken := by
      intro nothing
      have := List.drop_eq_nil_iff.mp (List.append_eq_nil_iff.mp nothing).1
      omega
    keeps := fun inPlace _ => keeps inPlace fun w here => by
      obtain rfl := List.mem_singleton.mp here
      rfl }

theorem Ships.complete (ships : Ships queued m o done part rest lost) {chunk : Buffer}
    {sent n : Nat} (sending : o.writers[crew]? = some (.sending chunk sent))
    (enough : chunk.length ≤ sent + n) :
    Ships queued m { o with
      writers := o.writers.modify crew fun _ => .idle
      taken := o.taken ++ (chunk.readable.drop sent).take n
      outBytes := o.outBytes + chunk.length.toUInt64 } (done ++ chunk.readable) [] [] lost := by
  obtain ⟨alone, rfl, full, less, rfl, rfl⟩ := ships.hand.single sending
  have size := Buffer.length_readable full.sound
  have keeps := ships.keeps
  have all : (chunk.readable.drop sent).take n = chunk.readable.drop sent := by
    apply List.take_of_length_le
    rw [List.length_drop]
    omega
  -- What was in hand moves over into what is done; the whole between them stays as it was.
  have same : done ++ chunk.readable ++ [] ++ [] =
      done ++ chunk.readable.take sent ++ chunk.readable.drop sent := by simp
  rw [alone] at keeps
  rw [alone, all]
  exact { ships with
    taken := by
      rw [ships.taken]
      simp
    counted := by
      show o.outBytes + UInt64.ofNat chunk.length = _
      rw [ships.counted, List.length_append, size, UInt64.ofNat_add]
    hand := ⟨rfl, rfl⟩
    whole := by
      rw [same]
      exact ships.whole
    ordered := by
      rw [same]
      exact ships.ordered
    sized := by
      rw [same]
      exact ships.sized
    broken := fun _ => rfl
    keeps := fun inPlace _ => keeps inPlace fun w here => by
      obtain rfl := List.mem_singleton.mp here
      rfl }

/-- A task that stops loses the rest of what it has in hand. -/
theorem Ships.leave (ships : Ships queued m o done part rest lost) {w : Writer}
    (hand : o.writers[crew]? = some w) :
    Ships queued m { o with writers := o.writers.modify crew fun _ => .leaving } done part []
      (rest ++ lost) := by
  obtain ⟨alone, rfl, -⟩ := ships.hand.single hand
  rw [alone]
  refine { ships with
    hand := rfl
    whole := fun inTurn => by simpa using ships.whole inTurn
    ordered := ?_
    sized := ?_
    keeps := fun _ active => absurd (active _ List.mem_cons_self) Bool.false_ne_true }
  · have less : (done ++ part ++ []).Sublist (done ++ part ++ rest) :=
      (List.Sublist.refl _).append (List.nil_sublist rest)
    exact (less.append (List.Sublist.refl _)).trans ships.ordered
  · have sized := ships.sized
    simp only [List.length_append, List.length_nil] at sized ⊢
    omega

/-- On a closed connection a task may be called off, and chunks at the front of the queue are
returned. -/
theorem Ships.cut (ships : Ships queued m o done part rest lost) {writers : List Writer}
    (calledOff : CalledOff o.writers writers) {front queue : List Buffer}
    (chunks : o.queue = front ++ queue) {o' : Outlet}
    (outlet : o' = { o with closed := true, queue := queue, writers := writers }) :
    ∃ kept gone, Ships queued (m.past o o') o' done part kept gone := by
  subst outlet
  obtain ⟨kept, gone, split, hand, untouched⟩ := ships.hand.calledOff calledOff
  have behind : o.queue.flatMap Buffer.readable =
      front.flatMap Buffer.readable ++ queue.flatMap Buffer.readable := by
    rw [chunks, List.flatMap_append]
  have ordered := ships.ordered
  have sized := ships.sized
  have broken := ships.broken
  rw [split, behind] at ordered sized
  rw [split] at broken
  -- Nothing is taken from the queue here, so the marks change only where the queue got shorter.
  have marked : (m.past o ⟨true, queue, writers, o.taken, o.outBytes⟩).skipped = m.skipped ∧
      ((m.past o ⟨true, queue, writers, o.taken, o.outBytes⟩).returned = false →
        front = [] ∧ m.returned = false) := by
    rw [Marks.past_of_untaken (Nat.le_of_eq (total_calledOff calledOff))]
    split
    · rename_i kept
      replace kept : o.queue.length ≤ queue.length := kept
      rw [chunks, List.length_append] at kept
      have nothing : front = [] := List.length_eq_zero_iff.mp (by omega)
      exact ⟨rfl, fun inPlace => ⟨nothing, inPlace⟩⟩
    · exact ⟨rfl, fun inPlace => absurd inPlace.symm Bool.false_ne_true⟩
  refine ⟨kept, gone ++ lost ++ front.flatMap Buffer.readable, { ships with
    hand := hand
    full := fun b here => ships.full b (chunks ▸ List.mem_append_right _ here)
    whole := ?_
    ordered := ?_
    sized := ?_
    broken := ?_
    keeps := ?_
    shut := fun _ => rfl }⟩
  · rw [marked.1]
    intro inTurn
    rw [ships.whole inTurn, split, behind]
    simp
  · have less : (done ++ part ++ kept).Sublist (done ++ part ++ (kept ++ gone)) :=
      (List.Sublist.refl _).append (List.sublist_append_left ..)
    exact (less.append (List.sublist_append_right ..)).trans ordered
  · simp only [List.length_append] at sized ⊢
    omega
  · intro nothing
    apply broken
    simp only [List.append_eq_nil_iff] at nothing ⊢
    exact ⟨⟨nothing.1, nothing.2.1.1⟩, nothing.2.1.2⟩
  · intro inPlace active
    obtain ⟨rfl, before⟩ := marked.2 inPlace
    rw [untouched active, ships.keeps before (calledOff.active active)]
    rfl

end Steps

/-! ## Every step -/

section Handling

variable {c c' : Connection} {p p' : Pool} {m : Marks} {queued data done part rest lost : Bytes}

/-- A task that ends has lost all that it had in hand. -/
theorem Ships.finish {crew : Nat} (ships : Ships queued m c.outlet done part rest lost)
    (finishes : Finishes c c' crew) : Ships queued m c'.outlet done part rest lost := by
  obtain ⟨alone, rfl, inHand⟩ := ships.hand.single finishes.leaving
  have single : c.writers = [.leaving] := alone
  rw [finishes.outlet, single]
  exact { ships with
    hand := inHand
    keeps := fun _ active => absurd (active _ List.mem_cons_self) Bool.false_ne_true }

theorem Ships.change (ships : Ships queued m c.outlet done part rest lost)
    (change : Change p c data p' c') (sound : p.Sound) (alone : c'.writers.length ≤ 1) :
    ∃ done part rest lost,
      Ships (queued ++ data) (m.past c.outlet c'.outlet) c'.outlet done part rest lost := by
  change c'.outlet.writers.length ≤ 1 at alone
  cases change with
  | aside outlet =>
    rw [outlet, Marks.past_of_same rfl, List.append_nil]
    exact ⟨_, _, _, _, ships⟩
  | join outlet =>
    have level : m.past c.outlet c'.outlet = m := Marks.past_of_same (by rw [outlet])
    rw [outlet] at alone
    rw [level, outlet, List.append_nil]
    exact ⟨_, _, _, _, ships.join alone⟩
  | queue data isOpen outlet =>
    have level : m.past c.outlet c'.outlet = m :=
      Marks.past_of_queued (congrArg Outlet.queue outlet)
    obtain ⟨packed, full⟩ := Pool.pack_spec sound data
    rw [level, outlet]
    exact ⟨_, _, _, _, ships.queue packed full⟩
  | @take _ crew chunk queue idle chunks outlet =>
    have hands := total_modify_writer idle (.sending chunk 0)
    have taken : m.past c.outlet c'.outlet = { m with skipped := m.skipped || m.returned } := by
      have queued : c'.outlet.queue = queue := congrArg Outlet.queue outlet
      apply Marks.past_of_taken (queued ▸ chunks)
      rw [outlet]
      exact Nat.lt_of_lt_of_eq (Nat.lt_succ_self _) hands.symm
    rw [taken, outlet, List.append_nil]
    exact ⟨_, _, _, _, ships.take idle chunks⟩
  | pass sending short outlet =>
    have level : m.past c.outlet c'.outlet = m := Marks.past_of_same (by rw [outlet])
    rw [level, outlet, List.append_nil]
    exact ⟨_, _, _, _, ships.pass sending short⟩
  | complete sending enough outlet =>
    have level : m.past c.outlet c'.outlet = m := Marks.past_of_same (by rw [outlet])
    rw [level, outlet, List.append_nil]
    exact ⟨_, _, _, _, ships.complete sending enough⟩
  | close calledOff outlet =>
    obtain ⟨kept, gone, cut⟩ := ships.cut calledOff (List.append_nil c.queue).symm outlet
    rw [List.append_nil]
    exact ⟨_, _, _, _, cut⟩
  | @stop _ crew w writers hand calledOff outlet =>
    let left : Outlet := { c.outlet with writers := c.writers.modify crew fun _ => .leaving }
    obtain ⟨kept, gone, cut⟩ := (ships.leave hand).cut calledOff
      (List.append_nil c.queue).symm outlet
    -- to leave makes no difference to what is queued, and only lets go of what is in hand
    have lighter : total Writer.chunks left.writers ≤ total Writer.chunks c.writers :=
      Nat.le_trans (Nat.le_add_right _ _) (Nat.le_of_eq (total_modify_writer hand .leaving))
    have same : total Writer.chunks c'.outlet.writers = total Writer.chunks left.writers := by
      rw [outlet]
      exact total_calledOff calledOff
    have level : m.past left c'.outlet = m.past c.outlet c'.outlet := by
      rw [Marks.past_of_untaken (Nat.le_of_eq same),
        Marks.past_of_untaken (Nat.le_trans (Nat.le_of_eq same) lighter)]
    rw [List.append_nil, ← level]
    exact ⟨_, _, _, _, cut⟩

theorem Ships.work (ships : Ships queued m c.outlet done part rest lost)
    (works : Works p c c' data) (sound : p.Sound) (alone : c'.writers.length ≤ 1) :
    ∃ done part rest lost,
      Ships (queued ++ data) (m.past c.outlet c'.outlet) c'.outlet done part rest lost := by
  cases works with
  | changes change => exact ships.change change sound alone
  | leaves hand outlet =>
    have level : m.past c.outlet c'.outlet = m := Marks.past_of_same (by rw [outlet])
    rw [level, outlet, List.append_nil]
    exact ⟨_, _, _, _, ships.leave hand⟩
  | @ends d writers crew calledOff closed finishes =>
    obtain ⟨kept, gone, cut⟩ := ships.cut calledOff (List.append_nil c.queue).symm closed
    have hands := total_modify_writer finishes.leaving .finished
    have level : m.past c.outlet c'.outlet = m.past c.outlet d.outlet := by
      rw [finishes.outlet]
      exact Marks.past_congr rfl rfl rfl hands
    rw [List.append_nil, level]
    exact ⟨_, _, _, _, cut.finish finishes⟩

/-- **Every step.** -/
theorem Ships.handle (ships : Ships queued m c.outlet done part rest lost)
    (handles : Handles p c c' data) (sound : p.Sound) (alone : c'.writers.length ≤ 1) :
    ∃ done part rest lost,
      Ships (queued ++ data) (m.past c.outlet c'.outlet) c'.outlet done part rest lost := by
  cases handles with
  | works works => exact ships.work works sound alone
  | queues full outlet =>
    have level : m.past c.outlet c'.outlet = m :=
      Marks.past_of_queued (congrArg Outlet.queue outlet)
    rw [level, outlet]
    exact ⟨_, _, _, _, ships.queue (List.append_nil _) (by simpa using full)⟩
  | cuts calledOff chunks outlet =>
    obtain ⟨kept, gone, cut⟩ := ships.cut calledOff chunks outlet
    rw [List.append_nil]
    exact ⟨_, _, _, _, cut⟩

/-! ## Whole calls -/

/-- A close that nobody interrupts leaves nothing queued. -/
def Outlet.Tidy (o : Outlet) : Prop :=
  o.closed = true → o.queue = []

theorem Works.tidy (works : Works p c c' data) (tidy : c.outlet.Tidy) : c'.outlet.Tidy := by
  cases works with
  | changes change =>
    cases change with
    | aside outlet | join outlet | pass hand short outlet | complete hand whole outlet =>
      rw [outlet]
      exact tidy
    | queue data isOpen outlet =>
      rw [outlet]
      exact fun closed => absurd (isOpen.symm.trans closed) Bool.false_ne_true
    | take idle queued outlet =>
      rw [outlet]
      exact fun closed => absurd (queued.symm.trans (tidy closed)) (List.cons_ne_nil _ _)
    | close calledOff outlet | stop hand calledOff outlet =>
      rw [outlet]
      exact fun _ => rfl
  | leaves hand outlet =>
    rw [outlet]
    exact tidy
  | ends calledOff closed finishes =>
    rw [finishes.outlet, closed]
    exact fun _ => rfl

/-- Chunks leave the queue when the connection is closed, or when a task takes one up. -/
theorem Works.of_fewer (works : Works p c c' data)
    (fewer : ¬ c.outlet.queue.length ≤ c'.outlet.queue.length) : c'.isClosed = true ∨
      total Writer.chunks c.outlet.writers < total Writer.chunks c'.outlet.writers := by
  cases works with
  | changes change =>
    cases change with
    | aside outlet | join outlet | pass hand short outlet | complete hand whole outlet =>
      rw [outlet] at fewer
      exact absurd (Nat.le_refl _) fewer
    | queue data isOpen outlet =>
      rw [outlet] at fewer
      simp [Connection.outlet] at fewer
    | @take _ crew chunk queue idle queued outlet =>
      right
      rw [outlet]
      have more := total_modify_writer idle (.sending chunk 0)
      exact Nat.lt_of_lt_of_eq (Nat.lt_succ_self _) more.symm
    | close calledOff outlet | stop hand calledOff outlet =>
      exact .inl (congrArg Outlet.closed outlet)
  | leaves hand outlet =>
    rw [outlet] at fewer
    exact absurd (Nat.le_refl _) fewer
  | ends calledOff closed finishes =>
    left
    show c'.outlet.closed = true
    rw [finishes.outlet, closed]

/-- Who takes a chunk up finds the connection open, and so nothing was returned before. -/
theorem Works.inTurn (works : Works p c c' data) (tidy : c.outlet.Tidy)
    (shut : m.returned = true → c.isClosed = true) :
    (m.past c.outlet c'.outlet).skipped = m.skipped ∧
      ((m.past c.outlet c'.outlet).returned = true → c'.isClosed = true) := by
  unfold Marks.past
  split
  · exact ⟨rfl, fun returned => works.closed (shut returned)⟩
  · rename_i fewer
    split
    · have inPlace : m.returned = false := by
        cases returned : m.returned with
        | false => rfl
        | true =>
          have empty := tidy (shut returned)
          rw [empty] at fewer
          exact absurd (Nat.zero_le _) fewer
      simp [inPlace]
    · rename_i untaken
      exact ⟨rfl, fun _ => (works.of_fewer fewer).resolve_right untaken⟩

end Handling

end Transport

end AtomicCommit
