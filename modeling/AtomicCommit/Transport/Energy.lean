import AtomicCommit.Measure
import AtomicCommit.Transport.Hub

/-!
# Turns end

The tasks of a hub cannot take turns for ever without the outside doing something. `energy` is
what drives them: bytes not read yet, tasks not ended, connections not closed. `backlog` is what
is queued and not written. Every operation of a hub lowers the energy or leaves it as it is;
`energy_read` and `energy_send` say that a turn which is not the last before a wait lowers the
energy, or else the backlog.
-/

namespace AtomicCommit.Transport

open Wire

/-! ## Energy -/

/-- How many changes a reading task still goes through. -/
def Reader.energy : Reader → Nat
  | .starting => 3
  | .reading _ | .waiting _ | .stopping _ => 2
  | .leaving _ => 1
  | .finished => 0

/-- How many changes a writing task still goes through, chunks apart. -/
def Writer.energy : Writer → Nat
  | .idle | .sending .. | .stopping _ => 2
  | .leaving => 1
  | .finished => 0

/-- Whether a writing task still has to write a chunk, as a number. -/
def Writer.backlog : Writer → Nat
  | .sending .. => 1
  | _ => 0

/-- How often a peer can still be read, waits and the end apart. -/
def Peer.energy (p : Peer) : Nat :=
  p.incoming.length + p.readError.toList.length

/-- How often a connection can still read or change. -/
def Connection.energy (c : Connection) : Nat :=
  c.peer.energy + total Reader.energy c.readers + total Writer.energy c.writers +
    (!c.isClosed).toNat

/-- How many turns of writing tasks the chunks of a connection take. -/
def Connection.backlog (c : Connection) : Nat :=
  2 * c.queue.length + total Writer.backlog c.writers

/-! ## Peers -/

namespace Peer

theorem energy_read_le (p : Peer) (room : Nat) : (p.read room).1.energy ≤ p.energy := by
  unfold read
  split
  · split
    · exact Nat.le_refl _
    · simp [energy]
  · split <;> simp_all [energy]

theorem energy_read_lt (p : Peer) (room : Nat) {data : Bytes} (h : (p.read room).2 = .bytes data) :
    (p.read room).1.energy < p.energy := by
  unfold read at h ⊢
  split
  · rename_i waiting
    have := List.length_pos_iff.2 waiting
    split
    · simp_all
    · simp [energy]
      omega
  · split <;> simp_all
    split at h <;> simp at h

theorem energy_write (p : Peer) (data : Bytes) : (p.write data).1.energy = p.energy := by
  unfold write
  split
  · rfl
  · split
    · rfl
    · split <;> rfl

end Peer

/-! ## Connections -/

namespace Connection

theorem energy_setReader {c : Connection} {crew : Nat} {reader : Reader} (after : Reader)
    (found : c.readers[crew]? = some reader) :
    (c.setReader crew after).energy + reader.energy = c.energy + after.energy := by
  have := total_modify (g := Reader.energy) (f := fun _ => after) found
  simp only [energy, setReader, isClosed]
  omega

theorem energy_setReader_lt {c : Connection} {crew : Nat} {reader : Reader} (buffer : Buffer)
    (found : c.readers[crew]? = some reader) (active : 2 ≤ reader.energy) :
    (c.setReader crew (.leaving buffer)).energy < c.energy := by
  have eq := energy_setReader (.leaving buffer) found
  change _ = _ + 1 at eq
  omega

theorem energy_setReader_reading {c : Connection} {crew : Nat} {before : Buffer}
    (after : Buffer) (found : c.readers[crew]? = some (.reading before)) :
    (c.setReader crew (.reading after)).energy = c.energy :=
  Nat.add_right_cancel (m := 2) (energy_setReader (.reading after) found)

theorem energy_await {c : Connection} {crew : Nat} {reader : Reader} (buffer : Buffer)
    (found : c.readers[crew]? = some reader) :
    (c.await crew buffer).energy + reader.energy = c.energy + 2 := by
  have := total_modify (g := Reader.energy) (f := fun _ => .waiting buffer) found
  simp only [energy, await, isClosed, Reader.energy] at this ⊢
  omega

theorem energy_setWriter {c : Connection} {crew : Nat} {writer : Writer} (after : Writer)
    (found : c.writers[crew]? = some writer) :
    (c.setWriter crew after).energy + writer.energy = c.energy + after.energy := by
  have := total_modify (g := Writer.energy) (f := fun _ => after) found
  simp only [energy, setWriter, isClosed]
  omega

theorem energy_setWriter_lt {c : Connection} {crew : Nat} {writer : Writer}
    (found : c.writers[crew]? = some writer) (active : 2 ≤ writer.energy) :
    (c.setWriter crew .leaving).energy < c.energy := by
  have eq := energy_setWriter .leaving found
  change _ = _ + 1 at eq
  omega

theorem backlog_setWriter {c : Connection} {crew : Nat} {writer : Writer} (after : Writer)
    (found : c.writers[crew]? = some writer) :
    (c.setWriter crew after).backlog + writer.backlog = c.backlog + after.backlog := by
  have := total_modify (g := Writer.backlog) (f := fun _ => after) found
  simp only [backlog, setWriter]
  omega

theorem energy_block {c : Connection} {crew : Nat} {writer : Writer} (chunk : Buffer) (sent : Nat)
    (found : c.writers[crew]? = some writer) :
    (c.block crew chunk sent).energy + writer.energy = c.energy + 2 := by
  have := total_modify (g := Writer.energy) (f := fun _ => .sending chunk sent) found
  simp only [energy, block, isClosed, Writer.energy] at this ⊢
  omega

theorem energy_peer (c : Connection) (peer : Peer) :
    { c with peer := peer }.energy + c.peer.energy = c.energy + peer.energy := by
  simp only [energy, isClosed]
  omega

theorem energy_stopReader (reader : Reader) : (stopReader reader).energy ≤ reader.energy := by
  cases reader <;> exact Nat.le_refl _

theorem energy_stopWriter (writer : Writer) : (stopWriter writer).energy ≤ writer.energy := by
  cases writer <;> exact Nat.le_refl _

theorem energy_close {c : Connection} (reason : String) (isOpen : c.closeReason = none) :
    (c.close reason).energy < c.energy := by
  have readers := total_modify_le energy_stopReader c.readers
  have writers := total_modify_le energy_stopWriter c.writers
  unfold close
  cases waits : c.waiting <;> cases stuck : c.stuck <;>
    simp [energy, isClosed, isOpen] <;> grind

end Connection

/-! ## Hubs -/

namespace Hub

def energy (h : Hub) : Nat :=
  total Connection.energy h.connections

def backlog (h : Hub) : Nat :=
  total Connection.backlog h.connections

/-! ## Operations -/

theorem energy_update_eq {h : Hub} {place : Nat} {c : Connection} {f : Connection → Connection}
    (found : h.connections[place]? = some c) (eq : (f c).energy = c.energy) :
    (h.update place f).energy = h.energy := by
  have := total_modify (g := Connection.energy) (f := f) found
  simp only [energy, update]
  omega

theorem energy_update_lt {h : Hub} {place : Nat} {c : Connection} {f : Connection → Connection}
    (found : h.connections[place]? = some c) (lt : (f c).energy < c.energy) :
    (h.update place f).energy < h.energy := by
  have := total_modify (g := Connection.energy) (f := f) found
  simp only [energy, update]
  omega

theorem backlog_update_lt {h : Hub} {place : Nat} {c : Connection} {f : Connection → Connection}
    (found : h.connections[place]? = some c) (lt : (f c).backlog < c.backlog) :
    (h.update place f).backlog < h.backlog := by
  have := total_modify (g := Connection.backlog) (f := f) found
  simp only [backlog, update]
  omega

@[simp] theorem energy_write (h : Hub) (place : Nat) (data : Bytes) :
    (h.write place data).1.energy = h.energy := by
  unfold write
  split
  · rfl
  · rename_i c found
    split
    · rfl
    · exact energy_update_eq (h := { h with pool := _ }) found rfl

/-- The first close of a connection lowers the energy. -/
theorem energy_close (h : Hub) (place : Nat) (reason : String) :
    (h.close place reason).2 = .again ∧ (h.close place reason).1.energy = h.energy ∨
      (h.close place reason).1.energy < h.energy := by
  unfold close
  split
  · exact .inl ⟨rfl, rfl⟩
  · rename_i c found
    dsimp only
    split
    · exact .inl ⟨rfl, energy_update_eq (h := { h with pool := _ }) found rfl⟩
    · rename_i isOpen
      exact .inr (energy_update_lt
        (h := { h with pool := _, registered := _, closedCount := _ }) found
        (Connection.energy_close reason (by simpa [Connection.isClosed] using isOpen)))

@[simp] theorem energy_shrink (h : Hub) (place crew : Nat) :
    (h.shrink place crew).energy = h.energy := by
  unfold shrink
  split
  · rfl
  · rename_i c found
    split
    · rename_i reading
      split
      · refine energy_update_eq (h := { h with pool := _ }) found ?_
        exact Connection.energy_setReader_reading _ reading
      · rfl
    · rfl

theorem energy_endReader (h : Hub) (place crew : Nat) :
    (h.endReader place crew).energy ≤ h.energy := by
  unfold endReader
  split
  · exact Nat.le_refl _
  · rename_i c found
    split
    · rename_i leaving
      have := Connection.energy_setReader .finished leaving
      refine Nat.le_of_lt (energy_update_lt (h := { h with pool := _ }) found ?_)
      simp only [Reader.energy] at this
      omega
    · exact Nat.le_refl _

theorem energy_endWriter (h : Hub) (place crew : Nat) :
    (h.endWriter place crew).energy ≤ h.energy := by
  refine total_modify_le (fun c => ?_) ..
  split
  · rename_i leaving
    have := Connection.energy_setWriter .finished leaving
    change (c.setWriter crew .finished).energy ≤ _
    simp only [Writer.energy] at this
    omega
  · exact Nat.le_refl _

/-- Behind the frames of a turn, a task that stops lowers the energy. -/
theorem energy_settle (h : Hub) (place crew : Nat) (split : Split) :
    (h.settle place crew split).2 = none ∧ (h.settle place crew split).1.energy = h.energy ∨
      (h.settle place crew split).1.energy < h.energy := by
  unfold settle
  split
  · exact .inl ⟨rfl, rfl⟩
  · rename_i c found
    split
    · rename_i reading
      dsimp only
      split
      · refine .inr (energy_update_lt (h := { h with pool := _ }) found ?_)
        exact Connection.energy_setReader_lt _ reading (Nat.le_refl 2)
      · refine .inl ⟨rfl, energy_update_eq (h := { h with pool := _ }) found ?_⟩
        exact Connection.energy_setReader_reading _ reading
    · exact .inl ⟨rfl, rfl⟩

/-! ## Turns -/

/-- What a reading turn comes to: less energy, or a wait. -/
def Reads (h : Hub) (out : Hub × Turn) : Prop :=
  out.2 = .wait ∧ out.1.energy ≤ h.energy ∨ out.1.energy < h.energy

theorem energy_readInto {h : Hub} {place crew : Nat} {c : Connection} {reader : Reader}
    (buffer : Buffer) (found : h.connections[place]? = some c)
    (tasked : c.readers[crew]? = some reader) (active : 2 ≤ reader.energy) :
    h.Reads (h.readInto place crew c buffer) := by
  unfold readInto
  have le := c.peer.energy_read_le buffer.free
  have lt := @Peer.energy_read_lt c.peer buffer.free
  generalize c.peer.read buffer.free = out at le lt
  obtain ⟨peer, reading⟩ := out
  -- A blocked read only parks its reader; every other outcome uses something up.
  cases reading with
  | blocked =>
    have total := total_modify (g := Connection.energy)
      (f := (Connection.await · crew buffer)) found
    have waits := Connection.energy_await buffer tasked
    refine .inl ⟨rfl, ?_⟩
    simp only [energy, update]
    omega
  | ended => exact .inr (energy_update_lt found (Connection.energy_setReader_lt _ tasked active))
  | failed text =>
    have stops := Connection.energy_setReader_lt buffer tasked active
    have peers := (c.setReader crew (.leaving buffer)).energy_peer peer
    refine .inr (energy_update_lt found ?_)
    change _ + c.peer.energy = _ at peers
    dsimp only at le ⊢
    omega
  | bytes data =>
    have less := lt rfl
    have goes := total_modify (g := Reader.energy)
      (f := fun _ => .reading (Intake.receive buffer data)) tasked
    have still : (Reader.reading (Intake.receive buffer data)).energy = 2 := rfl
    refine .inr (energy_update_lt (h := { h with inBytes := _ }) found ?_)
    simp only [Connection.energy, Connection.setReader, Connection.isClosed] at less goes ⊢
    omega

theorem energy_readOn {h : Hub} {place crew : Nat} {c : Connection} {reader : Reader}
    (buffer : Buffer) (found : h.connections[place]? = some c)
    (tasked : c.readers[crew]? = some reader) (active : 2 ≤ reader.energy) :
    h.Reads (h.readOn place crew c buffer) := by
  unfold readOn
  split
  · exact .inr (energy_update_lt found (Connection.energy_setReader_lt _ tasked active))
  · exact energy_readInto (h := { h with pool := _ }) _ found tasked active

/-- A turn of a reading task lowers the energy, unless the task waits. -/
theorem energy_read (h : Hub) (place crew : Nat) : h.Reads (h.read place crew) := by
  unfold read
  split
  · exact .inl ⟨rfl, Nat.le_refl _⟩
  · rename_i c found
    split
    · rename_i starting
      exact energy_readOn (h := { h with pool := h.pool.allocateChunk.2 }) _ found starting
        (Nat.le_succ 2)
    · rename_i reading
      exact energy_readOn _ found reading (Nat.le_refl 2)
    · rename_i waiting
      exact energy_readInto _ found waiting (Nat.le_refl 2)
    · rename_i stopping
      exact .inr (energy_update_lt found
        (Connection.energy_setReader_lt _ stopping (Nat.le_refl 2)))
    · exact .inl ⟨rfl, Nat.le_refl _⟩

/-- What a turn of a writing task comes to: less energy, a wait, or less backlog. -/
def Proceeds (h : Hub) (out : Hub × Progress) : Prop :=
  out.1.energy < h.energy ∨
    out.1.energy = h.energy ∧ (out.2 = .wait ∨ out.2 = .again ∧ out.1.backlog < h.backlog)

theorem energy_sendChunk {h : Hub} {place crew : Nat} {c : Connection} {chunk : Buffer}
    {sent : Nat} (found : h.connections[place]? = some c)
    (sending : c.writers[crew]? = some (.sending chunk sent)) :
    h.Proceeds (h.sendChunk place crew c chunk sent) := by
  unfold sendChunk
  have eq := c.peer.energy_write (chunk.readable.drop sent)
  generalize c.peer.write (chunk.readable.drop sent) = out at eq
  obtain ⟨peer, result⟩ := out
  cases result with
  | error text =>
    exact .inl (energy_update_lt (h := { h with pool := _ }) found
      (Connection.energy_setWriter_lt sending (Nat.le_refl 2)))
  | ok n =>
    dsimp only at eq ⊢
    split
    · -- A chunk that is through costs its writer nothing and shortens the backlog by one.
      have goes := total_modify (g := Writer.energy) (f := fun _ => .idle) sending
      have less := Connection.backlog_setWriter .idle sending
      refine .inr ⟨energy_update_eq (h := { h with pool := _, outBytes := _ }) found ?_,
        .inr ⟨rfl, backlog_update_lt (h := { h with pool := _, outBytes := _ }) found ?_⟩⟩
      · simp only [Connection.energy, Connection.setWriter, Connection.isClosed, Writer.energy]
          at goes ⊢
        omega
      · change _ + 1 = _ + 0 at less
        change (c.setWriter crew .idle).backlog < _
        omega
    · have waits := Connection.energy_block chunk (sent + n) sending
      have peers := (c.block crew chunk (sent + n)).energy_peer peer
      change _ + 2 = _ + 2 at waits
      change _ + c.peer.energy = _ at peers
      refine .inr ⟨energy_update_eq found ?_, .inl rfl⟩
      omega

theorem energy_send (h : Hub) (place crew : Nat) : h.Proceeds (h.send place crew) := by
  unfold send
  split
  · exact .inr ⟨rfl, .inl rfl⟩
  · rename_i c found
    split
    · rename_i sending
      exact energy_sendChunk found sending
    · rename_i stopping
      exact .inl (energy_update_lt (h := { h with pool := _ }) found
        (Connection.energy_setWriter_lt stopping (Nat.le_refl 2)))
    · rename_i chunk _ idle queued
      have goes := Connection.energy_setWriter (.sending chunk 0) idle
      have less := Connection.backlog_setWriter (.sending chunk 0) idle
      change _ + 2 = _ + 2 at goes
      change _ + 0 = _ + 1 at less
      refine .inr ⟨energy_update_eq found ?_, .inr ⟨rfl, backlog_update_lt found ?_⟩⟩
      · change (c.setWriter crew (.sending chunk 0)).energy = _
        omega
      · simp only [Connection.backlog, Connection.setWriter, queued, List.length_cons] at less ⊢
        omega
    · rename_i idle _
      have stops := Connection.energy_setWriter_lt idle (Nat.le_refl 2)
      split
      · exact .inl (energy_update_lt found stops)
      · split
        · exact .inl (energy_update_lt found stops)
        · exact .inr ⟨energy_update_eq found rfl, .inl rfl⟩
    · exact .inr ⟨rfl, .inl rfl⟩

end Hub

end AtomicCommit.Transport
