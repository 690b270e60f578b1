import AtomicCommit.Transport.Hub
import Mathlib.Logic.Function.Basic

/-!
# What a hub counts

An `Entry` is what is counted of a connection. The tasks of a connection, its callers and its peer
change no entry but by counting bytes, and what they count for the connection they count for the
hub. Only opening a connection, giving it a service and closing it do more.

* **entries** — `Hub.Counts`: what the entries and the counters of a hub become, `counts_read`,
  `counts_send` and so on for each operation.
-/

namespace AtomicCommit

open Wire

/-- A change at one place of a list, seen through `g`. -/
theorem map_modify {α β : Type} {l : List α} {place : Nat} {f : α → α} {g : α → β} {h : β → β}
    (seen : ∀ a, l[place]? = some a → g (f a) = h (g a)) :
    (l.modify place f).map g = (l.map g).modify place h := by
  apply List.ext_getElem?
  intro other
  rw [List.getElem?_map, List.getElem?_modify, List.getElem?_modify, List.getElem?_map]
  cases found : l[other]? with
  | none => rfl
  | some a =>
    by_cases here : place = other
    · subst here
      simp [seen a found]
    · simp [here]

/-- A change that cannot be seen through `g`. -/
theorem map_modify_of_same {α β : Type} {l : List α} {place : Nat} {f : α → α} {g : α → β}
    (same : ∀ a, l[place]? = some a → g (f a) = g a) : (l.modify place f).map g = l.map g :=
  (map_modify same).trans (List.modify_id ..)

namespace Transport

/-! ## Entries -/

/-- What is counted of a connection. -/
structure Entry where
  id : Nat
  closeReason : Option String
  service : Option Nat
  inBytes : UInt64
  outBytes : UInt64

/-- Count bytes that were read and bytes that were written. -/
def Entry.count (read written : UInt64) (e : Entry) : Entry :=
  { e with inBytes := e.inBytes + read, outBytes := e.outBytes + written }

def Connection.entry (c : Connection) : Entry :=
  ⟨c.id, c.closeReason, c.service, c.inBytes, c.outBytes⟩

namespace Hub

variable {h k : Hub} {place : Nat}

def entries (h : Hub) : List Entry :=
  h.connections.map Connection.entry

theorem getElem?_entries : h.entries[place]? = (h.connections[place]?).map Connection.entry :=
  List.getElem?_map ..

theorem entries_of_modify {f : Connection → Connection} {g : Entry → Entry}
    (became : k.connections = h.connections.modify place f)
    (seen : ∀ c, (f c).entry = g c.entry) : k.entries = h.entries.modify place g := by
  unfold entries
  rw [became]
  exact map_modify fun c _ => seen c

/-! ## Operations -/

/-- Bytes are counted, for a connection and for the hub. -/
inductive Counts (h k : Hub) : Prop
  | still (entries : k.entries = h.entries) (inBytes : k.inBytes = h.inBytes)
      (outBytes : k.outBytes = h.outBytes)
      (register : k.registered = h.registered ∧ k.closedCount = h.closedCount)
  | bytes {place : Nat} {e : Entry} (read written : UInt64) (found : h.entries[place]? = some e)
      (entries : k.entries = h.entries.modify place (Entry.count read written))
      (inBytes : k.inBytes = h.inBytes + read) (outBytes : k.outBytes = h.outBytes + written)
      (register : k.registered = h.registered ∧ k.closedCount = h.closedCount)

theorem Counts.length (counts : h.Counts k) : k.entries.length = h.entries.length := by
  cases counts with
  | still entries => rw [entries]
  | bytes read written found entries => rw [entries, List.length_modify]

/-- A change of a connection that is not counted. -/
theorem counts_aside {f : Connection → Connection}
    (became : k.connections = h.connections.modify place f) (same : ∀ c, (f c).entry = c.entry)
    (inBytes : k.inBytes = h.inBytes) (outBytes : k.outBytes = h.outBytes)
    (register : k.registered = h.registered ∧ k.closedCount = h.closedCount) : h.Counts k := by
  refine .still ?_ inBytes outBytes register
  unfold entries
  rw [became]
  exact map_modify_of_same fun c _ => same c

/-- A change of a connection that counts bytes. -/
theorem counts_bytes {c : Connection} {f : Connection → Connection}
    (found : h.connections[place]? = some c) (became : k.connections = h.connections.modify place f)
    (read written : UInt64) (same : ∀ c, (f c).entry = c.entry.count read written)
    (inBytes : k.inBytes = h.inBytes + read) (outBytes : k.outBytes = h.outBytes + written)
    (register : k.registered = h.registered ∧ k.closedCount = h.closedCount) : h.Counts k := by
  have there : h.entries[place]? = some c.entry := by
    rw [getElem?_entries, found]
    rfl
  exact .bytes read written there (entries_of_modify became same) inBytes outBytes register

theorem counts_refl (h : Hub) : h.Counts h :=
  .still rfl rfl rfl ⟨rfl, rfl⟩

theorem counts_start (h : Hub) (place : Nat) : h.Counts (h.start place).1 := by
  unfold start
  split
  · exact counts_refl h
  · exact counts_aside rfl (fun _ => rfl) rfl rfl ⟨rfl, rfl⟩

theorem counts_write (h : Hub) (place : Nat) (data : Bytes) :
    h.Counts (h.write place data).1 := by
  unfold write
  split
  · exact counts_refl h
  · split
    · exact counts_refl h
    · exact counts_aside rfl (fun _ => rfl) rfl rfl ⟨rfl, rfl⟩

theorem counts_readInto {c : Connection} (found : h.connections[place]? = some c) (pool : Pool)
    (crew : Nat) (b : Buffer) :
    h.Counts (({ h with pool := pool }).readInto place crew c b).1 := by
  unfold readInto
  dsimp only
  split
  · exact counts_aside rfl (fun _ => rfl) rfl rfl ⟨rfl, rfl⟩
  · exact counts_aside rfl (fun _ => rfl) rfl rfl ⟨rfl, rfl⟩
  · exact counts_aside rfl (fun _ => rfl) rfl rfl ⟨rfl, rfl⟩
  · rename_i data _
    refine counts_bytes found rfl data.length.toUInt64 0 (fun c => ?_) rfl
      (UInt64.add_zero _).symm ⟨rfl, rfl⟩
    simp only [Connection.entry, Entry.count, UInt64.add_zero]
    rfl

theorem counts_readOn {c : Connection} (found : h.connections[place]? = some c) (pool : Pool)
    (crew : Nat) (b : Buffer) :
    h.Counts (({ h with pool := pool }).readOn place crew c b).1 := by
  unfold readOn
  split
  · exact counts_aside rfl (fun _ => rfl) rfl rfl ⟨rfl, rfl⟩
  · exact counts_readInto found _ crew _

theorem counts_read (h : Hub) (place crew : Nat) : h.Counts (h.read place crew).1 := by
  unfold read
  split
  · exact counts_refl h
  · rename_i c found
    split
    · exact counts_readOn found _ crew _
    · exact counts_readOn found h.pool crew _
    · exact counts_readInto found h.pool crew _
    · exact counts_aside rfl (fun _ => rfl) rfl rfl ⟨rfl, rfl⟩
    · exact counts_refl h

theorem counts_settle (h : Hub) (place crew : Nat) (split : Split) :
    h.Counts (h.settle place crew split).1 := by
  unfold settle
  split
  · exact counts_refl h
  · split
    · dsimp only
      split
      · exact counts_aside rfl (fun _ => rfl) rfl rfl ⟨rfl, rfl⟩
      · exact counts_aside rfl (fun _ => rfl) rfl rfl ⟨rfl, rfl⟩
    · exact counts_refl h

theorem counts_shrink (h : Hub) (place crew : Nat) : h.Counts (h.shrink place crew) := by
  unfold shrink
  split
  · exact counts_refl h
  · split
    · split
      · exact counts_aside rfl (fun _ => rfl) rfl rfl ⟨rfl, rfl⟩
      · exact counts_refl h
    · exact counts_refl h

theorem counts_endReader (h : Hub) (place crew : Nat) : h.Counts (h.endReader place crew) := by
  unfold endReader
  split
  · exact counts_refl h
  · split
    · exact counts_aside rfl (fun _ => rfl) rfl rfl ⟨rfl, rfl⟩
    · exact counts_refl h

theorem counts_send (h : Hub) (place crew : Nat) : h.Counts (h.send place crew).1 := by
  unfold send
  split
  · exact counts_refl h
  · rename_i c found
    split
    · rename_i chunk sent _
      unfold sendChunk
      dsimp only
      split
      · exact counts_aside rfl (fun _ => rfl) rfl rfl ⟨rfl, rfl⟩
      · split
        · refine counts_bytes found rfl 0 chunk.length.toUInt64 (fun c => ?_)
            (UInt64.add_zero _).symm rfl ⟨rfl, rfl⟩
          simp only [Connection.entry, Entry.count, UInt64.add_zero]
          rfl
        · exact counts_aside rfl (fun _ => rfl) rfl rfl ⟨rfl, rfl⟩
    · exact counts_aside rfl (fun _ => rfl) rfl rfl ⟨rfl, rfl⟩
    · exact counts_aside rfl (fun _ => rfl) rfl rfl ⟨rfl, rfl⟩
    · split
      · exact counts_aside rfl (fun _ => rfl) rfl rfl ⟨rfl, rfl⟩
      · split
        · exact counts_aside rfl (fun _ => rfl) rfl rfl ⟨rfl, rfl⟩
        · exact counts_aside rfl (fun _ => rfl) rfl rfl ⟨rfl, rfl⟩
    · exact counts_refl h

theorem counts_endWriter (h : Hub) (place crew : Nat) : h.Counts (h.endWriter place crew) := by
  have same (c : Connection) : (if c.writers[crew]? = some .leaving then
      { c.setWriter crew .finished with peer.shutDown := true } else c).entry = c.entry := by
    split <;> rfl
  exact counts_aside rfl same rfl rfl ⟨rfl, rfl⟩

theorem counts_act (h : Hub) (place : Nat) (act : Peer.Act) :
    h.Counts (h.update place fun c => { c with peer := c.peer.act act }) :=
  counts_aside rfl (fun _ => rfl) rfl rfl ⟨rfl, rfl⟩

end Hub

end Transport

end AtomicCommit
