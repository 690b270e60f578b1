import AtomicCommit.Proofs.Change
import AtomicCommit.Proofs.Wiring
import Mathlib.Data.UInt

/-!
# Closing once

A close is called by whoever has a connection at hand, its own tasks and the service that is just
being told among them. The first call on a connection gives the reason, takes the connection off the
register, counts it and tells its service, and no other call does any of this. The bytes that a hub
counts are those that its connections count.

* **calls** — `Hub.effect_call`: what a call does to what is counted.
* **accounts** — `Hub.InOrder.call`: the register, the count of closes and the counts of bytes stay
  what the connections make them.
* **first closes** — `Hub.run_of_closed` and `Hub.run_of_open`: a connection that is closed stays as
  it is and tells nobody; one that is open is closed, and tells its service, by the first close.
-/

namespace AtomicCommit

open Wire

/-- A list around the place of one of its members, before and after a change there. -/
theorem exists_modify {α : Type} {l : List α} {place : Nat} {a : α} (found : l[place]? = some a) :
    ∃ front back, l = front ++ a :: back ∧ front.length = place ∧
      ∀ f : α → α, l.modify place f = front ++ f a :: back := by
  induction l generalizing place with
  | nil => simp at found
  | cons b rest ih =>
    cases place with
    | zero =>
      obtain rfl : b = a := by simpa using found
      exact ⟨[], rest, rfl, rfl, fun _ => rfl⟩
    | succ place =>
      obtain ⟨front, back, whole, length, changed⟩ := ih (by simpa using found)
      refine ⟨b :: front, back, congrArg (b :: ·) whole, congrArg (· + 1) length, fun f => ?_⟩
      rw [List.modify_succ_cons, changed]
      rfl

namespace Transport

/-! ## Entries -/

namespace Entry

def isOpen (e : Entry) : Bool :=
  e.closeReason.isNone

def blank (id : Nat) : Entry :=
  ⟨id, none, none, 0, 0⟩

def serve (service : Option Nat) (e : Entry) : Entry :=
  { e with service := service }

def close (reason : String) (e : Entry) : Entry :=
  { e with closeReason := some reason, service := none }

end Entry

namespace Connection

theorem entry_close (c : Connection) (reason : String) :
    (c.close reason).entry = c.entry.close reason := by
  unfold Connection.close
  dsimp only
  cases c.waiting <;> cases c.stuck <;> rfl

end Connection

namespace Hub

variable {h k : Hub} {place : Nat} {m : Move} {e : Entry}

/-! ## Calls -/

/-- A service is told that its connection closed. -/
structure Farewell where
  place : Nat
  service : Nat
  reason : String
  deriving DecidableEq, Repr

/-- One call on a hub, whoever makes it. A task that stops calls a close of its own for that. -/
def call (h : Hub) : Move → Hub
  | .send place crew => (h.send place crew).1
  | m => h.move m

/-- Who is to be told of a close. -/
def Closing.farewells (place : Nat) (reason : String) : Closing → List Farewell
  | .again => []
  | .first service _ => service.toList.map (⟨place, ·, reason⟩)

/-- Who is told of a call, as the last thing that the call does. -/
def tells (h : Hub) : Move → List Farewell
  | .close place reason => (h.close place reason).2.farewells place reason
  | _ => []

/-- Calls one after another, and who is told of them. What a service calls when it is told comes
behind the call that it is told of. -/
def run (h : Hub) : List Move → Hub × List Farewell
  | [] => (h, [])
  | m :: rest => (((h.call m).run rest).1, h.tells m ++ ((h.call m).run rest).2)

/-! ## What calls do to what is counted -/

/-- Whether a call neither opens a connection nor closes it, nor gives it a service. -/
def Move.isPlain : Move → Bool
  | .open .. | .close .. | .serve .. => false
  | _ => true

def Move.opens : Move → Bool
  | .open .. => true
  | _ => false

/-- The service of a connection behind a call. -/
def Move.serves (place : Nat) (service : Option Nat) : Move → Option Nat
  | .serve other given => if other = place then given else service
  | _ => service

/-- The reason for which a call closes a connection. -/
def Move.closes? (place : Nat) : Move → Option String
  | .close other reason => if other = place then some reason else none
  | _ => none

/-- What a call does to what is counted, and who is told. -/
inductive Effect (h : Hub) : Move → Hub → Prop
  | opened {k : Hub} {host : String} {port : UInt16} {maxPacketSize : Nat} {shrinks : Bool}
      (entries : k.entries = h.entries ++ [.blank (h.entries.length + 1)])
      (registered : k.registered = h.registered ++ [h.entries.length + 1])
      (closedCount : k.closedCount = h.closedCount)
      (inBytes : k.inBytes = h.inBytes) (outBytes : k.outBytes = h.outBytes) :
      Effect h (.open host port maxPacketSize shrinks) k
  | served {k : Hub} {place : Nat} {service : Option Nat}
      (entries : k.entries = h.entries.modify place (Entry.serve service))
      (inBytes : k.inBytes = h.inBytes) (outBytes : k.outBytes = h.outBytes)
      (register : k.registered = h.registered ∧ k.closedCount = h.closedCount) :
      Effect h (.serve place service) k
  /-- The first close. -/
  | closed {k : Hub} {place : Nat} {reason : String} {e : Entry}
      (found : h.entries[place]? = some e) (isOpen : e.closeReason = none)
      (entries : k.entries = h.entries.modify place (Entry.close reason))
      (registered : k.registered = h.registered.erase e.id)
      (closedCount : k.closedCount =
        if h.registered.contains e.id then h.closedCount + 1 else h.closedCount)
      (inBytes : k.inBytes = h.inBytes) (outBytes : k.outBytes = h.outBytes)
      (told : h.tells (.close place reason) = e.service.toList.map (⟨place, ·, reason⟩)) :
      Effect h (.close place reason) k
  /-- A later close, or a close of nothing. -/
  | again {k : Hub} {place : Nat} {reason : String}
      (shut : ∀ e, h.entries[place]? = some e → e.closeReason ≠ none) (counts : h.Counts k)
      (told : h.tells (.close place reason) = []) : Effect h (.close place reason) k
  | plain {k : Hub} {m : Move} (isPlain : m.isPlain = true) (counts : h.Counts k) : Effect h m k

theorem effect_close (h : Hub) (place : Nat) (reason : String) :
    h.Effect (.close place reason) (h.close place reason).1 := by
  cases found : h.connections[place]? with
  | none =>
    have nothing : h.close place reason = (h, .again) := by
      unfold close
      rw [found]
    rw [nothing]
    refine .again ?_ (counts_refl h) ?_
    · intro e there
      rw [getElem?_entries, found] at there
      simp at there
    · simp only [tells, nothing, Closing.farewells]
  | some c =>
    have there : h.entries[place]? = some c.entry := by
      rw [getElem?_entries, found]
      rfl
    by_cases closed : c.isClosed = true
    · -- a connection that is closed keeps its first reason, and nobody is told again
      have again : h.close place reason = ({ h with pool := h.pool.recycleAll c.queue }.update place
          fun c => { c with queue := [] }, .again) := by
        unfold close
        rw [found]
        exact if_pos closed
      rw [again]
      refine .again ?_ (counts_aside rfl (fun _ => rfl) rfl rfl ⟨rfl, rfl⟩) ?_
      · intro e here
        obtain rfl := Option.some.inj (there.symm.trans here)
        exact Option.isSome_iff_ne_none.mp closed
      · simp only [tells, again, Closing.farewells]
    · have first : h.close place reason = ({ h with
            pool := h.pool.recycleAll c.queue
            registered := h.registered.erase c.id
            closedCount := if h.registered.contains c.id then h.closedCount + 1
              else h.closedCount }.update place (Connection.close · reason),
          .first c.service c.calledOff) := by
        unfold close
        rw [found]
        exact if_neg closed
      have isOpen : c.closeReason = none := by
        simpa [Connection.isClosed] using closed
      rw [first]
      refine .closed there isOpen ?_ rfl rfl rfl rfl ?_
      · exact entries_of_modify rfl fun c => c.entry_close reason
      · simp only [tells, first, Closing.farewells]
        rfl

/-- **Calls.** -/
theorem effect_call (h : Hub) (m : Move) : h.Effect m (h.call m) := by
  cases m with
  | «open» host port maxPacketSize shrinks =>
    have there : h.entries.length = h.connections.length := List.length_map ..
    refine .opened ?_ ?_ rfl rfl rfl
    · rw [there]
      exact List.map_append ..
    · rw [there]
      rfl
  | serve place service => exact .served (entries_of_modify rfl fun _ => rfl) rfl rfl ⟨rfl, rfl⟩
  | close place reason => exact effect_close h place reason
  | start place => exact .plain rfl (counts_start h place)
  | write place data => exact .plain rfl (counts_write h place data)
  | act place act => exact .plain rfl (counts_act h place act)
  | read place crew => exact .plain rfl (counts_read h place crew)
  | settle place crew split => exact .plain rfl (counts_settle h place crew split)
  | shrink place crew => exact .plain rfl (counts_shrink h place crew)
  | endReader place crew => exact .plain rfl (counts_endReader h place crew)
  | send place crew => exact .plain rfl (counts_send h place crew)
  | endWriter place crew => exact .plain rfl (counts_endWriter h place crew)
  | borrow | giveBack => exact .plain rfl (.still rfl rfl rfl ⟨rfl, rfl⟩)

theorem Effect.length (effect : h.Effect m k) :
    k.entries.length = h.entries.length + m.opens.toNat := by
  cases effect with
  | opened entries =>
    rw [entries, List.length_append]
    rfl
  | served entries | closed _ _ entries =>
    rw [entries, List.length_modify]
    rfl
  | again shut counts => exact counts.length
  | plain isPlain counts =>
    rw [counts.length]
    cases m with
    | «open» => simp [Move.isPlain] at isPlain
    | _ => rfl

/-! ## Accounts -/

/-- What is counted is what the connections make it. -/
structure InOrder (h : Hub) : Prop where
  ids : ∀ place e, h.entries[place]? = some e → e.id = place + 1
  registered : h.registered = (h.entries.filter Entry.isOpen).map Entry.id
  closed : h.closedCount = UInt64.ofNat (h.entries.countP (!·.isOpen))
  inBytes : h.inBytes = (h.entries.map Entry.inBytes).sum
  outBytes : h.outBytes = (h.entries.map Entry.outBytes).sum

theorem InOrder.still (inOrder : h.InOrder) (entries : k.entries = h.entries)
    (inBytes : k.inBytes = h.inBytes) (outBytes : k.outBytes = h.outBytes)
    (register : k.registered = h.registered ∧ k.closedCount = h.closedCount) : k.InOrder := by
  constructor
  · rw [entries]
    exact inOrder.ids
  · rw [entries, register.1, inOrder.registered]
  · rw [entries, register.2, inOrder.closed]
  · rw [entries, inBytes, inOrder.inBytes]
  · rw [entries, outBytes, inOrder.outBytes]

theorem InOrder.ids_modify (inOrder : h.InOrder) {g : Entry → Entry} (same : ∀ e, (g e).id = e.id)
    (entries : k.entries = h.entries.modify place g) (other : Nat) {e : Entry}
    (found : k.entries[other]? = some e) : e.id = other + 1 := by
  rw [entries, List.getElem?_modify] at found
  obtain ⟨e', there, rfl⟩ := Option.map_eq_some_iff.mp found
  have id := inOrder.ids other e' there
  split
  · rw [same, id]
  · exact id

/-- An entry changes that stays in the register if it is there. -/
theorem InOrder.modify (inOrder : h.InOrder) {g : Entry → Entry} {read written : UInt64}
    (found : h.entries[place]? = some e) (entries : k.entries = h.entries.modify place g)
    (same : ∀ e, (g e).id = e.id ∧ (g e).isOpen = e.isOpen)
    (reads : (g e).inBytes = e.inBytes + read) (writes : (g e).outBytes = e.outBytes + written)
    (inBytes : k.inBytes = h.inBytes + read) (outBytes : k.outBytes = h.outBytes + written)
    (register : k.registered = h.registered ∧ k.closedCount = h.closedCount) : k.InOrder := by
  obtain ⟨front, back, whole, -, changed⟩ := exists_modify found
  have after := entries.trans (changed g)
  obtain ⟨sameId, sameOpen⟩ := same e
  refine ⟨fun other _ => inOrder.ids_modify (fun e => (same e).1) entries other, ?_, ?_, ?_, ?_⟩
  · rw [register.1, inOrder.registered, whole, after]
    simp only [List.filter_append, List.filter_cons, sameOpen, List.map_append]
    split
    · simp only [List.map_cons, sameId]
    · rfl
  · rw [register.2, inOrder.closed, whole, after]
    simp only [List.countP_append, List.countP_cons, sameOpen]
  · rw [inBytes, inOrder.inBytes, whole, after]
    simp only [List.map_append, List.map_cons, List.sum_append, List.sum_cons, reads]
    grind
  · rw [outBytes, inOrder.outBytes, whole, after]
    simp only [List.map_append, List.map_cons, List.sum_append, List.sum_cons, writes]
    grind

theorem InOrder.counts (inOrder : h.InOrder) (counts : h.Counts k) : k.InOrder := by
  cases counts with
  | still entries inBytes outBytes register =>
    exact inOrder.still entries inBytes outBytes register
  | bytes read written found entries inBytes outBytes register =>
    exact inOrder.modify found entries (fun _ => ⟨rfl, rfl⟩) rfl rfl inBytes outBytes register

theorem InOrder.open (inOrder : h.InOrder)
    (entries : k.entries = h.entries ++ [.blank (h.entries.length + 1)])
    (registered : k.registered = h.registered ++ [h.entries.length + 1])
    (closedCount : k.closedCount = h.closedCount) (inBytes : k.inBytes = h.inBytes)
    (outBytes : k.outBytes = h.outBytes) : k.InOrder := by
  refine ⟨?_, ?_, ?_, ?_, ?_⟩
  · intro other e found
    rw [entries, List.getElem?_append] at found
    split at found
    · exact inOrder.ids other e found
    · rename_i behind
      obtain ⟨last, same⟩ := Option.ite_none_right_eq_some.mp (List.getElem?_singleton ▸ found)
      obtain rfl := Option.some.inj same
      show h.entries.length + 1 = other + 1
      omega
  · rw [registered, entries, inOrder.registered, List.filter_append, List.map_append]
    rfl
  · rw [closedCount, entries, inOrder.closed, List.countP_append]
    rfl
  · rw [inBytes, entries, inOrder.inBytes, List.map_append, List.sum_append]
    exact (UInt64.add_zero _).symm
  · rw [outBytes, entries, inOrder.outBytes, List.map_append, List.sum_append]
    exact (UInt64.add_zero _).symm

/-- The first close of a connection takes one id off the register, and it is there to be taken. -/
theorem InOrder.close (inOrder : h.InOrder) {reason : String} (found : h.entries[place]? = some e)
    (isOpen : e.closeReason = none)
    (entries : k.entries = h.entries.modify place (Entry.close reason))
    (registered : k.registered = h.registered.erase e.id)
    (closedCount : k.closedCount =
      if h.registered.contains e.id then h.closedCount + 1 else h.closedCount)
    (inBytes : k.inBytes = h.inBytes) (outBytes : k.outBytes = h.outBytes) : k.InOrder := by
  obtain ⟨front, back, whole, length, changed⟩ := exists_modify found
  have after := entries.trans (changed (Entry.close reason))
  have listed : e.isOpen = true := Option.isNone_iff_eq_none.mpr isOpen
  have unlisted : (e.close reason).isOpen = false := rfl
  have register : h.registered =
      (front.filter Entry.isOpen).map Entry.id ++ e.id ::
        (back.filter Entry.isOpen).map Entry.id := by
    rw [inOrder.registered, whole, List.filter_append, List.map_append,
      List.filter_cons_of_pos listed, List.map_cons]
  -- the ids in front are those of earlier places
  have first : e.id ∉ (front.filter Entry.isOpen).map Entry.id := by
    intro again
    obtain ⟨e', member, same⟩ := List.mem_map.mp again
    obtain ⟨earlier, there⟩ := List.mem_iff_getElem?.mp (List.mem_filter.mp member).1
    have bound := (List.getElem?_eq_some_iff.mp there).1
    have place' : h.entries[earlier]? = some e' := by
      rw [whole, List.getElem?_append_left bound]
      exact there
    have own := inOrder.ids _ _ found
    have other := inOrder.ids _ _ place'
    omega
  have ids := fun other e =>
    @InOrder.ids_modify h k place inOrder (.close reason) (fun _ => rfl) entries other e
  refine ⟨ids, ?_, ?_, ?_, ?_⟩
  · rw [registered, register, List.erase_append_right _ first, List.erase_cons_head, after,
      List.filter_append, List.map_append, List.filter_cons_of_neg (by simp [unlisted])]
  · have there : h.registered.contains e.id = true := by
      rw [register]
      simp
    rw [closedCount, if_pos there, inOrder.closed, whole, after]
    simp only [List.countP_append, List.countP_cons, listed, unlisted, Bool.not_true,
      Bool.not_false, if_true, Bool.false_eq_true, if_false, Nat.add_zero, UInt64.ofNat_add]
    grind
  · rw [inBytes, inOrder.inBytes, whole, after]
    simp only [List.map_append, List.map_cons]
    rfl
  · rw [outBytes, inOrder.outBytes, whole, after]
    simp only [List.map_append, List.map_cons]
    rfl

/-- **Accounts.** -/
theorem InOrder.call (inOrder : h.InOrder) (effect : h.Effect m k) : k.InOrder := by
  cases effect with
  | opened entries registered closedCount inBytes outBytes =>
    exact inOrder.open entries registered closedCount inBytes outBytes
  | @served _ place service entries inBytes outBytes register =>
    cases found : h.entries[place]? with
    | none =>
      refine inOrder.still (entries.trans ?_) inBytes outBytes register
      exact List.modify_eq_self (List.getElem?_eq_none_iff.mp found)
    | some e =>
      exact inOrder.modify found entries (fun _ => ⟨rfl, rfl⟩) (UInt64.add_zero _).symm
        (UInt64.add_zero _).symm (inBytes.trans (UInt64.add_zero _).symm)
        (outBytes.trans (UInt64.add_zero _).symm) register
  | closed found isOpen entries registered closedCount inBytes outBytes told =>
    exact inOrder.close found isOpen entries registered closedCount inBytes outBytes
  | again shut counts told => exact inOrder.counts counts
  | plain isPlain counts => exact inOrder.counts counts

theorem InOrder.run (inOrder : h.InOrder) (calls : List Move) : (h.run calls).1.InOrder := by
  induction calls generalizing h with
  | nil => exact inOrder
  | cons m rest ih => exact ih (inOrder.call (effect_call h m))

/-- A hub has the connections that were opened. -/
theorem length_run (h : Hub) (calls : List Move) :
    (h.run calls).1.entries.length = h.entries.length + calls.countP Move.opens := by
  induction calls generalizing h with
  | nil => rfl
  | cons m rest ih =>
    show ((h.call m).run rest).1.entries.length = _
    rw [ih, (effect_call h m).length, List.countP_cons]
    cases m.opens
    case false => simp
    case true => simp; omega

/-! ## First closes -/

/-- The first close of a connection: its reason, and the service that the connection has by then. -/
structure FirstClose where
  reason : String
  service : Option Nat
  deriving DecidableEq, Repr

/-- The first close of a connection among some calls, with so many connections there before them and
this service. What is called on a connection that is not there concerns nobody. -/
def firstClose (place : Nat) : (there : Nat) → (service : Option Nat) → List Move →
    Option FirstClose
  | _, _, [] => none
  | there, service, m :: rest =>
    if place < there then
      match m.closes? place with
      | some reason => some ⟨reason, service⟩
      | none => firstClose place (there + m.opens.toNat) (m.serves place service) rest
    else firstClose place (there + m.opens.toNat) service rest

/-- Who is told of it. -/
def FirstClose.told (place : Nat) (first : FirstClose) : List Farewell :=
  first.service.toList.map (⟨place, ·, first.reason⟩)

/-- What becomes of a connection in a call. -/
inductive Fate (h : Hub) (m : Move) (k : Hub) (place : Nat) : Prop
  | absent (missing : h.entries[place]? = none)
      (fresh : ∀ e, k.entries[place]? = some e → e.closeReason = none ∧ e.service = none)
      (silent : (h.tells m).filter (·.place = place) = [])
  | stays {e e' : Entry} (found : h.entries[place]? = some e) (found' : k.entries[place]? = some e')
      (reason : e'.closeReason = e.closeReason) (service : e'.service = m.serves place e.service)
      (other : e.closeReason = none → m.closes? place = none)
      (silent : (h.tells m).filter (·.place = place) = [])
  | closes {e : Entry} {reason : String} (found : h.entries[place]? = some e)
      (isOpen : e.closeReason = none) (closes : m.closes? place = some reason)
      (found' : k.entries[place]? = some (e.close reason))
      (told : (h.tells m).filter (·.place = place) = FirstClose.told place ⟨reason, e.service⟩)

theorem fate_of_modify {other : Nat} {g : Entry → Entry}
    (entries : k.entries = h.entries.modify other g)
    (reason : ∀ e, (if other = place then g e else e).closeReason = e.closeReason)
    (service : ∀ e, (if other = place then g e else e).service = m.serves place e.service)
    (closes : ∀ e, h.entries[place]? = some e → e.closeReason = none → m.closes? place = none)
    (silent : (h.tells m).filter (·.place = place) = []) : Fate h m k place := by
  have after : k.entries[place]? =
      (h.entries[place]?).map fun e => if other = place then g e else e := by
    rw [entries, List.getElem?_modify]
    cases h.entries[place]? <;> rfl
  cases found : h.entries[place]? with
  | none =>
    rw [found] at after
    exact .absent found (by simp [after]) silent
  | some e =>
    rw [found] at after
    exact .stays found after (reason e) (service e) (closes e found) silent

theorem fate_of_counts (counts : h.Counts k) (serves : ∀ service, m.serves place service = service)
    (closes : ∀ e, h.entries[place]? = some e → e.closeReason = none → m.closes? place = none)
    (silent : (h.tells m).filter (·.place = place) = []) : Fate h m k place := by
  cases counts with
  | still entries =>
    refine fate_of_modify (entries.trans (List.modify_id place _).symm) ?_ ?_ closes silent
    · intro e
      split <;> rfl
    · intro e
      rw [serves]
      split <;> rfl
  | bytes read written found entries =>
    refine fate_of_modify entries ?_ ?_ closes silent
    · intro e
      split <;> rfl
    · intro e
      rw [serves]
      split <;> rfl

/-- **Fates.** -/
theorem fate_of_effect (effect : h.Effect m k) (place : Nat) : Fate h m k place := by
  cases effect with
  | opened entries =>
    cases found : h.entries[place]? with
    | none =>
      refine .absent found ?_ rfl
      intro e there
      rw [entries, List.getElem?_append_right (List.getElem?_eq_none_iff.mp found)] at there
      obtain ⟨-, same⟩ := Option.ite_none_right_eq_some.mp (List.getElem?_singleton ▸ there)
      obtain rfl := Option.some.inj same
      exact ⟨rfl, rfl⟩
    | some e =>
      refine .stays found ?_ rfl rfl (fun _ => rfl) rfl
      rw [entries, List.getElem?_append_left (List.getElem?_eq_some_iff.mp found).1]
      exact found
  | @served _ other service entries =>
    refine fate_of_modify entries ?_ ?_ (fun _ _ _ => rfl) rfl
    · intro e
      split <;> rfl
    · intro e
      show _ = if other = place then service else e.service
      split <;> rfl
  | @closed _ other reason e found isOpen entries _ _ _ _ told =>
    by_cases here : other = place
    · subst here
      refine .closes found isOpen (if_pos rfl) ?_ ?_
      · rw [entries, List.getElem?_modify_eq, found]
        rfl
      · rw [told, FirstClose.told, List.filter_eq_self]
        intro farewell member
        obtain ⟨service, -, rfl⟩ := List.mem_map.mp member
        exact decide_eq_true rfl
    · -- somebody else's close, of which nothing is seen here
      refine fate_of_modify entries ?_ ?_ (fun _ _ _ => if_neg here) ?_
      · exact fun e => congrArg Entry.closeReason (if_neg here)
      · exact fun e => congrArg Entry.service (if_neg here)
      · rw [told, List.filter_eq_nil_iff]
        intro farewell member
        obtain ⟨service, -, rfl⟩ := List.mem_map.mp member
        simpa using here
  | @again _ other reason shut counts told =>
    refine fate_of_counts counts (fun _ => rfl) ?_ ?_
    · intro e found isOpen
      refine if_neg ?_
      rintro rfl
      exact shut e found isOpen
    · rw [told]
      rfl
  | plain isPlain counts =>
    cases m with
    | «open» | close | serve => simp [Move.isPlain] at isPlain
    | _ => exact fate_of_counts counts (fun _ => rfl) (fun _ _ _ => rfl) rfl

theorem told_cons (h : Hub) (m : Move) (rest : List Move) (place : Nat) :
    (h.run (m :: rest)).2.filter (·.place = place) =
      (h.tells m).filter (·.place = place) ++ ((h.call m).run rest).2.filter (·.place = place) :=
  List.filter_append ..

/-- A closed connection keeps its reason, and nobody is told of it. -/
theorem run_of_closed {reason : String} (found : h.entries[place]? = some e)
    (closed : e.closeReason = some reason) (calls : List Move) :
    (∃ e', (h.run calls).1.entries[place]? = some e' ∧ e'.closeReason = some reason) ∧
      (h.run calls).2.filter (·.place = place) = [] := by
  induction calls generalizing h e with
  | nil => exact ⟨⟨e, found, closed⟩, rfl⟩
  | cons m rest ih =>
    cases fate_of_effect (effect_call h m) place with
    | absent missing =>
      rw [found] at missing
      simp at missing
    | stays there found' kept service other silent =>
      obtain rfl := Option.some.inj (found.symm.trans there)
      obtain ⟨later, told⟩ := ih found' (kept.trans closed)
      refine ⟨later, ?_⟩
      rw [told_cons, silent, told]
      rfl
    | closes there isOpen =>
      obtain rfl := Option.some.inj (found.symm.trans there)
      rw [closed] at isOpen
      simp at isOpen

/-- A connection that is open and has this service, or is not there yet. -/
def Awaits (h : Hub) (place : Nat) (service : Option Nat) : Prop :=
  match h.entries[place]? with
  | none => service = none
  | some e => e.closeReason = none ∧ e.service = service

/-- **First closes.** An open connection is closed by the first close, for its reason, and its
service is told of that one close. -/
theorem run_of_open {service : Option Nat} (awaits : h.Awaits place service)
    (calls : List Move) :
    ((h.run calls).1.entries[place]?).bind Entry.closeReason =
        (firstClose place h.entries.length service calls).map FirstClose.reason ∧
      (h.run calls).2.filter (·.place = place) =
        (firstClose place h.entries.length service calls).elim [] (FirstClose.told place) := by
  -- on the calls: until the first close, the connection waits with the service it has
  induction calls generalizing h service with
  | nil =>
    refine ⟨?_, rfl⟩
    show (h.entries[place]?).bind _ = none
    unfold Awaits at awaits
    cases found : h.entries[place]? with
    | none => rfl
    | some e =>
      rw [found] at awaits
      exact awaits.1
  | cons m rest ih =>
    have effect := effect_call h m
    have length := effect.length
    rw [told_cons, firstClose]
    show ((h.call m).run rest).1.entries[place]?.bind _ = _ ∧ _
    unfold Awaits at awaits
    cases fate_of_effect effect place with
    | absent missing fresh silent =>
      have beyond := List.getElem?_eq_none_iff.mp missing
      have later : (h.call m).Awaits place service := by
        rw [missing] at awaits
        unfold Awaits
        cases there : (h.call m).entries[place]? with
        | none => exact awaits
        | some e => exact ⟨(fresh e there).1, (fresh e there).2.trans awaits.symm⟩
      rw [silent, if_neg (Nat.not_lt_of_le beyond), ← length]
      exact ih later
    | stays found found' kept served other silent =>
      rw [found] at awaits
      have within := (List.getElem?_eq_some_iff.mp found).1
      have later : (h.call m).Awaits place (m.serves place service) := by
        unfold Awaits
        rw [found']
        exact ⟨kept.trans awaits.1, by rw [served, awaits.2]⟩
      rw [silent, if_pos within, other awaits.1, ← length]
      exact ih later
    | closes found isOpen closes found' told =>
      rw [found] at awaits
      have within := (List.getElem?_eq_some_iff.mp found).1
      -- after its close, no call tells anybody anything
      obtain ⟨⟨e', there, reason⟩, nobody⟩ := run_of_closed found' rfl rest
      rw [told, nobody, if_pos within, closes, there, awaits.2]
      exact ⟨reason, List.append_nil _⟩

end Hub

end Transport

open Transport

namespace Network

variable (n : Network) (a : Address)

theorem hub_wakeAll (workers : List Transport.Worker) (side : Side) :
    (n.wakeAll a workers).hub side = n.hub side := by
  unfold wakeAll
  induction workers generalizing n with
  | nil => rfl
  | cons worker rest ih =>
    refine (ih (n.wake ⟨a, worker⟩)).trans ?_
    unfold wake
    split <;> cases side <;> rfl

/-- A network closes a connection by a call on its hub, and tells whom that tells, unless nobody
holds the service any more. -/
theorem close_eq_call (reason : String) :
    (n.close a reason).1.hub a.side = (n.hub a.side).call (.close a.place reason) ∧
      (n.close a reason).2 =
        (((n.hub a.side).tells (.close a.place reason)).filter (n.isAlive ·.service)).map
          fun farewell => .notify farewell.service farewell.reason := by
  show _ = ((n.hub a.side).close a.place reason).1 ∧
    _ = ((((n.hub a.side).close a.place reason).2.farewells a.place reason).filter _).map _
  unfold close
  generalize (n.hub a.side).close a.place reason = out
  obtain ⟨hub, closing⟩ := out
  cases closing with
  | again => exact ⟨n.hub_setHub a.side hub, rfl⟩
  | first service woken =>
    have woke : ((n.setHub a.side hub).wakeAll a woken).hub a.side = hub := by
      rw [hub_wakeAll, hub_setHub]
    have alive : ((n.setHub a.side hub).wakeAll a woken).isAlive = n.isAlive :=
      isAlive_of_services ((services_wakeAll ..).trans (services_setHub ..))
    -- whom the hub would tell is told if it is still there
    have told : ((Hub.Closing.farewells a.place reason (.first service woken)).filter
        (n.isAlive ·.service)).map (fun farewell => Task.notify farewell.service farewell.reason) =
          (service.filter n.isAlive).toList.map (Task.notify · reason) := by
      cases service with
      | none => rfl
      | some s => cases isAlive : n.isAlive s <;>
          simp [Hub.Closing.farewells, Option.filter, isAlive]
    rw [told, ← alive]
    dsimp only
    generalize (n.setHub a.side hub).wakeAll a woken = woken at woke
    split
    · refine ⟨Eq.trans ?_ woke, rfl⟩
      cases a.side <;> rfl
    · exact ⟨woke, rfl⟩

end Network

/-- **Close runs once.** Whatever is called on a hub, closes by anyone for any reason among it, the
connections on its register and those that it counts as closed are together those that were opened.
A connection has the reason of its first close from then on, and if it had a service, that service
is told of this close and nobody of any other. What the hub counts as read and written is what its
connections count together. -/
theorem close_runs_once (name : String) (pool : Pool) (calls : List Hub.Move) :
    let h := (Hub.run { name := name, pool := pool } calls).1
    let told := (Hub.run { name := name, pool := pool } calls).2
    let opened := calls.countP Hub.Move.opens
    (UInt64.ofNat h.registered.length + h.closedCount = UInt64.ofNat opened ∧
        (opened < 2 ^ 64 → h.registered.length + h.closedCount.toNat = opened)) ∧
      h.inBytes = (h.connections.map Connection.inBytes).sum ∧
      h.outBytes = (h.connections.map Connection.outBytes).sum ∧
      ∀ place,
        (h.connections[place]?).bind Connection.closeReason =
            (Hub.firstClose place 0 none calls).map (·.reason) ∧
          told.filter (·.place = place) =
            (Hub.firstClose place 0 none calls).elim [] (Hub.FirstClose.told place) ∧
          ∀ reason more, (h.connections[place]?).bind Connection.closeReason = some reason →
            ((h.run more).1.connections[place]?).bind Connection.closeReason = some reason := by
  intro h told opened
  have blank : Hub.InOrder { name := name, pool := pool } :=
    ⟨by simp [Hub.entries], rfl, rfl, rfl, rfl⟩
  have inOrder : h.InOrder := blank.run calls
  have length : h.entries.length = opened :=
    (Hub.length_run { name := name, pool := pool } calls).trans (Nat.zero_add _)
  -- every connection that was opened is registered or was closed, and never both
  have split : h.registered.length + h.entries.countP (!·.isOpen) = opened := by
    have all := @List.length_eq_countP_add_countP _ Entry.isOpen h.entries
    rw [inOrder.registered, List.length_map, ← List.countP_eq_length_filter, ← length, all]
    simp only [Bool.not_eq_true, Bool.decide_eq_false]
  have seen (k : Hub) (place : Nat) : (k.connections[place]?).bind Connection.closeReason =
      (k.entries[place]?).bind Entry.closeReason := by
    rw [Hub.getElem?_entries, Option.bind_map]
    rfl
  refine ⟨⟨?_, ?_⟩, ?_, ?_, ?_⟩
  · rw [inOrder.closed, ← UInt64.ofNat_add, split]
  · intro few
    rw [inOrder.closed, UInt64.toNat_ofNat_of_lt' (Nat.lt_of_le_of_lt (by omega) few)]
    exact split
  · rw [inOrder.inBytes, Hub.entries, List.map_map]
    rfl
  · rw [inOrder.outBytes, Hub.entries, List.map_map]
    rfl
  · intro place
    have missing : Hub.Awaits { name := name, pool := pool } place none := rfl
    obtain ⟨reasons, farewells⟩ := Hub.run_of_open missing calls
    refine ⟨(seen h place).trans reasons, farewells, ?_⟩
    intro reason more closed
    rw [seen] at closed ⊢
    obtain ⟨e, found, own⟩ := Option.bind_eq_some_iff.mp closed
    obtain ⟨⟨e', found', kept⟩, -⟩ := Hub.run_of_closed found own more
    rw [found']
    exact kept

/-- The case of a service that closes its connection again when it is told, and of a writing task
that does so at its end. -/
theorem abrupt_close_is_told_once :
    (Hub.run { name := "sample" } [.open "a.db" 3306 16 true, .serve 0 (some 7),
      .close 0 "abrupt", .close 0 "again", .close 0 Hub.writerStopped]).2.filter (·.place = 0) =
        [⟨0, 7, "abrupt"⟩] :=
  ((close_runs_once "sample" {} _).2.2.2 0).2.1

end AtomicCommit
