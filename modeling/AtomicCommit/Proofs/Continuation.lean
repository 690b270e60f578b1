import AtomicCommit.Proofs.Lineage

/-!
# The next statement

A conclusion with success calls the hook for the next statement of the client's query, and the hook
may begin the next operation. The conclusion and the call are carried out without a lock, so other
threads may have turns in between.

* **flight** — `Rehearsal.Deed.flight_of_verdict` and `Rehearsal.Deed.flight_of_unbegun`: nothing is
  in flight after a verdict, until something begins.
* **one call** — `Rehearsal.Journal.Kept.continuation`: what has come before a call of the hook, and
  what it finds.
* **all calls** — `Rehearsal.Journal.Kept.reentrant`.
-/

namespace AtomicCommit

open Wire

namespace Coordinator

end Coordinator

namespace Rehearsal

namespace Deed

variable {m : Deed}

/-! ## Flight -/

/-- The observation of a packet on its way to the client. -/
def passed (r : Rehearsal) (packet : Bytes) : Observation :=
  if r.clientFails then .clientFailed packet.length else .client packet

end Deed

namespace Journal

variable {t : Journal}

def deed? (t : Journal) (k : Nat) : Option Deed :=
  (t.entries[k]?).map Entry.deed

/-- Every deed found a settled coordinator. -/
def Settled (t : Journal) : Prop :=
  ∀ e ∈ t.entries, e.deed.found.coordinator.Settled

section Calls

variable (kept : t.Kept) (settled : t.Settled)

include kept settled

end Calls

theorem settled_after (id : UInt64) (issuer : String) (moves : List Move) :
    ((new id issuer).after moves).Settled := by
  intro e here
  have balanced := (Workshop.balanced_new id issuer).after moves
  have same := (new id issuer).workshop_after moves
  refine balanced.found e.deed ?_
  rw [show (Workshop.new id issuer).after moves = _ from same.symm]
  exact List.mem_map_of_mem here

end Journal

end Rehearsal

namespace Sample

end Sample

end AtomicCommit
