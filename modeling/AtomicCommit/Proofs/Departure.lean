import AtomicCommit.Proofs.Life
import AtomicCommit.Proofs.Prospect

/-!
# Departures between transactions' ends

A link that closes while no operation is in flight is unbound, and that is all: the session is then
the same as if its owner had unbound the link (`Docket.closed_of_settled`). A commit that begins
later does not address the shard, and nothing speaks against its success on account of the
departure. It concludes with success iff nothing that happens during the commit itself spoils it.
-/

namespace AtomicCommit

open Wire

/-- The report that a link closed. -/
def Act.closed (link : Link) (reason : String) : Act :=
  .input (.event (.closed link reason))

namespace Docket

variable {d : Docket}

/-- At rest a close is a detachment and nothing else. -/
theorem closed_of_settled (settled : d.coordinator.Settled)
    (idle : d.coordinator.operation.stage = none) (link : Link) (reason : String) :
    d.act (.closed link reason) = d.act (.detach link.id) := by
  show d.file (d.coordinator.handle (.closed link reason)) = _
  rw [Coordinator.handle_of_atRest (settled.atRest idle)]
  simp [file, Effect.verdicts, Coordinator.unbind, act, onSession]

theorem absent_of_detach (distinct : d.ids.Nodup) (id : ParticipantId) :
    id ∉ (d.act (.detach id)).ids :=
  Session.absent_of_detach (s := d.coordinator.session) distinct id

end Docket

/-- **A departure between operations is forgotten.** After any life of a session, let a link close
while no operation is in flight, and let the shard not be attached again. That is as if the shard
had been detached, a commit that begins then sends nothing to it, and the commit fails iff
something in its own run spoils it. -/
theorem failure_iff_spoiled_after_departure {id : UInt64} {issuer : String} {d d' : Docket}
    {history acts : List Act} {link : Link} {reason : String} {begun : Coordinator}
    {effect : Effect} {inputs : List Input}
    (past : d = (Docket.born id issuer).live history)
    (idle : d.coordinator.inFlight = false)
    (later : d' = (d.act (.closed link reason)).live acts)
    (away : ∀ a ∈ acts, a.attached? ≠ some link.id)
    (h : d'.coordinator.beginCommit = (begun, .ok effect)) :
    d.act (.closed link reason) = d.act (.detach link.id) ∧
      (∀ p ∈ effect.commands ++ (d'.file (begun, effect)).sent inputs, p.1.id ≠ link.id) ∧
      ∀ verdict ∈ effect.verdicts ++ (d'.file (begun, effect)).verdicts inputs,
        verdict.conclusion ≠ .success ↔
          ∃ m ∈ (d'.file (begun, effect)).moments inputs, m.spoils = true := by
  have settled : d.coordinator.Settled := past ▸ Docket.settled_live (Docket.settled_born ..) _
  have distinct : d.ids.Nodup :=
    past ▸ Docket.nodup_live (Docket.settled_born ..) List.nodup_nil history
  have noStage : d.coordinator.operation.stage = none := by
    simpa [Coordinator.inFlight] using idle
  have detached := Docket.closed_of_settled settled noStage link reason
  have settledLater : d'.coordinator.Settled := by
    rw [later]
    exact Docket.settled_live (Docket.settled_act settled _) acts
  have absent : link.id ∉ d'.ids := by
    rw [later]
    apply Docket.absent_live (Docket.settled_act settled _) _ away
    rw [detached]
    exact Docket.absent_of_detach distinct link.id
  have filed : d'.begun (d'.coordinator.beginCommit) = d'.file (begun, effect) := by
    rw [h]
    rfl
  have settledBegun : (d'.file (begun, effect)).coordinator.Settled :=
    filed ▸ Docket.settled_act settledLater .commit
  have absentBegun : link.id ∉ (d'.file (begun, effect)).ids := by
    rw [← filed]
    exact fun here => absent ((Docket.ids_act_sublist settledLater (a := .commit) rfl).subset here)
  refine ⟨detached, ?_, ?_⟩
  · -- whoever is not bound when the commit begins is not addressed in it
    intro p sent
    rcases List.mem_append.mp sent with now | during
    · exact fun same => absent (same ▸ Docket.mem_ids_of_begin h now)
    · exact Docket.sent_of_absent settledBegun absentBegun during
  · intro verdict reached
    rw [ne_eq, Docket.operation_success_iff (d := d'.file (begun, effect)) h reached]
    simp

namespace Sample

def plain : Docket :=
  (Docket.born 7 "x").live [.attach shardA, .attach shardB]

/-- The same after the first shard's link closed. -/
def bereft : Docket :=
  plain.act (.closed shardA "gone")

end Sample

open Sample in
/-- The case of two shards, of which one leaves before the commit and the other refuses it. -/
theorem failure_iff_spoiled_of_bereft :
    ∃ begun effect, bereft.coordinator.beginCommit = (begun, .ok effect) ∧
      ∀ verdict ∈ effect.verdicts ++ (bereft.file (begun, effect)).verdicts
          [.event (.error shardB.id none "refused")],
        verdict.conclusion ≠ .success ↔
          ∃ m ∈ (bereft.file (begun, effect)).moments [.event (.error shardB.id none "refused")],
            m.spoils = true :=
  ⟨_, _, Coordinator.begin_eq_follow (c := bereft.coordinator) rfl .plainCommit,
    (failure_iff_spoiled_after_departure
      (show plain = (Docket.born 7 "x").live [.attach shardA, .attach shardB] from rfl) rfl
      (show bereft = (plain.act (.closed shardA "gone")).live [] from rfl) (by simp)
      (Coordinator.begin_eq_follow rfl .plainCommit)).2.2⟩

open Sample in
/-- **A silent loss.** A bound shard's link closes before the commit, and the commit concludes with
success all the same. -/
theorem success_of_bereft :
    shardA ∈ plain.coordinator.session.participants ∧ plain.coordinator.inFlight = false ∧
      ∃ begun effect, bereft.coordinator.beginCommit = (begun, .ok effect) ∧
        ⟨.success, some okFrame, false⟩ ∈ (Docket.ofBegun begun effect).verdicts [ok shardB] :=
  ⟨by decide +kernel, rfl, _, _,
    Coordinator.begin_eq_follow (c := bereft.coordinator) rfl .plainCommit, by decide +kernel⟩

end AtomicCommit
