import AtomicCommit.Proofs.Departure
import AtomicCommit.Proofs.Scene

/-!
# Links of one shard

Two links to one shard are *namesakes*: they share the participant's id, and a session binds one of
them at most. A link is bound from when it is attached until its shard is bound again or released
(`Docket.mem_links_live`). The coordinator keeps listening to a link that was replaced or released,
and takes a close in by the id alone. So the close of a link unbinds whichever of its namesakes is
bound, and is counted for it.

* **act** — `Docket.mem_links_act`; **life** — `Docket.mem_links_live`.
* **closes** — `close_spares_others_iff`: a close spares every other link iff no namesake is bound.
-/

namespace AtomicCommit

open Wire

/-! ## Unbinding a shard -/

/-- Where no two links share an id, unbinding a shard takes its link out and no other. -/
theorem Session.mem_detach_iff {s : Session} {id : ParticipantId} {link : Link}
    (distinct : s.participantIds.Nodup) :
    link ∈ (s.detach id).2.participants ↔ link ∈ s.participants ∧ link.id ≠ id := by
  show link ∈ s.participants.eraseP (·.id == id) ↔ _
  unfold participantIds at distinct
  generalize s.participants = links at distinct
  induction links with
  | nil => simp
  | cons p rest ih =>
    obtain ⟨fresh, others⟩ := List.nodup_cons.mp distinct
    by_cases same : p.id = id
    · -- the first of that shard goes, and there is no second
      rw [List.eraseP_cons_of_pos (by simpa using same)]
      constructor
      · intro kept
        refine ⟨List.mem_cons_of_mem p kept, ?_⟩
        intro alike
        rw [same, ← alike] at fresh
        exact fresh (List.mem_map_of_mem kept)
      · rintro ⟨member, different⟩
        rcases List.mem_cons.mp member with rfl | kept
        · exact absurd same different
        · exact kept
    · rw [List.eraseP_cons_of_neg (by simpa using same), List.mem_cons, ih others, List.mem_cons]
      constructor
      · rintro (rfl | ⟨kept, different⟩)
        · exact ⟨.inl rfl, same⟩
        · exact ⟨.inr kept, different⟩
      · rintro ⟨rfl | kept, different⟩
        · exact .inl rfl
        · exact .inr ⟨kept, different⟩

theorem Session.mem_attach_iff {s : Session} {added link : Link} :
    link ∈ (s.attach added).participants ↔
      link = added ∨ link ∈ s.participants ∧ link.id ≠ added.id := by
  rw [Docket.participants_attach]
  split
  · rename_i here
    -- a link of that shard is replaced where it stands
    rw [List.mem_map]
    constructor
    · rintro ⟨p, member, rfl⟩
      by_cases same : p.id = added.id
      · exact .inl (if_pos (beq_iff_eq.mpr same))
      · have other : (p.id == added.id) = false := by simpa using same
        simp only [other, Bool.false_eq_true, if_false]
        exact .inr ⟨member, same⟩
    · rintro (rfl | ⟨member, other⟩)
      · obtain ⟨p, member, same⟩ := List.mem_map.mp here
        exact ⟨p, member, if_pos (beq_iff_eq.mpr same)⟩
      · exact ⟨link, member, if_neg (by simpa using other)⟩
  · rename_i absent
    rw [List.mem_append, List.mem_singleton, or_comm]
    apply or_congr_right
    constructor
    · intro member
      refine ⟨member, ?_⟩
      intro same
      exact absent (same ▸ List.mem_map_of_mem member)
    · exact And.left

/-! ## Who is bound -/

namespace Scene

/-- Whether the act binds this shard anew or releases it. -/
def rebinds (m : Scene) (id : ParticipantId) : Bool :=
  match m.act with
  | .attach link => id == link.id
  | .detach other => id == other
  | .clearTransaction => true
  | .input (.event (.closed link _)) => id == link.id
  | .input .tell => !m.docket.untold.isEmpty
  | _ => false

end Scene

namespace Docket

variable {d : Docket} {link : Link}

def links (d : Docket) : List Link :=
  d.coordinator.session.participants

/-- During these acts the shard is neither bound anew nor released. -/
def Lasts (d : Docket) (id : ParticipantId) (acts : List Act) : Prop :=
  ∀ m ∈ d.scenes acts, m.rebinds id = false

theorem lasts_cons {id : ParticipantId} {a : Act} {rest : List Act} :
    d.Lasts id (a :: rest) ↔ (Scene.mk d a).rebinds id = false ∧ (d.act a).Lasts id rest :=
  List.forall_mem_cons

/-- Of all events only a close changes who is bound. -/
theorem links_event (settled : d.coordinator.Settled) (e : Event) :
    (d.step (.event e)).1.links = (d.coordinator.unbind e).participants := by
  show (d.coordinator.handle e).1.session.participants = _
  obtain ⟨on, same⟩ := Coordinator.session_handle settled e
  rw [same, Session.participants_discardIf]

theorem links_interrupt (reason : String) : (d.step (.interrupt reason)).1.links = d.links := by
  simp only [step, Coordinator.interrupt]
  split
  · rename_i accepted
    repeat' split at accepted
    all_goals cases accepted
    all_goals rfl
  · rfl

theorem links_begun (d : Docket) (s : Stage) :
    (d.begun (d.coordinator.begin s)).links = d.links := by
  have same := Coordinator.participants_begin d.coordinator s
  generalize d.coordinator.begin s = out at same
  obtain ⟨c, _ | effect⟩ := out
  · exact same
  · exact same

/-- **Act.** After an act a link is bound if the act attaches it, or if it was bound and the act
does not bind its shard anew or release it. -/
theorem mem_links_act (settled : d.coordinator.Settled) (distinct : d.ids.Nodup) (a : Act) :
    link ∈ (d.act a).links ↔
      a = .attach link ∨ link ∈ d.links ∧ (Scene.mk d a).rebinds link.id = false := by
  cases a with
  | attach added =>
    show link ∈ (d.coordinator.session.attach added).participants ↔ _
    rw [Session.mem_attach_iff, eq_comm (a := link)]
    simp only [Act.attach.injEq, Scene.rebinds, beq_eq_false_iff_ne, links]
  | detach id =>
    show link ∈ (d.coordinator.session.detach id).2.participants ↔ _
    rw [Session.mem_detach_iff distinct]
    simp only [reduceCtorEq, false_or, Scene.rebinds, beq_eq_false_iff_ne, links]
  | clearTransaction =>
    show link ∈ [] ↔ _
    simp [Scene.rebinds]
  | begin s =>
    show link ∈ (d.begun (d.coordinator.begin s)).links ↔ _
    rw [links_begun]
    simp [Scene.rebinds]
  | commit | rollback =>
    show link ∈ (d.begun (d.coordinator.begin _)).links ↔ _
    rw [links_begun]
    simp [Scene.rebinds]
  | input i =>
    show link ∈ (d.step i).1.links ↔ _
    cases i with
    | event e =>
      -- of the events, only a close unbinds
      rw [links_event settled]
      cases e with
      | closed other reason =>
        show link ∈ (d.coordinator.session.detach other.id).2.participants ↔ _
        rw [Session.mem_detach_iff distinct]
        simp only [reduceCtorEq, false_or, Scene.rebinds, beq_eq_false_iff_ne, links]
      | ok | error | connectError =>
        show link ∈ d.links ↔ _
        simp [Scene.rebinds]
    | interrupt reason =>
      rw [links_interrupt]
      simp [Scene.rebinds]
    | tell =>
      obtain ⟨c, untold⟩ := d
      cases untold with
      | nil => simp [Scene.rebinds, step]
      | cons verdict rest =>
        have released : (c.conclude verdict).1.session.participants = [] := by
          unfold Coordinator.conclude
          dsimp only
          split <;> rfl
        show link ∈ (c.conclude verdict).1.session.participants ↔ _
        simp [released, Scene.rebinds]
    | closeSession | clientClosed =>
      show link ∈ d.links ↔ _
      simp [Scene.rebinds]
  | setXa | setPacketId | setMultiStatement | pushSavepoint | clearSavepoints | markDiscarding |
    setInterruptReason | takePacketId | takeXaSequence =>
    show link ∈ d.links ↔ _
    simp [Scene.rebinds]

/-- **Life.** After a life a link is bound if it was bound before, or attached in the life, and its
shard was neither bound anew nor released since. -/
theorem mem_links_live (settled : d.coordinator.Settled) (distinct : d.ids.Nodup)
    (acts : List Act) :
    link ∈ (d.live acts).links ↔ link ∈ d.links ∧ d.Lasts link.id acts ∨
      ∃ xs ys, acts = xs ++ .attach link :: ys ∧
        ((d.live xs).act (.attach link)).Lasts link.id ys := by
  -- on the acts: a link is bound if the last thing done to its shard was to attach it
  induction acts generalizing d with
  | nil =>
    have nothing : d.Lasts link.id [] := by
      intro m h
      exact absurd h List.not_mem_nil
    simp [live, nothing]
  | cons a rest ih =>
    rw [live, ih (settled_act settled a) (nodup_act settled distinct a),
      mem_links_act settled distinct, lasts_cons]
    constructor
    · rintro (⟨rfl | ⟨bound, stays⟩, lasts⟩ | ⟨xs, ys, rfl, lasts⟩)
      · exact .inr ⟨[], rest, rfl, lasts⟩
      · exact .inl ⟨bound, stays, lasts⟩
      · exact .inr ⟨a :: xs, ys, rfl, lasts⟩
    · rintro (⟨bound, stays, lasts⟩ | ⟨xs, ys, split, lasts⟩)
      · exact .inl ⟨.inr ⟨bound, stays⟩, lasts⟩
      · rcases List.append_eq_cons_iff.mp split.symm with ⟨rfl, same⟩ | ⟨xs', rfl, rfl⟩
        · obtain ⟨rfl, rfl⟩ := List.cons.inj same
          exact .inl ⟨.inl rfl, lasts⟩
        · exact .inr ⟨xs', ys, rfl, lasts⟩

/-! ## Closes -/

theorem entryOf_closed (d : Docket) (link : Link) (reason : String) :
    (Scene.mk d (.closed link reason)).entryOf =
      if link.id ∈ d.owing then some (.closed link.id (link.info.closedMessage reason))
      else none := by
  show d.coordinator.entryOf (.closed link reason) = _
  by_cases owes : link.id ∈ d.owing
  · rw [if_pos owes]
    exact if_pos (List.contains_iff_mem.mpr owes)
  · rw [if_neg owes]
    exact Coordinator.entryOf_of_unowed rfl owes

/-- A close is its own link's alone: every other link stays bound, and none of them is counted as
lost. -/
def Spares (d : Docket) (link : Link) (reason : String) : Prop :=
  ∀ other ∈ d.links, other ≠ link → other ∈ (d.act (.closed link reason)).links ∧
    ∀ message, (Scene.mk d (.closed link reason)).entryOf ≠ some (.closed other.id message)

/-- A close unbinds who shares the link's id, and nobody else. -/
theorem mem_links_closed (settled : d.coordinator.Settled) (distinct : d.ids.Nodup)
    (other : Link) (reason : String) :
    link ∈ (d.act (.closed other reason)).links ↔ link ∈ d.links ∧ link.id ≠ other.id := by
  rw [mem_links_act settled distinct]
  simp [Act.closed, Scene.rebinds]

/-- A close spares the others iff it has no namesake that is bound. -/
theorem spares_iff (settled : d.coordinator.Settled) (distinct : d.ids.Nodup) (reason : String) :
    d.Spares link reason ↔ ∀ other ∈ d.links, other.id = link.id → other = link := by
  constructor
  · intro spares other bound alike
    by_contra different
    have kept := (spares other bound different).1
    exact ((mem_links_closed settled distinct link reason).mp kept).2 alike
  · intro alone other bound different
    have unlike : other.id ≠ link.id := fun alike => different (alone other bound alike)
    refine ⟨(mem_links_closed settled distinct link reason).mpr ⟨bound, unlike⟩, ?_⟩
    intro message counted
    rw [entryOf_closed] at counted
    split at counted
    · obtain ⟨alike, -⟩ := Cohort.Entry.closed.inj (Option.some.inj counted)
      exact unlike alike.symm
    · exact absurd counted (by simp)

end Docket

/-- **A close takes out whoever is bound under the link's id.** After any life of a session, the close
of a link unbinds the links that share its id and no others, and it is counted iff an answer is owed
under that id. So it concerns its own link alone iff the last attachment under the id that has not
been replaced or released since, if there is one, is that of the link itself. -/
theorem close_spares_others_iff {id : UInt64} {issuer : String} {d : Docket} {history : List Act}
    {link : Link} {reason : String} (past : d = (Docket.born id issuer).live history) :
    (∀ other ∈ d.links, other ∈ (d.act (.closed link reason)).links ↔ other.id ≠ link.id) ∧
      (Scene.mk d (.closed link reason)).entryOf =
        (if link.id ∈ d.owing then some (.closed link.id (link.info.closedMessage reason))
        else none) ∧
      (d.Spares link reason ↔
        ∀ xs other ys, history = xs ++ .attach other :: ys →
          (((Docket.born id issuer).live xs).act (.attach other)).Lasts other.id ys →
          other.id = link.id → other = link) := by
  have settled : d.coordinator.Settled := past ▸ Docket.settled_live (Docket.settled_born ..) _
  have distinct : d.ids.Nodup :=
    past ▸ Docket.nodup_live (Docket.settled_born ..) List.nodup_nil history
  -- who is bound is told by the history alone
  have bound : ∀ {other}, other ∈ d.links ↔ ∃ xs ys, history = xs ++ .attach other :: ys ∧
      (((Docket.born id issuer).live xs).act (.attach other)).Lasts other.id ys := by
    intro other
    rw [past, Docket.mem_links_live (Docket.settled_born ..) List.nodup_nil]
    exact or_iff_right fun before => absurd before.1 List.not_mem_nil
  refine ⟨?_, d.entryOf_closed link reason, ?_⟩
  · intro other here
    rw [Docket.mem_links_closed settled distinct]
    exact and_iff_right here
  · rw [Docket.spares_iff settled distinct]
    constructor
    · intro alone xs other ys split lasts
      exact alone other (bound.mpr ⟨xs, ys, split, lasts⟩)
    · intro alone other here
      obtain ⟨xs, ys, split, lasts⟩ := bound.mp here
      exact alone xs other ys split lasts

namespace Sample

def heir : Link := { shardA with handle := 3 }

/-- The first shard's transaction is committed over one link and released, and the next one over
another, which is asked to commit. -/
def succession : List Act :=
  [.attach shardA, .commit, .input (ok shardA), .input .tell, .attach heir, .commit]

end Sample

open Sample in
/-- The case of a transaction of two shards: the close of one link leaves the other bound. -/
theorem close_spares_others_of_two :
    shardB ∈ (plain.act (.closed shardA "gone")).links ∧
      shardA ∉ (plain.act (.closed shardA "gone")).links := by
  have closes : ∀ other ∈ plain.links,
      other ∈ (plain.act (.closed shardA "gone")).links ↔ other.id ≠ shardA.id :=
    (close_spares_others_iff
      (show plain = (Docket.born 7 "x").live [.attach shardA, .attach shardB] from rfl)).1
  refine ⟨(closes shardB (by decide +kernel)).mpr (by decide), ?_⟩
  intro kept
  exact (closes shardA (by decide +kernel)).mp kept rfl

open Sample in
/-- **A released link takes its successor out.** The coordinator commits over one link and releases
it, and commits over another link to the same shard. The close of the first link is counted for the
second, which is unbound, and fails the second commit. -/
theorem close_takes_heir_out :
    (shardA, ⟨.commit, "COMMIT"⟩) ∈ (Docket.born 7 "x").commandsOf succession ∧
      heir ∈ ((Docket.born 7 "x").live succession).links ∧
      ¬ ((Docket.born 7 "x").live succession).Spares shardA "gone" ∧
      heir ∉ (((Docket.born 7 "x").live succession).act (.closed shardA "gone")).links ∧
      (Scene.mk ((Docket.born 7 "x").live succession) (.closed shardA "gone")).entryOf =
        some (.closed heir.id (shardA.info.closedMessage "gone")) := by
  have bound : heir ∈ ((Docket.born 7 "x").live succession).links := by decide +kernel
  have unbound : heir ∉
      (((Docket.born 7 "x").live succession).act (.closed shardA "gone")).links := by
    decide +kernel
  refine ⟨by decide +kernel, bound, ?_, unbound, by decide +kernel⟩
  intro spares
  exact unbound (spares heir bound (by decide)).1

end AtomicCommit
