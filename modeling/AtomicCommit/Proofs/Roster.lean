import AtomicCommit.Proofs.Namesake
import Mathlib.Data.List.Induction

/-!
# The order of a session's participants

A shard *joins* with an attachment that finds it absent, and is *joined* from then until it is next
absent. A shard that is attached while it is bound keeps its place and gets the new link.

* **step** — `Docket.ids_act_cases`: an act lets one shard join, at the end, or none; the others keep
  their order.
* **life** — `Docket.inOrder_live`: whoever is bound stands behind those who joined before.
* **links** — `Docket.latest_live`: each shard is bound by the link that was attached last.
-/

namespace AtomicCommit

open Wire

namespace Docket

variable {d : Docket} {acts : List Act} {a : Act} {id : ParticipantId} {k : Nat}

theorem live_snoc (d : Docket) (acts : List Act) (a : Act) :
    d.live (acts ++ [a]) = (d.live acts).act a :=
  d.live_append acts [a]

/-! ## Joining -/

/-- With the act of this number the shard joined: it was absent before, and has been bound ever
since. -/
structure Joined (d : Docket) (acts : List Act) (id : ParticipantId) (k : Nat) : Prop where
  attached : acts[k]?.bind Act.attached? = some id
  absent : id ∉ (d.live (acts.take k)).ids
  since : ∀ j, k < j → j ≤ acts.length → id ∈ (d.live (acts.take j)).ids

theorem Joined.lt (joined : d.Joined acts id k) : k < acts.length := by
  by_contra outside
  have attached := joined.attached
  rw [List.getElem?_eq_none (Nat.le_of_not_lt outside)] at attached
  exact absurd attached (by simp)

/-- A shard that is bound joined with one act only. -/
theorem Joined.unique {j : Nat} (first : d.Joined acts id j) (second : d.Joined acts id k) :
    j = k := by
  rcases Nat.lt_trichotomy j k with before | same | behind
  · exact absurd (first.since k before (Nat.le_of_lt second.lt)) second.absent
  · exact same
  · exact absurd (second.since j behind (Nat.le_of_lt first.lt)) first.absent

/-- A shard stays joined while it is bound. -/
theorem Joined.snoc (joined : d.Joined acts id k) (stays : id ∈ (d.live (acts ++ [a])).ids) :
    d.Joined (acts ++ [a]) id k where
  attached := by rw [List.getElem?_append_left joined.lt, joined.attached]
  absent := by
    rw [List.take_append_of_le_length (Nat.le_of_lt joined.lt)]
    exact joined.absent
  since j behind bound := by
    rcases Nat.lt_or_eq_of_le bound with inside | rfl
    · have before : j ≤ acts.length := by simpa [Nat.lt_succ_iff] using inside
      rw [List.take_append_of_le_length before]
      exact joined.since j behind before
    · rwa [List.take_length]

/-- An act that finds a shard absent and leaves it bound is the one that it joined with. -/
theorem joined_last (attached : a.attached? = some id) (absent : id ∉ (d.live acts).ids)
    (here : id ∈ (d.live (acts ++ [a])).ids) : d.Joined (acts ++ [a]) id acts.length where
  attached := by simp [attached]
  absent := by simpa using absent
  since j behind bound := by
    obtain rfl : j = (acts ++ [a]).length := by
      rw [List.length_append, List.length_singleton] at *
      omega
    rwa [List.take_length]

/-- A shard that was bound already joined before the last act. -/
theorem Joined.lt_of_mem (joined : d.Joined (acts ++ [a]) id k) (here : id ∈ (d.live acts).ids) :
    k < acts.length := by
  by_contra outside
  obtain rfl : k = acts.length := by
    have := joined.lt
    rw [List.length_append, List.length_singleton] at this
    omega
  exact joined.absent (by simpa using here)

theorem Joined.of_snoc (joined : d.Joined (acts ++ [a]) id k) (here : id ∈ (d.live acts).ids) :
    d.Joined acts id k where
  attached := by
    rw [← joined.attached, List.getElem?_append_left (joined.lt_of_mem here)]
  absent := by
    have absent := joined.absent
    rwa [List.take_append_of_le_length (Nat.le_of_lt (joined.lt_of_mem here))] at absent
  since j behind bound := by
    have since := joined.since j behind (by rw [List.length_append]; omega)
    rwa [List.take_append_of_le_length bound] at since

/-- A shard that was absent joined with the last act or not at all. -/
theorem Joined.last_of_absent (joined : d.Joined (acts ++ [a]) id k)
    (absent : id ∉ (d.live acts).ids) : k = acts.length := by
  by_contra other
  have inside : k < acts.length := by
    have := joined.lt
    rw [List.length_append, List.length_singleton] at this
    omega
  have since := joined.since acts.length inside (by simp)
  rw [List.take_append_of_le_length (Nat.le_refl _), List.take_length] at since
  exact absent since

/-! ## Places -/

/-- **Step.** An act lets one shard join, at the end, or none, and the others keep their order. -/
theorem ids_act_cases (settled : d.coordinator.Settled) (a : Act) :
    (d.act a).ids.Sublist d.ids ∨
      ∃ id, a.attached? = some id ∧ id ∉ d.ids ∧ (d.act a).ids = d.ids ++ [id] := by
  cases attached : a.attached? with
  | none => exact .inl (ids_act_sublist settled attached)
  | some id =>
    cases a with
    | attach link =>
      obtain rfl := Option.some.inj attached
      rw [ids_attach]
      split
      · exact .inl (List.Sublist.refl _)
      · rename_i absent
        exact .inr ⟨link.id, rfl, absent, rfl⟩
    | _ => exact absurd attached (by simp [Act.attached?])

/-- Whoever is bound joined, and stands behind those who joined before. -/
structure InOrder (d : Docket) (acts : List Act) : Prop where
  joined : ∀ id ∈ (d.live acts).ids, ∃ k, d.Joined acts id k
  ascending : (d.live acts).ids.Pairwise fun p q =>
    ∀ j k, d.Joined acts p j → d.Joined acts q k → j < k

/-- **Life.** The shards bound stand in the order in which they joined. -/
theorem inOrder_live (settled : d.coordinator.Settled) (nobody : d.ids = []) (acts : List Act) :
    d.InOrder acts := by
  induction acts using List.reverseRecOn with
  | nil =>
    refine ⟨?_, ?_⟩
    · intro id here
      rw [show (d.live []).ids = [] from nobody] at here
      exact absurd here List.not_mem_nil
    · rw [show (d.live []).ids = [] from nobody]
      exact List.Pairwise.nil
  | append_singleton acts a ih =>
    have settledNow : (d.live acts).coordinator.Settled := settled_live settled acts
    have next := d.live_snoc acts a
    -- those who were bound before keep the order they had
    have kept : (d.live acts).ids.Pairwise fun p q =>
        ∀ j k, d.Joined (acts ++ [a]) p j → d.Joined (acts ++ [a]) q k → j < k := by
      refine List.Pairwise.imp_of_mem ?_ ih.ascending
      intro p q hereP hereQ ascends j k first second
      exact ascends j k (first.of_snoc hereP) (second.of_snoc hereQ)
    rcases ids_act_cases settledNow a with fewer | ⟨id, attached, absent, more⟩
    · rw [← next] at fewer
      refine ⟨?_, kept.sublist fewer⟩
      intro p here
      obtain ⟨k, joined⟩ := ih.joined p (fewer.subset here)
      exact ⟨k, joined.snoc here⟩
    · rw [← next] at more
      refine ⟨?_, ?_⟩
      · intro p here
        have place := here
        rw [more, List.mem_append, List.mem_singleton] at place
        rcases place with before | rfl
        · obtain ⟨k, joined⟩ := ih.joined p before
          exact ⟨k, joined.snoc here⟩
        · exact ⟨acts.length, joined_last attached absent here⟩
      · rw [more, List.pairwise_append]
        refine ⟨kept, List.pairwise_singleton _ _, ?_⟩
        rintro p before q last j k first second
        obtain rfl := List.mem_singleton.mp last
        rw [second.last_of_absent absent]
        exact first.lt_of_mem before

/-! ## Links -/

theorem Lasts.away (lasts : d.Lasts id acts) : ∀ a ∈ acts, a.attached? ≠ some id := by
  induction acts generalizing d with
  | nil => simp
  | cons a rest ih =>
    obtain ⟨spared, later⟩ := lasts_cons.mp lasts
    rw [List.forall_mem_cons]
    refine ⟨?_, ih later⟩
    intro attached
    cases a with
    | attach link =>
      have other : (id == link.id) = false := spared
      rw [Option.some.inj attached, beq_self_eq_true] at other
      exact Bool.noConfusion other
    | _ => exact absurd attached (by simp [Act.attached?])

/-- **Links.** Each shard is bound by the link that was attached last of all its links. -/
theorem latest_live (settled : d.coordinator.Settled) (nobody : d.ids = []) {link : Link}
    (bound : link ∈ (d.live acts).links) :
    ∃ xs ys, acts = xs ++ .attach link :: ys ∧ ∀ a ∈ ys, a.attached? ≠ some link.id := by
  have distinct : d.ids.Nodup := nobody ▸ List.nodup_nil
  rcases (mem_links_live settled distinct acts).mp bound with ⟨before, -⟩ | ⟨xs, ys, split, lasts⟩
  · have here : link.id ∈ d.ids := List.mem_map_of_mem before
    rw [nobody] at here
    exact absurd here List.not_mem_nil
  · exact ⟨xs, ys, split, lasts.away⟩

end Docket

end AtomicCommit
