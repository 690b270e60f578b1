import AtomicCommit.Proofs.ClientPacket
import AtomicCommit.Proofs.Dispatch

/-!
# What each stage of an operation saw

An operation enters a stage at most once, so the moments of a run that one stage saw lie together,
and what its cohort counted can be read off the whole run (`Docket.countedIn`).

* **stays** — `Docket.exists_stay`: the moment that ends a stage ends a round of it, and the round's
  entries are those that the run counted in the stage (`Docket.Stay.countedIn_eq`).
* **the end** — `Docket.concludes_or_awaits`: a run reaches one verdict, or it waits for an answer
  of somebody who was asked by the stage in flight and has not been heard of since.
* **the client** — `Docket.packets_of_running`: on an open session, a verdict that no interrupt
  anticipates is told as it is.
-/

namespace AtomicCommit

open Wire

/-! ## Stages in order -/

theorem Coordinator.Running.unique {c : Coordinator} {s t : Stage} (busy : c.Running s)
    (alsoBusy : c.Running t) : s = t :=
  Option.some.inj (busy.stage.symm.trans alsoBusy.stage)

namespace Docket

variable {d : Docket} {s t : Stage} {xs ys : List Input} {i : Input}

/-- Along a run the rank of the stage in flight falls whenever the stage changes. -/
theorem rank_run (busy : d.coordinator.Running s) (there : (d.run xs).coordinator.Running t) :
    t = s ∨ t.rank < s.rank := by
  have leads : ∀ {u v : Stage} {o : Outcome}, u = s ∨ u.rank < s.rank → u.next o = .enter v →
      v = s ∨ v.rank < s.rank := by
    rintro u v o (rfl | low) next
    · exact .inr (Stage.rank_lt_of_next next)
    · exact .inr (Nat.lt_trans (Stage.rank_lt_of_next next) low)
  rcases running_run (K := fun u => u = s ∨ u.rank < s.rank) leads busy (.inl rfl) xs with
    ⟨u, low, running⟩ | rests
  · rw [there.unique running]
    exact low
  · exact absurd there rests.not_running

theorem rank_run_le (busy : d.coordinator.Running s) (there : (d.run xs).coordinator.Running t) :
    t.rank ≤ s.rank := by
  rcases rank_run busy there with rfl | low
  · exact Nat.le_refl _
  · exact Nat.le_of_lt low

theorem running_of_mem {inputs : List Input} {m : Moment} (busy : d.coordinator.Running s)
    (h : m ∈ d.moments inputs) (seen : m.stage = some t) : m.docket.coordinator.Running t := by
  obtain ⟨vs, ws, -, there⟩ := exists_of_mem_moments h
  unfold Moment.stage at seen
  rw [there] at seen ⊢
  rcases settled_run (.inl ⟨s, busy⟩) vs with ⟨u, running⟩ | rests
  · rw [running.stage] at seen
    exact Option.some.inj seen ▸ running
  · rw [show (d.run vs).coordinator.operation = {} from rests] at seen
    exact absurd seen (by simp)

/-- What a moment sees has no higher rank than what an earlier one saw. -/
theorem rank_of_later (there : (d.run xs).coordinator.Running s) {m : Moment}
    (h : m ∈ (d.after xs i).moments ys) (seen : m.stage = some t) : t.rank ≤ s.rank := by
  have later : m ∈ (d.run xs).moments (i :: ys) := List.mem_cons_of_mem _ h
  obtain ⟨vs, ws, -, found⟩ := exists_of_mem_moments later
  have running := running_of_mem there later seen
  rw [found] at running
  exact rank_run_le there running

/-- A moment that sees a lower rank than another comes after it. -/
theorem later_of_rank (busy : d.coordinator.Running s) {u : Stage}
    (there : (d.run xs).coordinator.Running t) {m : Moment}
    (h : m ∈ d.moments (xs ++ i :: ys)) (seen : m.stage = some u) (low : u.rank < t.rank) :
    m ∈ (d.after xs i).moments ys := by
  rw [moments_append, List.mem_append, moments, List.mem_cons] at h
  rcases h with before | rfl | later
  · exfalso
    obtain ⟨vs, ws, rfl, found⟩ := exists_of_mem_moments before
    have running := running_of_mem busy before seen
    rw [found] at running
    rw [run_append] at there
    exact absurd low (Nat.not_lt.mpr (rank_run_le running there))
  · exfalso
    have here : u = t := Option.some.inj (seen.symm.trans there.stage)
    rw [here] at low
    exact Nat.lt_irrefl _ low
  · exact later

/-- Once its round is over, a stage has given way to those of lower ranks. -/
theorem Round.rank_after (round : d.Round s xs i) {m : Moment}
    (h : m ∈ (d.after xs i).moments ys) (seen : m.stage = some t) : t.rank < s.rank := by
  rcases round.lands with ⟨u, next, -, -, busy⟩ | ⟨-, rests, -⟩
  · have running := running_of_mem busy h seen
    obtain ⟨vs, ws, -, found⟩ := exists_of_mem_moments h
    rw [found] at running
    exact Nat.lt_of_le_of_lt (rank_run_le busy running) (Stage.rank_lt_of_next next)
  · rw [stage_of_atRest rests h] at seen
    exact absurd seen (by simp)

/-! ## What a stage counted -/

/-- The entries that the cohorts of these stages make of a run. -/
def countedIn (d : Docket) (p : Stage → Bool) (inputs : List Input) : List Cohort.Entry :=
  ((d.moments inputs).filter fun m => m.stage.any p).filterMap Moment.entryOf

variable {p : Stage → Bool}

theorem mem_countedIn {e : Cohort.Entry} {inputs : List Input} : e ∈ d.countedIn p inputs ↔
    ∃ m ∈ d.moments inputs, m.stage.any p = true ∧ m.entryOf = some e := by
  simp only [countedIn, List.mem_filterMap, List.mem_filter, and_assoc]

theorem countedIn_append (d : Docket) (p : Stage → Bool) (xs ys : List Input) :
    d.countedIn p (xs ++ ys) = d.countedIn p xs ++ (d.run xs).countedIn p ys := by
  unfold countedIn
  rw [moments_append, List.filter_append, List.filterMap_append]

theorem countedIn_round (d : Docket) (p : Stage → Bool) (xs : List Input) (i : Input)
    (ys : List Input) :
    d.countedIn p (xs ++ i :: ys) = d.countedIn p (xs ++ [i]) ++ (d.after xs i).countedIn p ys := by
  unfold countedIn
  rw [moments_round, List.filter_append, List.filterMap_append]

theorem countedIn_eq_nil (elsewhere : ∀ m ∈ d.moments xs, m.stage.any p = false) :
    d.countedIn p xs = [] := by
  unfold countedIn
  rw [List.filter_eq_nil_iff.mpr]
  · rfl
  · intro m h
    simp [elsewhere m h]

theorem countedIn_eq_entries (here : ∀ m ∈ d.moments xs, m.stage.any p = true) :
    d.countedIn p xs = d.entries xs := by
  unfold countedIn entries
  rw [List.filter_eq_self.mpr here]

theorem countedIn_of_atRest (rest : d.coordinator.AtRest) : d.countedIn p xs = [] := by
  apply countedIn_eq_nil
  intro m h
  rw [stage_of_atRest rest h]
  rfl

theorem Round.countedIn_of_holds (round : d.Round s xs i) (holds : p s = true) :
    d.countedIn p (xs ++ [i]) = d.entries (xs ++ [i]) := by
  apply countedIn_eq_entries
  intro m h
  simpa [round.stage h] using holds

theorem Round.countedIn_of_fails (round : d.Round s xs i) (fails : p s = false) :
    d.countedIn p (xs ++ [i]) = [] := by
  apply countedIn_eq_nil
  intro m h
  simpa [round.stage h] using fails

/-! ## Stays -/

/-- A run from where a stage has not been in flight yet to where it is entered. -/
structure Enters (d : Docket) (t : Stage) (xs : List Input) (ids : List ParticipantId) :
    Prop where
  busy : (d.run xs).coordinator.Running t
  opened : (d.run xs).coordinator.operation.cohort = Cohort.opened ids
  before : ∀ m ∈ d.moments xs, m.stage ≠ some t

/-- A stage that some moment of a run sees, other than the first, is entered in the run. -/
theorem exists_enters_of_ne {inputs : List Input} {m : Moment} (busy : d.coordinator.Running s)
    (other : s ≠ t) (h : m ∈ d.moments inputs) (seen : m.stage = some t) :
    ∃ xs ys ids, inputs = xs ++ ys ∧ m ∈ (d.run xs).moments ys ∧ d.Enters t xs ids := by
  induction inputs generalizing d s with
  | nil => exact absurd h List.not_mem_nil
  | cons i rest ih =>
    have here : Moment.stage ⟨d, i⟩ ≠ some t := by
      intro same
      exact other (Option.some.inj (busy.stage.symm.trans same))
    have later : m ∈ (d.step i).1.moments rest := by
      rcases List.mem_cons.mp h with rfl | later
      · exact absurd seen here
      · exact later
    -- what is entered after the step is entered in the whole run
    have goesOn : ∀ {xs ys ids}, rest = xs ++ ys → m ∈ ((d.step i).1.run xs).moments ys →
        (d.step i).1.Enters t xs ids →
        ∃ xs ys ids, i :: rest = xs ++ ys ∧ m ∈ (d.run xs).moments ys ∧ d.Enters t xs ids := by
      rintro xs ys ids rfl inRest enters
      refine ⟨i :: xs, ys, ids, rfl, inRest, enters.busy, enters.opened, ?_⟩
      exact List.forall_mem_cons.mpr ⟨here, enters.before⟩
    rcases step_lands busy i with ⟨-, stays⟩ | ⟨u, -, after, -, next⟩ | ⟨-, rests⟩
    · obtain ⟨xs, ys, ids, split, inRest, enters⟩ := ih stays other later
      exact goesOn split inRest enters
    · by_cases same : u = t
      · subst same
        have opened : ((d.step i).1.run []).coordinator.operation.cohort =
            Cohort.opened (u.targets (d.absorb i).session.participantIds) := by
          rw [run, after]
          rfl
        exact goesOn (List.nil_append rest).symm later ⟨next, opened, by simp [moments]⟩
      · obtain ⟨xs, ys, ids, split, inRest, enters⟩ := ih next same later
        exact goesOn split inRest enters
    · rw [stage_of_atRest rests later] at seen
      exact absurd seen (by simp)

theorem exists_enters {inputs : List Input} {m : Moment} {ids : List ParticipantId}
    (busy : d.coordinator.Running s) (opened : d.coordinator.operation.cohort = Cohort.opened ids)
    (h : m ∈ d.moments inputs) (seen : m.stage = some t) :
    ∃ xs ys ids, inputs = xs ++ ys ∧ m ∈ (d.run xs).moments ys ∧ d.Enters t xs ids := by
  by_cases same : s = t
  · subst same
    exact ⟨[], inputs, ids, rfl, h, busy, opened, by simp [moments]⟩
  · exact exists_enters_of_ne busy same h seen

/-- A stage is entered after `xs`, stays for `ys`, and `i` ends it. -/
structure Stay (d : Docket) (t : Stage) (xs ys : List Input) (i : Input)
    (ids : List ParticipantId) : Prop where
  enters : d.Enters t xs ids
  round : (d.run xs).Round t ys i

/-- The moment that ends a stage ends a stay. -/
theorem exists_stay {inputs : List Input} {m : Moment} {ids : List ParticipantId}
    (busy : d.coordinator.Running s) (opened : d.coordinator.operation.cohort = Cohort.opened ids)
    (h : m ∈ d.moments inputs) (seen : m.stage = some t) (ends : m.docket.Leaves t m.input) :
    ∃ xs ys zs ids, inputs = xs ++ (ys ++ m.input :: zs) ∧ m.docket = (d.run xs).run ys ∧
      d.Stay t xs ys m.input ids := by
  obtain ⟨xs, rest, ids, rfl, inRest, enters⟩ := exists_enters busy opened h seen
  -- a step cannot both end the stage and leave it in flight
  have notStays : ¬ m.docket.Stays t m.input := by
    intro stays
    rcases ends.lands (running_of_mem busy h seen) with ⟨u, next, -, -, busyNext⟩ | ⟨-, rests, -⟩
    · have falls := Stage.rank_lt_of_next next
      rw [stays.running.unique busyNext] at falls
      exact Nat.lt_irrefl _ falls
    · exact rests.not_running stays.running
  rcases keeps_or_round enters.busy rest with keeps | ⟨ys, i, zs, rfl, round⟩
  · exact absurd (keeps.of_mem inRest).2 notStays
  · rw [moments_round, List.mem_append, mem_moments_round] at inRest
    rcases inRest with (within | rfl) | beyond
    · exact absurd (round.keeps.of_mem within).2 notStays
    · exact ⟨xs, ys, zs, ids, rfl, rfl, enters, round⟩
    · exact absurd (round.rank_after beyond seen) (Nat.lt_irrefl _)

/-- Before a stage is entered, a run sees stages of higher ranks only. -/
theorem Enters.rank_before {u : Stage} {ids : List ParticipantId} (enters : d.Enters t xs ids)
    (busy : d.coordinator.Running s) {m : Moment} (h : m ∈ d.moments xs)
    (seen : m.stage = some u) : t.rank < u.rank := by
  have running := running_of_mem busy h seen
  obtain ⟨vs, ws, rfl, found⟩ := exists_of_mem_moments h
  have there := enters.busy
  rw [found] at running
  rw [run_append] at there
  rcases rank_run running there with same | low
  · exact absurd seen (same ▸ enters.before m h)
  · exact low

/-- What the moments of a run see before, during and after the stay in a stage. -/
theorem Stay.stage_cases {u : Stage} {ids : List ParticipantId} (stay : d.Stay t xs ys i ids)
    (busy : d.coordinator.Running s) {zs : List Input} {m : Moment}
    (h : m ∈ d.moments (xs ++ (ys ++ i :: zs))) (seen : m.stage = some u) :
    m ∈ d.moments xs ∧ t.rank < u.rank ∨ m ∈ (d.run xs).moments (ys ++ [i]) ∧ u = t ∨
      m ∈ ((d.run xs).after ys i).moments zs ∧ u.rank < t.rank := by
  rw [moments_append, moments_round, List.mem_append, List.mem_append] at h
  rcases h with before | during | after
  · exact .inl ⟨before, stay.enters.rank_before busy before seen⟩
  · exact .inr (.inl ⟨during, Option.some.inj (seen.symm.trans (stay.round.stage during))⟩)
  · exact .inr (.inr ⟨after, stay.round.rank_after after seen⟩)

/-- What a run counted in a stage is what the stage's stay counted. -/
theorem Stay.countedIn_eq {ids : List ParticipantId} (stay : d.Stay t xs ys i ids)
    (zs : List Input) :
    d.countedIn (· == t) (xs ++ (ys ++ i :: zs)) = (d.run xs).entries (ys ++ [i]) := by
  have before : d.countedIn (· == t) xs = [] := by
    apply countedIn_eq_nil
    intro m h
    have other := stay.enters.before m h
    cases stage : m.stage with
    | none => rfl
    | some u => simpa [stage] using other
  have after : ((d.run xs).after ys i).countedIn (· == t) zs = [] := by
    apply countedIn_eq_nil
    intro m h
    cases stage : m.stage with
    | none => rfl
    | some u =>
      have other : u ≠ t := by
        intro same
        exact absurd (stay.round.rank_after h stage) (same ▸ Nat.lt_irrefl _)
      simpa using other
  rw [countedIn_append, countedIn_round, before, after,
    stay.round.countedIn_of_holds (p := (· == t)) (beq_self_eq_true t), List.nil_append,
    List.append_nil]

/-! ## Verdicts -/

theorem verdicts_append (d : Docket) (xs ys : List Input) :
    d.verdicts (xs ++ ys) = d.verdicts xs ++ (d.run xs).verdicts ys := by
  unfold verdicts
  rw [moments_append, List.flatMap_append]

theorem verdicts_round (d : Docket) (xs : List Input) (i : Input) (ys : List Input) :
    d.verdicts (xs ++ i :: ys) =
      d.verdicts xs ++ (((d.run xs).step i).2.effect.verdicts ++ (d.after xs i).verdicts ys) :=
  d.verdicts_append xs (i :: ys)

/-- A run is over with one verdict, or a stage is in flight and none is reached. -/
theorem verdicts_of_running (busy : d.coordinator.Running s) (inputs : List Input) :
    (∃ verdict, d.verdicts inputs = [verdict] ∧ (d.run inputs).coordinator.AtRest) ∨
      d.verdicts inputs = [] ∧ ∃ t, (d.run inputs).coordinator.Running t := by
  induction inputs generalizing d s with
  | nil => exact .inr ⟨rfl, s, busy⟩
  | cons i rest ih =>
    rw [verdicts_cons, run]
    rcases step_lands busy i with ⟨effect, stays⟩ | ⟨t, -, -, effect, next⟩ |
      ⟨⟨verdict, effect⟩, rests⟩
    · rw [effect]
      exact ih stays
    · rw [effect]
      exact ih next
    · rw [effect, verdicts_of_atRest rests]
      exact .inl ⟨verdict, rfl, atRest_run rests rest⟩

/-- No verdict is reached before a stage that is in flight. -/
theorem verdicts_eq_nil_of_running {inputs : List Input} (busy : d.coordinator.Running s)
    (there : (d.run inputs).coordinator.Running t) : d.verdicts inputs = [] := by
  rcases verdicts_of_running busy inputs with ⟨verdict, -, rests⟩ | ⟨none, -⟩
  · exact absurd there rests.not_running
  · exact none

end Docket

/-! ## Who is waited for -/

/-- The participant that an input is about. -/
def Input.about? : Input → Option ParticipantId
  | .event e => e.about?
  | _ => none

namespace Docket

variable {d : Docket} {s t : Stage}

/-- The stage in flight after the run asked somebody who still owes the answer, and nothing has
been heard of them since it was entered. -/
def Awaits (d : Docket) (inputs : List Input) : Prop :=
  ∃ t id, (d.run inputs).coordinator.operation.stage = some t ∧ id ∈ (d.run inputs).owing ∧
    ∀ m ∈ d.moments inputs, m.stage = some t → m.input.about? ≠ some id

/-- An input about somebody who owes an answer is counted for it. -/
theorem not_owing_of_about {i : Input} {id : ParticipantId} (busy : d.coordinator.Running s)
    (distinct : d.owing.Nodup) (about : i.about? = some id) :
    id ∉ (d.absorb i).operation.cohort.pending := by
  intro owes
  have owed : id ∈ d.owing := (pending_absorb_sublist busy i).subset owes
  cases i with
  | event e =>
    obtain ⟨entry, entered, named⟩ := Coordinator.entryOf_of_owed about owed
    have counted : d.coordinator.inputEntryOf (.event e) = some entry := entered
    rw [pending_absorb busy, counted, Option.bind_some, named] at owes
    exact distinct.not_mem_erase owes
  | interrupt | tell | closeSession | clientClosed => exact absurd about (by simp [Input.about?])

/-- Of those who owe an answer, nothing was heard in the stage that asked them. -/
theorem unheard_of_owing {inputs : List Input} {id : ParticipantId} (busy : d.coordinator.Running s)
    (distinct : d.owing.Nodup) (there : (d.run inputs).coordinator.Running t)
    (owes : id ∈ (d.run inputs).owing) :
    (s = t → id ∈ d.owing) ∧
      ∀ m ∈ d.moments inputs, m.stage = some t → m.input.about? ≠ some id := by
  induction inputs generalizing d s with
  | nil => exact ⟨fun _ => owes, by simp [moments]⟩
  | cons i rest ih =>
    have distinctNext := nodup_owing_act (.inl ⟨s, busy⟩) distinct (.input i)
    have here : Moment.stage ⟨d, i⟩ = some s := busy.stage
    rcases step_turn busy i with stays | leaves
    · obtain ⟨owed, unheard⟩ := ih stays.running distinctNext there owes
      have pending : s = t → id ∈ (d.absorb i).operation.cohort.pending := by
        intro same
        rw [← stays.after]
        exact owed same
      refine ⟨fun same => (pending_absorb_sublist busy i).subset (pending same), ?_⟩
      rw [moments, List.forall_mem_cons]
      refine ⟨?_, unheard⟩
      intro seen about
      have same : s = t := Option.some.inj (here.symm.trans seen)
      exact not_owing_of_about busy distinct about (pending same)
    · rcases leaves.lands busy with ⟨u, next, -, -, busyNext⟩ | ⟨-, rests, -⟩
      · -- the stage is left behind for good
        have gone : s ≠ t := by
          intro same
          have bound := rank_run_le busyNext there
          have falls := Stage.rank_lt_of_next next
          rw [same] at falls
          exact absurd falls (Nat.not_lt.mpr bound)
        refine ⟨fun same => absurd same gone, ?_⟩
        rw [moments, List.forall_mem_cons]
        refine ⟨?_, (ih busyNext distinctNext there owes).2⟩
        intro seen
        exact absurd (Option.some.inj (here.symm.trans seen)) gone
      · exact absurd there (atRest_run rests rest).not_running

/-- **The end.** A run reaches one verdict, or it waits for somebody. -/
theorem concludes_or_awaits (busy : d.coordinator.Running s) (distinct : d.owing.Nodup)
    (inputs : List Input) :
    (∃ verdict, d.verdicts inputs = [verdict]) ∨ d.verdicts inputs = [] ∧ d.Awaits inputs := by
  rcases verdicts_of_running busy inputs with ⟨verdict, one, -⟩ | ⟨none, t, there⟩
  · exact .inl ⟨verdict, one⟩
  · have owed := there.waiting.owed
    obtain ⟨id, owes⟩ : ∃ id, id ∈ (d.run inputs).owing := by
      apply List.exists_mem_of_length_pos
      exact Nat.lt_of_le_of_lt (Nat.zero_le _) owed
    exact .inr ⟨none, t, id, there.stage, owes, (unheard_of_owing busy distinct there owes).2⟩

/-! ## Beginnings -/

/-- An operation has just begun with this stage, and nothing has happened since. -/
structure Fresh (d : Docket) (first : Stage) (ids : List ParticipantId) : Prop where
  busy : d.coordinator.Running first
  opened : d.coordinator.operation.cohort = Cohort.opened ids
  uninterrupted : d.coordinator.operation.interrupted = none
  undeparted : d.coordinator.operation.departed = none
  untold : d.untold = []

theorem fresh_or_atRest {c begun : Coordinator} {first : Stage} {effect : Effect}
    (h : c.begin first = (begun, .ok effect)) :
    (∃ ids, (ofBegun begun effect).Fresh first ids) ∨
      (ofBegun begun effect).coordinator.AtRest := by
  rcases begun_lands h with ⟨landed, rfl, busy⟩ | ⟨rfl, rests⟩
  · refine .inl ⟨first.targets (c.fresh first).session.participantIds, busy, ?_, ?_, ?_, rfl⟩
    · show begun.operation.cohort = _
      rw [landed]
      rfl
    · show begun.operation.interrupted = none
      rw [landed]
      exact Coordinator.interrupted_fresh c first
    · show begun.operation.departed = none
      rw [landed]
      exact Coordinator.departed_fresh c first
  · exact .inr rests

/-- Nobody is asked twice. -/
theorem Fresh.nodup_owing {first : Stage} {ids : List ParticipantId} (fresh : d.Fresh first ids) :
    d.owing.Nodup := by
  unfold owing
  rw [fresh.opened]
  exact Cohort.Account.nodup_eraseDups ids

/-! ## Without interrupts -/

/-- As long as a stage is in flight, what no interrupt has disturbed stays undisturbed. -/
theorem uninterrupted_step {i : Input} {rest : List Input} (busy : d.coordinator.Running s)
    (uninterrupted : d.coordinator.operation.interrupted = none)
    (quiet : ¬ d.Interrupted (i :: rest)) :
    (d.absorb i).operation.interrupted = none ∧ i.reason? = none ∧
      ¬ (d.step i).1.Interrupted rest := by
  have unheard : i.reason? = none := by
    by_contra heard
    refine quiet ⟨⟨d, i⟩, List.mem_cons_self, ?_, Option.isSome_iff_ne_none.mpr heard⟩
    show d.coordinator.operation.stage.isSome = true
    rw [busy.stage]
    rfl
  refine ⟨?_, unheard, ?_⟩
  · rw [interrupted_absorb busy, uninterrupted, unheard]
    rfl
  · rwa [interrupted_cons unheard] at quiet

theorem uninterrupted_run {inputs : List Input} (busy : d.coordinator.Running s)
    (uninterrupted : d.coordinator.operation.interrupted = none) (quiet : ¬ d.Interrupted inputs)
    (there : (d.run inputs).coordinator.Running t) :
    (d.run inputs).coordinator.operation.interrupted = none := by
  induction inputs generalizing d s with
  | nil => exact uninterrupted
  | cons i rest ih =>
    obtain ⟨kept, -, quietNext⟩ := uninterrupted_step busy uninterrupted quiet
    rcases step_turn busy i with stays | leaves
    · exact ih stays.running (stays.after ▸ kept) quietNext there
    · rcases leaves.lands busy with ⟨u, -, after, -, busyNext⟩ | ⟨-, rests, -⟩
      · refine ih busyNext ?_ quietNext there
        rw [after]
        exact kept
      · exact absurd there (atRest_run rests rest).not_running

instance (d : Docket) (inputs : List Input) : Decidable (d.Interrupted inputs) :=
  inferInstanceAs (Decidable
    (∃ m ∈ d.moments inputs, m.stage.isSome = true ∧ m.input.reason?.isSome = true))

theorem interrupted_append {xs ys : List Input} :
    d.Interrupted (xs ++ ys) ↔ d.Interrupted xs ∨ (d.run xs).Interrupted ys := by
  unfold Interrupted
  rw [moments_append]
  simp only [List.mem_append, or_and_right, exists_or]

theorem Stay.uninterrupted {xs ys zs : List Input} {i : Input} {ids : List ParticipantId}
    (stay : d.Stay t xs ys i ids) (busy : d.coordinator.Running s)
    (uninterrupted : d.coordinator.operation.interrupted = none)
    (quiet : ¬ d.Interrupted (xs ++ (ys ++ i :: zs))) :
    ((d.run xs).atClose ys i).operation.interrupted = none := by
  rw [interrupted_append, interrupted_append, not_or, not_or] at quiet
  obtain ⟨before, within, last⟩ := quiet
  have entered := uninterrupted_run busy uninterrupted before stay.enters.busy
  have kept := uninterrupted_run stay.enters.busy entered within stay.round.busy
  exact (uninterrupted_step stay.round.busy kept last).1

/-- Without an interrupt, a verdict is to be told. -/
theorem loud_of_running {inputs : List Input} {verdict : Verdict} (busy : d.coordinator.Running s)
    (uninterrupted : d.coordinator.operation.interrupted = none) (quiet : ¬ d.Interrupted inputs)
    (reached : verdict ∈ d.verdicts inputs) : verdict.interrupted = false := by
  induction inputs generalizing d s with
  | nil => exact absurd reached List.not_mem_nil
  | cons i rest ih =>
    obtain ⟨kept, -, quietNext⟩ := uninterrupted_step busy uninterrupted quiet
    rw [verdicts_cons, List.mem_append] at reached
    rcases step_turn busy i with stays | leaves
    · rw [stays.effect] at reached
      exact ih stays.running (stays.after ▸ kept) quietNext
        (reached.resolve_left List.not_mem_nil)
    · rcases leaves.lands busy with ⟨u, -, after, effect, busyNext⟩ | ⟨⟨v, effect⟩, rests, -⟩
      · rw [effect] at reached
        refine ih busyNext ?_ quietNext (reached.resolve_left List.not_mem_nil)
        rw [after]
        exact kept
      · rw [effect, verdicts_of_atRest rests] at reached
        obtain rfl : verdict = v := by simpa [Effect.verdicts] using reached
        rw [(Coordinator.verdict_of_proceed (leaves.effect ▸ effect)).1, kept]
        rfl

/-- **The client.** On an open session, a verdict that no interrupt anticipates is told as it is, and
nothing else is. -/
theorem packets_of_running {inputs : List Input} {verdict : Verdict}
    (busy : d.coordinator.Running s)
    (uninterrupted : d.coordinator.operation.interrupted = none) (untold : d.untold = [])
    (quiet : ¬ d.Interrupted inputs) (reachable : d.coordinator.session.isClosed = false)
    (stays : ∀ i ∈ inputs, i.closes = false) (reached : verdict ∈ d.verdicts inputs)
    (told : (d.run inputs).untold = []) :
    d.packets inputs =
      [Coordinator.verdictPacket (d.coordinator.session.packetId + 1) verdict] := by
  -- on the inputs: nothing is written before the verdict, and the rest is that of the verdict
  induction inputs generalizing d s with
  | nil => exact absurd reached List.not_mem_nil
  | cons i rest ih =>
    rw [List.forall_mem_cons] at stays
    obtain ⟨kept, unheard, quietNext⟩ := uninterrupted_step busy uninterrupted quiet
    obtain ⟨silent, reachableNext, same⟩ :=
      quiet_step (.inl ⟨s, busy⟩) reachable stays.1 (.inl unheard) fun _ => untold
    have untoldNext := untold_step (i := i) fun _ => untold
    rw [verdicts_cons, List.mem_append] at reached
    rw [packets_cons, silent, ← same]
    show (d.step i).1.packets rest = _
    rcases step_turn busy i with stays' | leaves
    · rw [stays'.effect] at reached untoldNext
      rw [untold] at untoldNext
      exact ih stays'.running (stays'.after ▸ kept) untoldNext quietNext reachableNext stays.2
        (reached.resolve_left List.not_mem_nil) told
    · rcases leaves.lands busy with ⟨t, -, after, effect, next⟩ | ⟨⟨v, effect⟩, rests, -⟩
      · rw [effect] at reached untoldNext
        rw [untold] at untoldNext
        refine ih next ?_ untoldNext quietNext reachableNext stays.2
          (reached.resolve_left List.not_mem_nil) told
        rw [after]
        exact kept
      · rw [effect, verdicts_of_atRest rests] at reached
        obtain rfl : verdict = v := by simpa [Effect.verdicts] using reached
        have loud := (Coordinator.verdict_of_proceed (leaves.effect ▸ effect)).1
        rw [kept] at loud
        rw [effect, untold] at untoldNext
        exact packets_of_verdict rests untoldNext loud reachableNext stays.2 told

end Docket

namespace Sample

/-- A commit of two shards that has just begun, and its first commands. -/
def started : Coordinator × Effect :=
  ((coordinator true).fresh (.start .commit)).follow (.enter (.start .commit)) none

theorem begins : (coordinator true).beginCommit = (started.1, .ok started.2) :=
  Coordinator.begin_eq_follow rfl (.start .commit)

def outset : Docket :=
  Docket.ofBegun started.1 started.2

end Sample

end AtomicCommit
