import AtomicCommit.Proofs.Docket

/-!
# Runs through one stage

A run that starts while a stage is in flight stays in it, or begins with a *round* of it: the
inputs up to the one that closes its cohort (`Docket.keeps_or_round`). At the end of a round the
cohort is accounted for by the entries of the round (`Docket.Round.account`), and the stage after
it is in flight or the operation is over (`Docket.Round.lands`). After the conclusion nothing is
counted or sent any more (`Docket.idle_of_atRest`).
-/

namespace AtomicCommit

open Wire

namespace Docket

variable {d : Docket} {s : Stage}

/-! ## Staying in a stage -/

/-- A run during which stage `s` stays in flight. -/
inductive Keeps (s : Stage) : Docket → List Input → Prop where
  | nil {d : Docket} (busy : d.coordinator.Running s) : Keeps s d []
  | cons {d : Docket} {i : Input} {rest : List Input} (busy : d.coordinator.Running s)
      (stays : d.Stays s i) (keeps : Keeps s (d.step i).1 rest) : Keeps s d (i :: rest)

namespace Keeps

variable {xs : List Input}

theorem busy_run (keeps : Keeps s d xs) : (d.run xs).coordinator.Running s := by
  induction keeps with
  | nil busy => exact busy
  | cons busy stays keeps ih => exact ih

/-- What a stage that stays in flight shows of each step. -/
theorem of_mem (keeps : Keeps s d xs) {m : Moment} (h : m ∈ d.moments xs) :
    m.docket.coordinator.Running s ∧ m.docket.Stays s m.input := by
  induction keeps with
  | nil busy => exact absurd h List.not_mem_nil
  | cons busy stays keeps ih =>
    rcases List.mem_cons.mp h with rfl | later
    · exact ⟨busy, stays⟩
    · exact ih later

end Keeps

end Docket

/-! ## Entries -/

namespace Coordinator

theorem mem_pending_of_entry {c : Coordinator} {i : Input} {entry : Cohort.Entry}
    {id : ParticipantId} (entered : c.inputEntryOf i = some entry) (named : entry.id? = some id) :
    id ∈ c.operation.cohort.pending := by
  have pending : c.operation.cohort.isPending id = true := by
    cases i with
    | event e =>
      cases e with
      | error other code message =>
        simp only [inputEntryOf, entryOf] at entered
        split at entered
        · rename_i pending
          split at entered <;> cases entered <;> simp_all [Cohort.Entry.id?]
        · exact absurd entered (by simp)
      | connectError other fault =>
        cases other <;> simp only [inputEntryOf, entryOf] at entered <;> split at entered <;>
          cases entered <;> simp_all [Cohort.Entry.id?]
      | ok | closed =>
        simp only [inputEntryOf, entryOf] at entered
        split at entered <;> cases entered
        simp_all [Cohort.Entry.id?]
    | interrupt | tell | closeSession | clientClosed => simp [inputEntryOf] at entered
  simpa [Cohort.isPending] using pending

end Coordinator

/-- The entry that the open cohort makes of the input. -/
def Moment.entryOf (m : Moment) : Option Cohort.Entry :=
  m.docket.coordinator.inputEntryOf m.input

namespace Docket

variable {d : Docket} {s : Stage} {xs : List Input} {i : Input}

theorem account_absorb {ids : List ParticipantId} {es : List Cohort.Entry}
    (busy : d.coordinator.Running s) (i : Input)
    (account : Cohort.Account ids es d.coordinator.operation.cohort) :
    Cohort.Account ids (es ++ (d.coordinator.inputEntryOf i).toList)
      (d.absorb i).operation.cohort := by
  rw [cohort_absorb busy]
  cases entered : d.coordinator.inputEntryOf i with
  | none => simpa using account
  | some entry =>
    exact account.booked fun id named => Coordinator.mem_pending_of_entry entered named

def entries (d : Docket) (inputs : List Input) : List Cohort.Entry :=
  (d.moments inputs).filterMap Moment.entryOf

theorem mem_entries {e : Cohort.Entry} {inputs : List Input} :
    e ∈ d.entries inputs ↔ ∃ m ∈ d.moments inputs, m.entryOf = some e :=
  List.mem_filterMap

theorem entries_cons (d : Docket) (i : Input) (rest : List Input) :
    d.entries (i :: rest) =
      (d.coordinator.inputEntryOf i).toList ++ (d.step i).1.entries rest := by
  unfold entries
  rw [moments, List.filterMap_cons]
  cases entered : Moment.entryOf ⟨d, i⟩ <;>
    rw [show d.coordinator.inputEntryOf i = _ from entered] <;> rfl

theorem entries_append (d : Docket) (xs ys : List Input) :
    d.entries (xs ++ ys) = d.entries xs ++ (d.run xs).entries ys := by
  unfold entries
  rw [moments_append, List.filterMap_append]

theorem Keeps.account {ids : List ParticipantId} {es : List Cohort.Entry} (keeps : Keeps s d xs)
    (account : Cohort.Account ids es d.coordinator.operation.cohort) :
    Cohort.Account ids (es ++ d.entries xs) (d.run xs).coordinator.operation.cohort := by
  induction keeps generalizing es with
  | nil busy => simpa [entries, moments, run] using account
  | cons busy stays keeps ih =>
    rename_i d i rest
    have absorbed := account_absorb busy i account
    rw [entries_cons, ← List.append_assoc]
    apply ih
    rw [stays.after]
    exact absorbed

/-! ## Rounds -/

/-- The inputs of stage `s` up to the one, the last, that closes its cohort. -/
structure Round (d : Docket) (s : Stage) (xs : List Input) (i : Input) : Prop where
  keeps : Keeps s d xs
  leaves : (d.run xs).Leaves s i

/-- A run stays in a stage, or begins with a round of it. -/
theorem keeps_or_round (busy : d.coordinator.Running s) (inputs : List Input) :
    Keeps s d inputs ∨ ∃ xs i ys, inputs = xs ++ i :: ys ∧ d.Round s xs i := by
  induction inputs generalizing d with
  | nil => exact .inl (.nil busy)
  | cons i rest ih =>
    rcases step_turn busy i with stays | leaves
    · rcases ih stays.running with keeps | ⟨xs, j, ys, rfl, round⟩
      · exact .inl (.cons busy stays keeps)
      · exact .inr ⟨i :: xs, j, ys, rfl, .cons busy stays round.keeps, round.leaves⟩
    · exact .inr ⟨[], i, rest, rfl, .nil busy, leaves⟩

/-- The docket after the inputs `xs` and then `i`. -/
def after (d : Docket) (xs : List Input) (i : Input) : Docket :=
  ((d.run xs).step i).1

/-- The coordinator with these inputs taken in, the last of which it has not moved on. -/
def atClose (d : Docket) (xs : List Input) (i : Input) : Coordinator :=
  (d.run xs).absorb i

theorem run_round (d : Docket) (xs : List Input) (i : Input) (ys : List Input) :
    d.run (xs ++ i :: ys) = (d.after xs i).run ys := by
  rw [run_append]
  rfl

theorem after_round (d : Docket) (xs : List Input) (i : Input) (ys : List Input) (j : Input) :
    d.after (xs ++ i :: ys) j = (d.after xs i).after ys j := by
  unfold after
  rw [run_round]
  rfl

theorem moments_round (d : Docket) (xs : List Input) (i : Input) (ys : List Input) :
    d.moments (xs ++ i :: ys) = d.moments (xs ++ [i]) ++ (d.after xs i).moments ys := by
  rw [moments_append, moments_append, List.append_assoc]
  rfl

theorem mem_moments_round {m : Moment} :
    m ∈ d.moments (xs ++ [i]) ↔ m ∈ d.moments xs ∨ m = ⟨d.run xs, i⟩ := by
  rw [moments_append, List.mem_append]
  exact or_congr_right List.mem_singleton

namespace Round

variable (round : d.Round s xs i)

include round

theorem busy : (d.run xs).coordinator.Running s :=
  round.keeps.busy_run

theorem stage {m : Moment} (h : m ∈ d.moments (xs ++ [i])) : m.stage = some s := by
  rcases mem_moments_round.mp h with earlier | rfl
  · exact (round.keeps.of_mem earlier).1.stage
  · exact round.busy.stage

theorem account {ids : List ParticipantId}
    (opened : d.coordinator.operation.cohort = Cohort.opened ids) :
    Cohort.Account ids (d.entries (xs ++ [i])) (d.atClose xs i).operation.cohort := by
  have start : Cohort.Account ids [] d.coordinator.operation.cohort := opened ▸ .opened
  have kept := account_absorb round.busy i (round.keeps.account start)
  have last : (d.run xs).entries [i] = ((d.run xs).coordinator.inputEntryOf i).toList := by
    rw [entries_cons]
    exact List.append_nil _
  rw [entries_append, last]
  exact kept

/-- After a round the next stage is in flight, or the operation is over. -/
theorem lands :
    (∃ t, s.next ((d.atClose xs i).result s) = .enter t ∧
        (d.after xs i).coordinator = (d.atClose xs i).settled.landed t ∧
        ((d.run xs).step i).2.effect = .send ((d.atClose xs i).orders t) ∧
        (d.after xs i).coordinator.Running t) ∨
      (∃ verdict, ((d.run xs).step i).2.effect = .conclude verdict) ∧
        (d.after xs i).coordinator.AtRest ∧
        ∀ t, s.next ((d.atClose xs i).result s) = .enter t →
          t.targets (d.atClose xs i).session.participantIds = [] :=
  round.leaves.lands round.busy

theorem participants_after : (d.after xs i).coordinator.session.participants =
    (d.atClose xs i).session.participants := by
  exact participants_step round.busy i

end Round

theorem Keeps.xid (keeps : Keeps s d xs) :
    (d.run xs).coordinator.operation.xid = d.coordinator.operation.xid := by
  induction keeps with
  | nil busy => rfl
  | cons busy stays keeps ih =>
    rename_i d i rest
    rw [run, ih, stays.after, xid_absorb busy]

theorem Round.xid (round : d.Round s xs i) :
    (d.atClose xs i).operation.xid = d.coordinator.operation.xid := by
  unfold atClose
  rw [xid_absorb round.busy, round.keeps.xid]

theorem Keeps.told (keeps : Keeps s d xs) (told : d.untold = []) : (d.run xs).untold = [] := by
  induction keeps with
  | nil busy => exact told
  | cons busy stays keeps ih =>
    apply ih
    rw [untold_step fun _ => told, stays.effect, told]
    rfl

/-! ## Rest -/

/-- After the conclusion nothing is sent, no verdict is reached and no cohort counts. -/
theorem idle_of_atRest {inputs : List Input} (rest : d.coordinator.AtRest) {m : Moment}
    (h : m ∈ d.moments inputs) :
    m.report.effect = .idle ∧ m.docket.coordinator.AtRest := by
  induction inputs generalizing d with
  | nil => exact absurd h List.not_mem_nil
  | cons i others ih =>
    rcases List.mem_cons.mp h with rfl | later
    · exact ⟨(step_of_atRest rest i).1, rest⟩
    · exact ih (step_of_atRest rest i).2 later

theorem stage_of_atRest {inputs : List Input} (rest : d.coordinator.AtRest) {m : Moment}
    (h : m ∈ d.moments inputs) : m.stage = none := by
  show m.docket.coordinator.operation.stage = none
  rw [show m.docket.coordinator.operation = {} from (idle_of_atRest rest h).2]

theorem atRest_run (rest : d.coordinator.AtRest) (inputs : List Input) :
    (d.run inputs).coordinator.AtRest := by
  induction inputs generalizing d with
  | nil => exact rest
  | cons i others ih => exact ih (step_of_atRest rest i).2

/-- Of stages that lead only to each other, a run that starts in one leaves one in flight, until
the operation is over. -/
theorem running_run {K : Stage → Prop} (leads : ∀ {s t o}, K s → s.next o = .enter t → K t)
    (busy : d.coordinator.Running s) (here : K s) (inputs : List Input) :
    (∃ t, K t ∧ (d.run inputs).coordinator.Running t) ∨ (d.run inputs).coordinator.AtRest := by
  induction inputs generalizing d s with
  | nil => exact .inl ⟨s, here, busy⟩
  | cons i rest ih =>
    rcases step_lands busy i with ⟨-, stays⟩ | ⟨t, next, -, -, nextBusy⟩ | ⟨-, rests⟩
    · exact ih stays here
    · exact ih nextBusy (leads here next)
    · exact .inr (atRest_run rests rest)

theorem stage_of_mem {K : Stage → Prop} (leads : ∀ {s t o}, K s → s.next o = .enter t → K t)
    {inputs : List Input} (busy : d.coordinator.Running s) (here : K s) {m : Moment}
    (h : m ∈ d.moments inputs) : m.stage = none ∨ ∃ t, K t ∧ m.stage = some t := by
  obtain ⟨xs, ys, -, there⟩ := exists_of_mem_moments h
  unfold Moment.stage
  rw [there]
  rcases running_run leads busy here xs with ⟨t, kept, running⟩ | rests
  · exact .inr ⟨t, kept, running.stage⟩
  · rw [show (d.run xs).coordinator.operation = {} from rests]
    exact .inl rfl

/-! ## Operations -/

def ofBegun (c : Coordinator) (effect : Effect) : Docket :=
  ⟨c, effect.verdicts⟩

/-- An operation that has begun has sent its first commands, or is concluded. -/
theorem begun_lands {c begun : Coordinator} {s : Stage} {effect : Effect}
    (h : c.begin s = (begun, .ok effect)) :
    (begun = (c.fresh s).landed s ∧ effect = .send ((c.fresh s).orders s) ∧ begun.Running s) ∨
      (effect = .conclude ⟨s.ifNobody, none, false⟩ ∧ begun.AtRest) := by
  cases inFlight : c.operation.stage with
  | some current =>
    rw [Coordinator.begin_of_inFlight inFlight] at h
    exact absurd h (by simp)
  | none =>
    rw [Coordinator.begin_eq_follow inFlight, Prod.mk.injEq, Except.ok.injEq] at h
    obtain ⟨rfl, rfl⟩ := h
    by_cases nobody : s.targets (c.fresh s).session.participantIds = []
    · rw [Coordinator.follow_of_nobody nobody, Coordinator.interrupted_fresh]
      exact .inr ⟨rfl, rfl⟩
    · rw [Coordinator.follow_of_somebody nobody]
      have running := Coordinator.running_landed (Coordinator.xid_fresh c s) nobody
      exact .inl ⟨rfl, rfl, running⟩

/-! ## Commands -/

def sent (d : Docket) (inputs : List Input) : List (Link × Command) :=
  (d.moments inputs).flatMap fun m => m.report.effect.commands

theorem sent_cons (d : Docket) (i : Input) (rest : List Input) :
    d.sent (i :: rest) = (d.step i).2.effect.commands ++ (d.step i).1.sent rest := rfl

theorem sent_round (d : Docket) (xs : List Input) (i : Input) (ys : List Input) :
    d.sent (xs ++ i :: ys) =
      d.sent xs ++ (((d.run xs).step i).2.effect.commands ++ (d.after xs i).sent ys) := by
  unfold sent
  rw [moments_append, List.flatMap_append]
  rfl

theorem Keeps.sent_eq_nil (keeps : Keeps s d xs) : d.sent xs = [] := by
  unfold sent
  rw [List.flatMap_eq_nil_iff]
  intro m h
  rw [show m.report.effect = .idle from (keeps.of_mem h).2.effect]
  rfl

theorem sent_of_atRest (rest : d.coordinator.AtRest) (inputs : List Input) :
    d.sent inputs = [] := by
  unfold sent
  rw [List.flatMap_eq_nil_iff]
  intro m h
  rw [(idle_of_atRest rest h).1]
  rfl

theorem kind_of_mem_orders {c : Coordinator} {t : Stage} {p : Link × Command}
    (h : p ∈ c.orders t) : p.2.kind = t.command := by
  obtain ⟨link, -, rfl⟩ := List.mem_map.mp h
  rfl

/-- What is sent in an operation goes with a stage that is entered. -/
theorem lands_of_sent {K : Stage → Prop} (leads : ∀ {s t o}, K s → s.next o = .enter t → K t)
    (busy : d.coordinator.Running s) (here : K s) {p : Link × Command}
    (sent : p ∈ ((d.run xs).step i).2.effect.commands) :
    ∃ t, K t ∧ (d.after xs i).coordinator.Running t ∧ p ∈ (d.atClose xs i).orders t ∧
      (d.after xs i).coordinator = (d.atClose xs i).settled.landed t := by
  rcases running_run leads busy here xs with ⟨u, kept, running⟩ | rests
  · rcases step_lands running i with ⟨effect, -⟩ | ⟨t, next, after, effect, busy⟩ | ⟨⟨v, effect⟩, -⟩
    · rw [effect] at sent
      exact absurd sent List.not_mem_nil
    · rw [effect] at sent
      exact ⟨t, leads kept next, busy, sent, after⟩
    · rw [effect] at sent
      exact absurd sent List.not_mem_nil
  · rw [(step_of_atRest rests i).1] at sent
    exact absurd sent List.not_mem_nil

/-- Once an operation is among stages that lead only to each other, it sends their commands. -/
theorem kind_of_sent {K : Stage → Prop} (leads : ∀ {s t o}, K s → s.next o = .enter t → K t)
    {inputs : List Input} (busy : d.coordinator.Running s) (here : K s) {p : Link × Command}
    (h : p ∈ d.sent inputs) : ∃ t, K t ∧ p.2.kind = t.command := by
  obtain ⟨m, inRun, sends⟩ := List.mem_flatMap.mp h
  obtain ⟨xs, ys, -, there⟩ := exists_of_mem_moments inRun
  unfold Moment.report at sends
  rw [there] at sends
  obtain ⟨t, kept, -, ordered, -⟩ := lands_of_sent leads busy here sends
  exact ⟨t, kept, kind_of_mem_orders ordered⟩

end Docket

end AtomicCommit
