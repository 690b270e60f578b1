import AtomicCommit.Proofs.Arrears

/-!
# Overtaking

Commands are sent one by one after their stage was entered, and anything may happen in between. So
a stage can be left while commands of it are still to be sent, and those of the next stage may be
sent before them. An `Outbox` follows the commands of a life: it numbers the stages as they are
entered, and knows what is left to be sent of each. A stage sends its own commands in order, while
the stages take turns as they like; a command that cannot be sent is reported at once.

A command is *overtaken* when its participant owes an answer to a later stage.

* **acts** — `Docket.turns_act`: an act leaves the cohort open, with at most one more entry, or
  closes it, and then everyone is accounted for.
* **runs** — `Outbox.Kept.of_states` for every run, and `Outbox.Ordered.of_states` while nothing is
  overtaken.
* **sending** — `Outbox.deliverAll_replicate`: any stage can send what it has left.
* **order** — `commands_keep_order_iff`.
-/

namespace AtomicCommit

open Wire

/-! ## What an act does to a cohort -/

namespace Docket

variable {d : Docket}

/-- The slots taken in the open cohort by failures that name nobody. -/
def slots (d : Docket) : Nat :=
  d.coordinator.operation.cohort.unreachable

theorem slots_of_atRest (rest : d.coordinator.AtRest) : d.slots = 0 := by
  unfold slots
  rw [show d.coordinator.operation = {} from rest]

/-- The cohort stays open: nothing is sent, and the entry of the act, if there is one, is booked. -/
structure StaysOpen (d : Docket) (a : Act) : Prop where
  silent : (d.report a).effect.commands = []
  booked : (d.act a).coordinator.operation.cohort =
    ((Scene.entryOf ⟨d, a⟩).map d.coordinator.operation.cohort.book).getD
      d.coordinator.operation.cohort

namespace StaysOpen

variable {a : Act} (stays : d.StaysOpen a)

include stays

theorem owing_eq : (d.act a).owing =
    (((Scene.entryOf ⟨d, a⟩).bind Cohort.Entry.id?).map d.owing.erase).getD d.owing := by
  unfold owing
  rw [stays.booked]
  cases Scene.entryOf ⟨d, a⟩ with
  | none => rfl
  | some e => exact Cohort.Account.pending_book _ e

theorem owing_sublist : (d.act a).owing.Sublist d.owing := by
  rw [stays.owing_eq]
  cases (Scene.entryOf ⟨d, a⟩).bind Cohort.Entry.id? with
  | none => exact .refl _
  | some id => exact List.erase_sublist

/-- Whoever does not owe an answer any more is named by the entry of the act. -/
theorem exists_entry {id : ParticipantId} (owes : id ∈ d.owing) (free : id ∉ (d.act a).owing) :
    ∃ e, Scene.entryOf ⟨d, a⟩ = some e ∧ e.id? = some id := by
  rw [stays.owing_eq] at free
  cases entered : Scene.entryOf ⟨d, a⟩ with
  | none =>
    rw [entered] at free
    exact absurd owes free
  | some e =>
    refine ⟨e, rfl, ?_⟩
    rw [entered, Option.bind_some] at free
    cases named : e.id? with
    | none =>
      rw [named] at free
      exact absurd owes free
    | some other =>
      rw [named] at free
      by_contra different
      apply free
      exact (List.mem_erase_of_ne fun same => different (congrArg some same.symm)).mpr owes

/-- A slot that is taken was taken before, or is taken by the entry of the act. -/
theorem slots_cases (taken : 0 < (d.act a).slots) :
    0 < d.slots ∨ ∃ e, Scene.entryOf ⟨d, a⟩ = some e ∧ e.id? = none := by
  unfold slots at taken
  rw [stays.booked] at taken
  cases entered : Scene.entryOf ⟨d, a⟩ with
  | none =>
    rw [entered] at taken
    exact .inl taken
  | some e =>
    cases named : e.id? with
    | none => exact .inr ⟨e, rfl, named⟩
    | some id =>
      rw [entered, Option.map_some, Option.getD_some, Cohort.unreachable_book named] at taken
      exact .inl taken

end StaysOpen

/-- An act accounts for a participant if its entry names the participant or nobody, or if a slot is
taken already. -/
def AccountsFor (d : Docket) (a : Act) (id : ParticipantId) : Prop :=
  0 < d.slots ∨ ∃ e, Scene.entryOf ⟨d, a⟩ = some e ∧ (e.id? = none ∨ e.id? = some id)

/-- The cohort closes, or there was none: whoever owes an answer now is sent a command, and whoever
owed one before is accounted for. -/
structure Closes (d : Docket) (a : Act) : Prop where
  asked : ∀ id ∈ (d.act a).owing, ∃ q ∈ (d.report a).effect.commands, q.1.id = id
  vacant : (d.act a).slots = 0
  heeded : ∀ id ∈ d.owing, d.AccountsFor a id

variable {a : Act}

theorem Closes.of_landed {c : Coordinator} {t : Stage} (after : (d.act a).coordinator = c.landed t)
    (sends : (d.report a).effect = .send (c.orders t))
    (heeded : ∀ id ∈ d.owing, d.AccountsFor a id) : d.Closes a := by
  refine ⟨?_, ?_, heeded⟩
  · intro id owes
    unfold owing at owes
    rw [after] at owes
    rw [sends]
    exact sent_of_landed owes
  · unfold slots
    rw [after]
    rfl

theorem Closes.of_atRest (rests : (d.act a).coordinator.AtRest)
    (heeded : ∀ id ∈ d.owing, d.AccountsFor a id) : d.Closes a := by
  refine ⟨?_, slots_of_atRest rests, heeded⟩
  intro id owes
  rw [owing_of_atRest rests] at owes
  exact absurd owes List.not_mem_nil

theorem accountsFor_of_atRest (rest : d.coordinator.AtRest) : ∀ id ∈ d.owing, d.AccountsFor a id := by
  intro id owes
  rw [owing_of_atRest rest] at owes
  exact absurd owes List.not_mem_nil

/-- A cohort that closes has accounted for whoever was pending. -/
theorem accountsFor_of_leaves {s : Stage} {i : Input} (busy : d.coordinator.Running s)
    (leaves : d.Leaves s i) : ∀ id ∈ d.owing, d.AccountsFor (.input i) id := by
  intro id owes
  have closes := leaves.closes
  rw [cohort_absorb busy] at closes
  cases entered : d.coordinator.inputEntryOf i with
  | none =>
    -- a cohort that waits does not close of itself
    rw [entered] at closes
    have waits := busy.waiting.owed
    exact absurd closes (Nat.not_le.mpr waits)
  | some e =>
    cases named : e.id? with
    | none => exact .inr ⟨e, entered, .inl named⟩
    | some other =>
      by_cases same : other = id
      · exact .inr ⟨e, entered, .inr (named.trans (congrArg some same))⟩
      · -- the participant is still pending, so a slot is taken for it
        refine .inl ?_
        rw [entered, Option.map_some, Option.getD_some, Cohort.unreachable_book named,
          Cohort.Account.pending_book, named, Option.map_some, Option.getD_some] at closes
        have waits : id ∈ d.coordinator.operation.cohort.pending.erase other :=
          (List.mem_erase_of_ne fun this => same this.symm).mpr owes
        exact Nat.lt_of_lt_of_le (List.length_pos_of_mem waits) closes

theorem turns_begin (settled : d.coordinator.Settled) {s : Stage}
    (after : d.act a = d.begun (d.coordinator.begin s))
    (effect : (d.report a).effect = begunEffect (d.coordinator.begin s).2)
    (uncounted : Scene.entryOf ⟨d, a⟩ = none) : d.StaysOpen a ∨ d.Closes a := by
  have refused : d.begun (d.coordinator.begin s) = d →
      begunEffect (d.coordinator.begin s).2 = .idle → d.StaysOpen a := by
    intro same idle
    constructor
    · rw [effect, idle]
      rfl
    · rw [after, same, uncounted]
      rfl
  rcases settled with ⟨current, busy⟩ | rest
  · have inFlight := Coordinator.begin_of_inFlight (s := s) busy.stage
    exact .inl (refused (by rw [inFlight]; rfl) (by rw [inFlight]; rfl))
  · rcases begun_cases (.inr rest) s with ⟨same, idle⟩ | ⟨c, landed, sends⟩ | ⟨rests, -⟩
    · exact .inl (refused same idle)
    · exact .inr (.of_landed (after ▸ landed) (effect.trans sends) (accountsFor_of_atRest rest))
    · exact .inr (.of_atRest (after ▸ rests) (accountsFor_of_atRest rest))

theorem turns_step (settled : d.coordinator.Settled) (i : Input) :
    d.StaysOpen (.input i) ∨ d.Closes (.input i) := by
  rcases settled with ⟨s, busy⟩ | rest
  · rcases step_turn busy i with stays | leaves
    · refine .inl ⟨congrArg Effect.commands stays.effect, ?_⟩
      show (d.step i).1.coordinator.operation.cohort = _
      rw [stays.after]
      exact cohort_absorb busy i
    · have heeded := accountsFor_of_leaves busy leaves
      rcases leaves.lands busy with ⟨t, -, after, effect, -⟩ | ⟨-, rests, -⟩
      · exact .inr (.of_landed after effect heeded)
      · exact .inr (.of_atRest rests heeded)
  · exact .inr (.of_atRest (step_of_atRest rest i).2 (accountsFor_of_atRest rest))

/-- **Acts.** After an act the cohort is still open, or it has closed. -/
theorem turns_act (settled : d.coordinator.Settled) (a : Act) : d.StaysOpen a ∨ d.Closes a := by
  cases a with
  | begin s => exact turns_begin settled rfl rfl rfl
  | commit | rollback => exact turns_begin settled rfl rfl rfl
  | input i => exact turns_step settled i
  | _ => exact .inl ⟨rfl, rfl⟩

end Docket

/-! ## Outboxes -/

/-- A command given out by a stage, which goes by its number. -/
structure Outgoing where
  round : Nat
  link : Link
  command : Command
  deriving DecidableEq, Repr

/-- The commands given out in a life, and what has become of them. -/
structure Outbox where
  docket : Docket
  /-- How many stages were entered so far. The number of the stage in flight is that of the last. -/
  rounds : Nat := 0
  /-- All commands, as they were given out. -/
  given : List Outgoing := []
  /-- Those not sent yet. -/
  left : List Outgoing := []
  /-- Those sent, as they were sent, whether or not they arrived. -/
  sent : List Outgoing := []
  /-- What the cohorts counted, with the numbers of their stages. -/
  counted : List (Nat × Cohort.Entry) := []
  /-- Commands that could not be sent, with the number of the stage that counted the failure. -/
  missed : List (Outgoing × Nat) := []

namespace Outbox

/-- What can happen in a life whose commands are sent one by one. -/
inductive Move where
  | act (a : Act)
  /-- A stage sends its next command, or fails to. -/
  | send (round : Nat) (failure : Option String)
  deriving DecidableEq, Repr

def born (id : UInt64) (issuer : String) : Outbox where
  docket := Docket.born id issuer

def ofRound (orders : List Outgoing) (round : Nat) : List Outgoing :=
  orders.filter (·.round == round)

variable (x : Outbox)

/-- The number of the last stage entered after an act. -/
def roundsAfter (a : Act) : Nat :=
  if (x.docket.report a).effect.commands = [] then x.rounds else x.rounds + 1

def orders (a : Act) : List Outgoing :=
  (x.docket.report a).effect.commands.map fun p => ⟨x.roundsAfter a, p.1, p.2⟩

/-- The outbox after an act. -/
def record (a : Act) : Outbox where
  docket := x.docket.act a
  rounds := x.roundsAfter a
  given := x.given ++ x.orders a
  left := x.left ++ x.orders a
  sent := x.sent
  counted := x.counted ++ (Scene.entryOf ⟨x.docket, a⟩).toList.map (x.rounds, ·)
  missed := x.missed

/-- What a stage sends next. -/
def next? (round : Nat) : Option Outgoing :=
  (ofRound x.left round).head?

/-- A stage sends its next command, if it has any left. -/
def deliver (round : Nat) : Outbox :=
  { x with
    left := x.left.eraseP (·.round == round)
    sent := x.sent ++ (x.next? round).toList }

/-- Stages send their next commands, in this order. -/
def deliverAll (rounds : List Nat) : Outbox :=
  rounds.foldl deliver x

/-- A stage cannot send its next command, and the coordinator hears of it. -/
def fail (round : Nat) (text : String) : Outbox :=
  match x.next? round with
  | none => x
  | some o =>
    let out := x.deliver round
    let event := Event.error o.link.id none text
    { out.record (.input (.event event)) with
      missed := out.missed ++ (out.docket.coordinator.entryOf event).toList.map fun _ =>
        (o, out.rounds) }

def move : Move → Outbox
  | .act a => x.record a
  | .send round none => x.deliver round
  | .send round (some text) => x.fail round text

/-- The outboxes of a run, the first and the last among them. -/
def states (x : Outbox) : List Move → List Outbox
  | [] => [x]
  | m :: rest => x :: (x.move m).states rest

/-- Everyone was sent its commands in the order of the stages. -/
def InOrder : Prop :=
  x.sent.Pairwise fun p q => p.link.id = q.link.id → p.round ≤ q.round

/-- Commands that could not be sent were counted, if at all, in their own stages. -/
def CountedAtHome : Prop :=
  ∀ m ∈ x.missed, m.1.round = m.2

/-- The stage of a command has counted its participant, or a failure that names nobody. -/
def AccountedFor (p : Outgoing) : Prop :=
  ∃ e, (p.round, e) ∈ x.counted ∧ (e.id? = none ∨ e.id? = some p.link.id)

/-- The participant of a command that is left to be sent owes an answer to a later stage. -/
def Overtaken : Prop :=
  ∃ o ∈ x.left, o.round ≠ x.rounds ∧ o.link.id ∈ x.docket.owing

instance : Decidable x.InOrder :=
  inferInstanceAs (Decidable (List.Pairwise _ _))

instance : Decidable x.CountedAtHome :=
  inferInstanceAs (Decidable (∀ m ∈ x.missed, m.1.round = m.2))

instance : Decidable x.Overtaken :=
  inferInstanceAs (Decidable (∃ o ∈ x.left, o.round ≠ x.rounds ∧ o.link.id ∈ x.docket.owing))

variable {x : Outbox}

/-! ## What every run keeps -/

/-- What holds of an outbox however its commands are sent. -/
structure Kept (x : Outbox) : Prop where
  settled : x.docket.coordinator.Settled
  whole : (x.sent ++ x.left).Perm x.given
  recent : ∀ p ∈ x.given, p.round ≤ x.rounds
  /-- Whoever owes an answer was given a command of the last stage. -/
  asked : ∀ id ∈ x.docket.owing, ∃ p ∈ x.given, p.link.id = id ∧ p.round = x.rounds
  slots : 0 < x.docket.slots → ∃ e, (x.rounds, e) ∈ x.counted ∧ e.id? = none
  heeded : ∀ p ∈ x.given, p.round = x.rounds ∧ p.link.id ∈ x.docket.owing ∨ x.AccountedFor p

theorem kept_born (id : UInt64) (issuer : String) : (born id issuer).Kept where
  settled := Docket.settled_born id issuer
  whole := .refl _
  recent := fun _ mem => absurd mem List.not_mem_nil
  asked := fun _ owes => absurd owes List.not_mem_nil
  slots := fun some => absurd some (Nat.lt_irrefl 0)
  heeded := fun _ mem => absurd mem List.not_mem_nil

theorem rounds_le (a : Act) : x.rounds ≤ x.roundsAfter a := by
  unfold roundsAfter
  split <;> omega

theorem roundsAfter_of_silent {a : Act} (silent : (x.docket.report a).effect.commands = []) :
    x.roundsAfter a = x.rounds ∧ x.orders a = [] := by
  refine ⟨if_pos silent, ?_⟩
  unfold orders
  rw [silent]
  rfl

/-- What an act gives out belongs to the stage that the act enters, which is a new one. -/
theorem of_mem_orders (settled : x.docket.coordinator.Settled) {a : Act} {p : Outgoing}
    (mem : p ∈ x.orders a) :
    p.round = x.rounds + 1 ∧ p.round = x.roundsAfter a ∧
      p.link.id ∈ (x.docket.act a).owing := by
  obtain ⟨q, sent, rfl⟩ := List.mem_map.mp mem
  exact ⟨if_neg (List.ne_nil_of_mem sent), rfl, Docket.owing_of_sent settled sent⟩

theorem mem_counted_record {a : Act} {e : Cohort.Entry}
    (entered : Scene.entryOf ⟨x.docket, a⟩ = some e) : (x.rounds, e) ∈ (x.record a).counted := by
  simp [record, entered]

theorem AccountedFor.record {p : Outgoing} (accounted : x.AccountedFor p) (a : Act) :
    (x.record a).AccountedFor p := by
  obtain ⟨e, counted, names⟩ := accounted
  exact ⟨e, List.mem_append_left _ counted, names⟩

theorem Kept.record_of_staysOpen (kept : x.Kept) {a : Act} (stays : x.docket.StaysOpen a) :
    (x.record a).Kept := by
  obtain ⟨same, orders⟩ := roundsAfter_of_silent stays.silent
  have given : (x.record a).given = x.given := by
    simp [record, orders]
  have rounds : (x.record a).rounds = x.rounds := same
  refine ⟨Docket.settled_act kept.settled a, ?_, ?_, ?_, ?_, ?_⟩
  · show (x.sent ++ (x.left ++ x.orders a)).Perm (x.given ++ x.orders a)
    rw [orders, List.append_nil, List.append_nil]
    exact kept.whole
  · rw [given, rounds]
    exact kept.recent
  · intro id owes
    rw [given, rounds]
    exact kept.asked id (stays.owing_sublist.subset owes)
  · intro taken
    rw [rounds]
    rcases stays.slots_cases taken with before | ⟨e, entered, unnamed⟩
    · obtain ⟨e, counted, unnamed⟩ := kept.slots before
      exact ⟨e, List.mem_append_left _ counted, unnamed⟩
    · exact ⟨e, mem_counted_record entered, unnamed⟩
  · intro p mem
    rw [given] at mem
    rcases kept.heeded p mem with ⟨current, owes⟩ | accounted
    · by_cases still : p.link.id ∈ (x.docket.act a).owing
      · exact .inl ⟨current.trans rounds.symm, still⟩
      · obtain ⟨e, entered, names⟩ := stays.exists_entry owes still
        exact .inr ⟨e, current ▸ mem_counted_record entered, .inr names⟩
    · exact .inr (accounted.record a)

theorem Kept.record_of_closes (kept : x.Kept) {a : Act} (closes : x.docket.Closes a) :
    (x.record a).Kept := by
  have grows := x.rounds_le a
  refine ⟨Docket.settled_act kept.settled a, ?_, ?_, ?_, ?_, ?_⟩
  · show (x.sent ++ (x.left ++ x.orders a)).Perm (x.given ++ x.orders a)
    rw [← List.append_assoc]
    exact kept.whole.append_right _
  · intro p mem
    rcases List.mem_append.mp mem with earlier | now
    · exact Nat.le_trans (kept.recent p earlier) grows
    · exact Nat.le_of_eq (of_mem_orders kept.settled now).2.1
  · intro id owes
    obtain ⟨q, sent, rfl⟩ := closes.asked id owes
    exact ⟨⟨x.roundsAfter a, q.1, q.2⟩,
      List.mem_append_right _ (List.mem_map_of_mem sent), rfl, rfl⟩
  · intro taken
    rw [show (x.record a).docket.slots = 0 from closes.vacant] at taken
    exact absurd taken (Nat.lt_irrefl 0)
  · intro p mem
    rcases List.mem_append.mp mem with earlier | now
    · refine .inr ?_
      rcases kept.heeded p earlier with ⟨current, owes⟩ | accounted
      · rcases closes.heeded _ owes with taken | ⟨e, entered, names⟩
        · obtain ⟨e, counted, unnamed⟩ := kept.slots taken
          exact AccountedFor.record ⟨e, current ▸ counted, .inl unnamed⟩ a
        · exact ⟨e, current ▸ mem_counted_record entered, names⟩
      · exact accounted.record a
    · obtain ⟨-, current, owes⟩ := of_mem_orders kept.settled now
      exact .inl ⟨current, owes⟩

theorem Kept.record (kept : x.Kept) (a : Act) : (x.record a).Kept := by
  rcases Docket.turns_act kept.settled a with stays | closes
  · exact kept.record_of_staysOpen stays
  · exact kept.record_of_closes closes

/-- A stage has nothing left to send, or its first command leaves. -/
theorem deliver_cases (x : Outbox) (round : Nat) :
    x.next? round = none ∧ x.deliver round = x ∨
      ∃ o before behind, x.next? round = some o ∧ o.round = round ∧
        x.left = before ++ o :: behind ∧
        x.deliver round = { x with left := before ++ behind, sent := x.sent ++ [o] } := by
  by_cases waiting : ∃ o ∈ x.left, (o.round == round) = true
  · obtain ⟨o, waits, here⟩ := waiting
    -- the first of the round is the one that is sent
    obtain ⟨o, before, behind, others, own, around, erased⟩ :=
      List.exists_of_eraseP (p := fun o : Outgoing => o.round == round) waits here
    have next : x.next? round = some o := by
      unfold next? ofRound
      rw [List.head?_filter, around, List.find?_append, List.find?_eq_none.mpr others]
      simp [own]
    refine .inr ⟨o, before, behind, next, eq_of_beq own, around, ?_⟩
    unfold deliver
    rw [erased, next]
    rfl
  · have others : ∀ o ∈ x.left, ¬ (o.round == round) = true :=
      fun o waits here => waiting ⟨o, waits, here⟩
    have next : x.next? round = none := by
      unfold next? ofRound
      rw [List.head?_filter]
      exact List.find?_eq_none.mpr others
    refine .inl ⟨next, ?_⟩
    unfold deliver
    rw [List.eraseP_of_forall_not others, next, Option.toList_none, List.append_nil]

theorem Kept.deliver (kept : x.Kept) (round : Nat) : (x.deliver round).Kept := by
  rcases x.deliver_cases round with ⟨-, same⟩ | ⟨o, before, behind, -, -, around, after⟩
  · rw [same]
    exact kept
  · have whole := kept.whole
    rw [around] at whole
    have moved : (x.sent ++ [o] ++ (before ++ behind)).Perm (x.sent ++ (before ++ o :: behind)) := by
      rw [List.append_assoc, List.singleton_append]
      exact List.perm_middle.symm.append_left _
    rw [after]
    exact { kept with whole := moved.trans whole }

theorem Kept.deliverAll (kept : x.Kept) (rounds : List Nat) : (x.deliverAll rounds).Kept := by
  induction rounds generalizing x with
  | nil => exact kept
  | cons round rest ih => exact ih (kept.deliver round)

theorem Kept.fail (kept : x.Kept) (round : Nat) (text : String) : (x.fail round text).Kept := by
  unfold Outbox.fail
  split
  · exact kept
  · rename_i o _
    exact { (kept.deliver round).record (.input (.event (.error o.link.id none text))) with }

theorem Kept.move (kept : x.Kept) (m : Move) : (x.move m).Kept := by
  cases m with
  | act a => exact kept.record a
  | send round failure =>
    cases failure with
    | none => exact kept.deliver round
    | some text => exact kept.fail round text

theorem mem_states (x : Outbox) (moves : List Move) : x ∈ x.states moves := by
  cases moves <;> exact List.mem_cons_self

theorem Kept.of_states (kept : x.Kept) (moves : List Move) : ∀ y ∈ x.states moves, y.Kept := by
  induction moves generalizing x with
  | nil => simpa [states] using kept
  | cons m rest ih => exact List.forall_mem_cons.mpr ⟨kept, ih (kept.move m)⟩

/-! ## What is kept while nothing is overtaken -/

/-- The commands of an outbox in which nothing has been overtaken. -/
structure Ordered (x : Outbox) : Prop where
  /-- Nobody who has yet to be sent a command was given a later one. -/
  level : ∀ o ∈ x.left, ∀ p ∈ x.given, p.link.id = o.link.id → p.round ≤ o.round
  inOrder : x.InOrder
  atHome : x.CountedAtHome

theorem ordered_born (id : UInt64) (issuer : String) : (born id issuer).Ordered where
  level := fun _ mem => absurd mem List.not_mem_nil
  inOrder := .nil
  atHome := fun _ mem => absurd mem List.not_mem_nil

theorem Ordered.record (ordered : x.Ordered) (kept : x.Kept) {a : Act}
    (free : ¬ (x.record a).Overtaken) : (x.record a).Ordered := by
  refine ⟨?_, ordered.inOrder, ordered.atHome⟩
  intro o waits p given same
  rcases List.mem_append.mp waits with earlier | now
  · have before := kept.recent o (kept.whole.subset (List.mem_append_right _ earlier))
    rcases List.mem_append.mp given with old | new
    · exact ordered.level o earlier p old same
    · -- whoever is given a command owes its answer, so an earlier one would be overtaken
      obtain ⟨next, current, owes⟩ := of_mem_orders kept.settled new
      have last : (x.record a).rounds = x.rounds + 1 := current.symm.trans next
      exact absurd ⟨o, waits, by omega, same ▸ owes⟩ free
  · have current := (of_mem_orders kept.settled now).2.1
    have grows := x.rounds_le a
    rcases List.mem_append.mp given with old | new
    · have recent := kept.recent p old
      omega
    · have together := (of_mem_orders kept.settled new).2.1
      omega

theorem Ordered.deliver (ordered : x.Ordered) (kept : x.Kept) (round : Nat) :
    (x.deliver round).Ordered := by
  rcases x.deliver_cases round with ⟨-, same⟩ | ⟨o, before, behind, -, -, around, after⟩
  · rw [same]
    exact ordered
  · have waits : o ∈ x.left := around ▸ List.mem_append_right _ List.mem_cons_self
    have fewer : (before ++ behind).Sublist x.left :=
      around ▸ (List.sublist_cons_self o behind).append_left before
    rw [after]
    refine ⟨fun p mem => ordered.level p (fewer.subset mem), ?_, ordered.atHome⟩
    unfold InOrder
    rw [List.pairwise_append]
    refine ⟨ordered.inOrder, List.pairwise_singleton _ _, ?_⟩
    intro p sent q last same
    rw [List.mem_singleton.mp last] at same ⊢
    exact ordered.level o waits p (kept.whole.subset (List.mem_append_left _ sent)) same

theorem free_deliver (free : ¬ x.Overtaken) (round : Nat) : ¬ (x.deliver round).Overtaken := by
  rintro ⟨o, waits, late, owes⟩
  exact free ⟨o, List.eraseP_subset waits, late, owes⟩

/-- A command whose failure is counted elsewhere has been overtaken. -/
theorem atHome_fail (atHome : x.CountedAtHome) (free : ¬ x.Overtaken) (round : Nat)
    (text : String) : (x.fail round text).CountedAtHome := by
  rcases x.deliver_cases round with ⟨next, -⟩ | ⟨o, before, behind, next, -, around, -⟩
  · simp only [fail, next]
    exact atHome
  · simp only [fail, next]
    intro m missed
    rcases List.mem_append.mp missed with earlier | now
    · exact atHome m earlier
    · obtain ⟨e, entered, rfl⟩ := List.mem_map.mp now
      by_contra late
      apply free
      refine ⟨o, around ▸ List.mem_append_right _ List.mem_cons_self, late, ?_⟩
      by_contra owesNothing
      have uncounted : x.docket.coordinator.entryOf (.error o.link.id none text) = none :=
        Coordinator.entryOf_of_unowed rfl owesNothing
      rw [show (x.deliver round).docket = x.docket from rfl, uncounted] at entered
      exact absurd entered List.not_mem_nil

theorem Ordered.fail (ordered : x.Ordered) (kept : x.Kept) (free : ¬ x.Overtaken) {round : Nat}
    {text : String} (after : ¬ (x.fail round text).Overtaken) : (x.fail round text).Ordered := by
  have atHome := atHome_fail ordered.atHome free round text
  rcases x.deliver_cases round with ⟨next, -⟩ | ⟨o, before, behind, next, -⟩
  · simp only [Outbox.fail, next] at atHome ⊢
    exact ordered
  · simp only [Outbox.fail, next] at atHome after ⊢
    have recorded := (ordered.deliver kept round).record (kept.deliver round)
      (a := .input (.event (.error o.link.id none text))) after
    exact ⟨recorded.level, recorded.inOrder, atHome⟩

theorem Ordered.move (ordered : x.Ordered) (kept : x.Kept) (free : ¬ x.Overtaken) {m : Move}
    (after : ¬ (x.move m).Overtaken) : (x.move m).Ordered := by
  cases m with
  | act a => exact ordered.record kept after
  | send round failure =>
    cases failure with
    | none => exact ordered.deliver kept round
    | some text => exact ordered.fail kept free after

/-- **Runs.** As long as nothing is overtaken, commands are sent in order. -/
theorem Ordered.of_states (ordered : x.Ordered) (kept : x.Kept) {moves : List Move}
    (free : ∀ y ∈ x.states moves, ¬ y.Overtaken) : ∀ y ∈ x.states moves, y.Ordered := by
  induction moves generalizing x with
  | nil => simpa [states] using ordered
  | cons m rest ih =>
    obtain ⟨now, later⟩ := List.forall_mem_cons.mp free
    have next := later _ ((x.move m).mem_states rest)
    exact List.forall_mem_cons.mpr ⟨ordered, ih (ordered.move kept now next) (kept.move m) later⟩

theorem Ordered.deliverAll (ordered : x.Ordered) (kept : x.Kept) (free : ¬ x.Overtaken)
    (rounds : List Nat) :
    (x.deliverAll rounds).Ordered ∧ ¬ (x.deliverAll rounds).Overtaken := by
  induction rounds generalizing x with
  | nil => exact ⟨ordered, free⟩
  | cons round rest ih =>
    exact ih (ordered.deliver kept round) (kept.deliver round) (free_deliver free round)

/-! ## Sending what is left -/

theorem ofRound_deliver (x : Outbox) (round other : Nat) : ofRound (x.deliver round).left other =
    if other = round then (ofRound x.left round).tail else ofRound x.left other := by
  show (x.left.eraseP (·.round == round)).filter _ = _
  unfold ofRound
  induction x.left with
  | nil => simp
  | cons o rest ih =>
    by_cases own : o.round = round
    · rw [List.eraseP_cons_of_pos (by simpa using own)]
      by_cases same : other = round
      · rw [if_pos same, List.filter_cons_of_pos (by simpa using own), List.tail_cons, same]
      · rw [if_neg same, List.filter_cons_of_neg (by simpa [own] using Ne.symm same)]
    · rw [List.eraseP_cons_of_neg (by simpa using own), List.filter_cons, List.filter_cons, ih]
      by_cases same : other = round
      · simp [same, own]
      · simp [same, List.filter_cons]

/-- **Sending.** A stage that sends so many of its commands sends them as they were given out, and
nothing else changes. -/
theorem deliverAll_replicate (x : Outbox) (n round : Nat) :
    ∃ left, x.deliverAll (List.replicate n round) =
        { x with left := left, sent := x.sent ++ (ofRound x.left round).take n } ∧
      ∀ other, ofRound left other =
        if other = round then (ofRound x.left round).drop n else ofRound x.left other := by
  induction n generalizing x with
  | zero =>
    refine ⟨x.left, by simp [Outbox.deliverAll], ?_⟩
    intro other
    split
    · rename_i same
      rw [same, List.drop_zero]
    · rfl
  | succ n ih =>
    obtain ⟨left, sends, rest⟩ := ih (x.deliver round)
    refine ⟨left, ?_, ?_⟩
    · show (x.deliver round).deliverAll (List.replicate n round) = _
      rw [sends, ofRound_deliver, if_pos rfl]
      unfold Outbox.deliver next?
      cases ofRound x.left round <;> simp
    · intro other
      rw [rest, ofRound_deliver, ofRound_deliver, if_pos rfl]
      split
      · rw [List.drop_tail]
      · rfl

/-- Where a command has been overtaken, the later stage can send its own first. -/
theorem exists_not_inOrder (kept : x.Kept) (overtaken : x.Overtaken) :
    ∃ rounds, ¬ (x.deliverAll rounds).InOrder := by
  obtain ⟨o, waits, late, owes⟩ := overtaken
  obtain ⟨p, given, same, last⟩ := kept.asked _ owes
  refine ⟨List.replicate (ofRound x.left x.rounds).length x.rounds ++
    List.replicate (ofRound x.left o.round).length o.round, ?_⟩
  obtain ⟨left, first, others⟩ := x.deliverAll_replicate (ofRound x.left x.rounds).length x.rounds
  obtain ⟨_, second, -⟩ := (x.deliverAll (List.replicate _ x.rounds)).deliverAll_replicate
    (ofRound x.left o.round).length o.round
  intro inOrder
  have sends := (List.foldl_append (f := deliver) (b := x)).trans second
  rw [InOrder, Outbox.deliverAll, sends, first] at inOrder
  rw [others, if_neg late, List.take_length, List.take_length] at inOrder
  have before : p ∈ x.sent ++ ofRound x.left x.rounds := by
    rcases List.mem_append.mp (kept.whole.mem_iff.mpr given) with gone | stays
    · exact List.mem_append_left _ gone
    · exact List.mem_append_right _ (List.mem_filter.mpr ⟨stays, by simpa using last⟩)
  have behind : o ∈ ofRound x.left o.round := List.mem_filter.mpr ⟨waits, by simp⟩
  have lower := (List.pairwise_append.mp inOrder).2.2 p before o behind same
  have recent := kept.recent o (kept.whole.subset (List.mem_append_right _ waits))
  omega

/-- Where a command has been overtaken, it may turn out that it cannot be sent. -/
theorem exists_not_countedAtHome (overtaken : x.Overtaken) (text : String) :
    ∃ rounds round, ¬ ((x.deliverAll rounds).fail round text).CountedAtHome := by
  obtain ⟨o, waits, late, owes⟩ := overtaken
  have own : o ∈ ofRound x.left o.round := List.mem_filter.mpr ⟨waits, by simp⟩
  obtain ⟨before, behind, around⟩ := List.append_of_mem own
  refine ⟨List.replicate before.length o.round, o.round, ?_⟩
  obtain ⟨left, sends, others⟩ := x.deliverAll_replicate before.length o.round
  have next : (x.deliverAll (List.replicate before.length o.round)).next? o.round = some o := by
    unfold next?
    rw [sends]
    show (ofRound left o.round).head? = _
    rw [others, if_pos rfl, around, List.drop_left]
    rfl
  obtain ⟨e, entered, -⟩ := Coordinator.entryOf_of_owed
    (e := .error o.link.id none text) rfl owes
  intro atHome
  simp only [fail, next] at atHome
  rw [sends] at atHome
  refine late (atHome (o, x.rounds) (List.mem_append_right _ ?_))
  show (o, x.rounds) ∈ (x.docket.coordinator.entryOf _).toList.map _
  rw [entered]
  exact List.mem_cons_self

end Outbox

/-- **Order.** Over any life of a session, with its commands sent one by one and anything happening
in between: from every moment on, in whatever order the stages then send what is left, everyone is
sent its commands in the order of the stages, iff at no moment a command has been overtaken; and
whichever command then cannot be sent, its failure is counted in its own stage or not at all, iff
the same holds. A command of a stage that is not the last is left to be sent only if that stage
counted a failure that names nobody, or counted somebody whom it had not sent the command yet. -/
theorem commands_keep_order_iff (id : UInt64) (issuer : String) (moves : List Outbox.Move) :
    ((∀ x ∈ (Outbox.born id issuer).states moves, ∀ rounds, (x.deliverAll rounds).InOrder) ↔
        ∀ x ∈ (Outbox.born id issuer).states moves, ¬ x.Overtaken) ∧
      ((∀ x ∈ (Outbox.born id issuer).states moves, ∀ rounds round text,
          ((x.deliverAll rounds).fail round text).CountedAtHome) ↔
        ∀ x ∈ (Outbox.born id issuer).states moves, ¬ x.Overtaken) ∧
      ∀ x ∈ (Outbox.born id issuer).states moves, ∀ o ∈ x.left, o.round ≠ x.rounds →
        x.AccountedFor o := by
  have start := Outbox.kept_born id issuer
  have kept := start.of_states moves
  have ordered : (∀ x ∈ (Outbox.born id issuer).states moves, ¬ x.Overtaken) →
      ∀ x ∈ (Outbox.born id issuer).states moves, x.Ordered :=
    (Outbox.ordered_born id issuer).of_states start
  refine ⟨⟨?_, ?_⟩, ⟨?_, ?_⟩, ?_⟩
  · intro inOrder x mem overtaken
    -- whoever was overtaken can be sent its commands out of order
    obtain ⟨rounds, disorder⟩ := Outbox.exists_not_inOrder (kept x mem) overtaken
    exact disorder (inOrder x mem rounds)
  · intro free x mem rounds
    exact ((ordered free x mem).deliverAll (kept x mem) (free x mem) rounds).1.inOrder
  · intro atHome x mem overtaken
    obtain ⟨rounds, round, astray⟩ := Outbox.exists_not_countedAtHome overtaken ""
    exact astray (atHome x mem rounds round "")
  · intro free x mem rounds round text
    obtain ⟨after, still⟩ := (ordered free x mem).deliverAll (kept x mem) (free x mem) rounds
    exact Outbox.atHome_fail after.atHome still round text
  · intro x mem o waits late
    have given := (kept x mem).whole.subset (List.mem_append_right _ waits)
    exact ((kept x mem).heeded o given).resolve_left fun awaited => late awaited.1

namespace Sample

/-- Two shards in an XA transaction that is to be committed; the first is sent `XA END`. -/
def halfSent : List Outbox.Move :=
  [.act (.attach shardA), .act (.attach shardB), .act (.setXa true), .act .commit, .send 1 none]

/-- One of the backends cannot be reached, and it is not said which. The answer of the first shard
closes the cohort then. -/
def unreached : List Outbox.Move :=
  [.act (.input (.event (.connectError none (.connectionClosed "unreachable")))),
    .act (.input (ok shardA))]

/-- The second shard is sent `XA END` in time, and `XA ROLLBACK` afterwards. -/
def inTime : List Outbox.Move :=
  halfSent ++ [.send 1 none] ++ unreached ++ [.send 2 none, .send 2 none]

/-- Both shards are sent `XA ROLLBACK`, and then it turns out that `XA END` cannot be sent. -/
def overtaking : List Outbox.Move :=
  halfSent ++ unreached ++ [.send 2 none, .send 2 none,
    .send 1 (some "Connection closed: broken pipe")]

def outrun : Outbox :=
  overtaking.foldl Outbox.move (Outbox.born 7 "x")

end Sample

open Sample in
/-- The case of a second shard that is sent everything in time. -/
theorem commands_keep_order_in_time :
    ((Outbox.born 7 "x").states inTime).map (fun x => x.sent.length) =
        [0, 0, 0, 0, 0, 1, 2, 2, 2, 3, 4] ∧
      ∀ x ∈ (Outbox.born 7 "x").states inTime, ∀ rounds, (x.deliverAll rounds).InOrder :=
  ⟨by decide +kernel, (commands_keep_order_iff 7 "x" inTime).1.mpr (by decide +kernel)⟩

open Sample in
/-- **An overtaken command.** The second shard is sent `XA END` after `XA ROLLBACK`, and the failure
to send it is counted as that shard's answer to `XA ROLLBACK`. -/
theorem command_sent_after_later :
    outrun.sent.map (fun o => (o.round, o.link, o.command.kind)) =
        [(1, shardA, .xaEnd), (2, shardA, .xaRollback), (2, shardB, .xaRollback),
          (1, shardB, .xaEnd)] ∧
      outrun.missed.map (fun m => (m.1.link, m.1.command.kind, m.1.round, m.2)) =
        [(shardB, .xaEnd, 1, 2)] ∧
      outrun.docket.coordinator.operation.stage.map Stage.command = some .xaRollback ∧
      outrun.docket.coordinator.operation.cohort.errored = [shardB.id] ∧
      ¬ outrun.InOrder ∧ ¬ outrun.CountedAtHome := by
  decide +kernel

end AtomicCommit
