import AtomicCommit.Proofs.Scene

/-!
# Answers in arrears

A link answers its commands in order, one answer each, but the coordinator knows participants by
their ids alone: an answer is counted if its participant owes one, whichever command it answers. A
`Ledger` follows one link: it numbers the stages as they are entered, and keeps the numbers of those
whose commands the link has not answered, oldest first.

A command is *given up* when the coordinator stops waiting for its answer before the answer comes;
an answer is *overdue* when it comes while none of the link's is waited for. What is given up puts
the link into arrears, and overdue answers make up for it:

* **step** — `Ledger.arrears_take`, and **run** — `Ledger.arrears_through`: the answers outstanding
  are the one waited for and those of commands given up, less those overdue.
* **causes** — `Ledger.cause_of_givesUp`: a command is given up for a failure that names the
  participant, or when its cohort closes with slots taken.
* **credit** — `answer_credited_iff`: a counted answer is that to the stage's own command iff the link
  is out of arrears.
-/

namespace AtomicCommit

open Wire

/-! ## Commands and owing -/

namespace Docket

variable {d : Docket}

theorem owing_of_landed {c : Coordinator} {t : Stage} {q : Link × Command}
    (ordered : q ∈ c.orders t) : q.1.id ∈ (c.landed t).operation.cohort.pending := by
  have target : q.1.id ∈ t.targets c.session.participantIds := by
    rw [← c.ids_orders]
    exact List.mem_map_of_mem ordered
  exact List.mem_eraseDups.mpr target

/-- Whoever is sent a command owes an answer. -/
theorem owing_of_sent (settled : d.coordinator.Settled) {a : Act} {q : Link × Command}
    (sent : q ∈ (d.report a).effect.commands) : q.1.id ∈ (d.act a).owing := by
  have begins : ∀ s, q ∈ (begunEffect (d.coordinator.begin s).2).commands →
      q.1.id ∈ (d.begun (d.coordinator.begin s)).owing := by
    intro s sent
    rcases begun_cases settled s with ⟨-, idle⟩ | ⟨c, landed, sends⟩ | ⟨-, nothing⟩
    · rw [idle] at sent
      exact absurd sent List.not_mem_nil
    · rw [sends] at sent
      unfold owing
      rw [landed]
      exact owing_of_landed sent
    · rw [nothing] at sent
      exact absurd sent List.not_mem_nil
  cases a with
  | begin s => exact begins s sent
  | commit | rollback => exact begins _ sent
  | input i =>
    rcases settled with ⟨s, busy⟩ | rest
    · -- commands are sent only by entering a stage, which asks everyone it sends to
      rcases step_lands busy i with ⟨effect, -⟩ | ⟨t, -, after, effect, -⟩ | ⟨⟨v, effect⟩, -⟩
      · rw [show (d.report (.input i)).effect = .idle from effect] at sent
        exact absurd sent List.not_mem_nil
      · rw [show (d.report (.input i)).effect = _ from effect] at sent
        show q.1.id ∈ (d.step i).1.coordinator.operation.cohort.pending
        rw [after]
        exact owing_of_landed (c := (d.absorb i).settled) sent
      · rw [show (d.report (.input i)).effect = _ from effect] at sent
        exact absurd sent List.not_mem_nil
    · rw [show (d.report (.input i)).effect = .idle from (step_of_atRest rest i).1] at sent
      exact absurd sent List.not_mem_nil
  | _ => exact absurd sent List.not_mem_nil

end Docket

/-! ## Ledgers -/

/-- What a link answers to a command. -/
inductive Response where
  | ok (packet : Bytes)
  | error (code : UInt16) (message : String)
  deriving DecidableEq, Repr

/-- The answer as the coordinator hears of it. -/
def Response.event (id : ParticipantId) : Response → Event
  | .ok packet => .ok id packet
  | .error code message => .error id (some code) message

/-- One turn in the life of a session whose link is followed. -/
inductive Turn where
  /-- Something else is done to the session. -/
  | act (a : Act)
  /-- The link answers the oldest command that it has not answered. -/
  | answer (response : Response)
  deriving DecidableEq, Repr

/-- A session, and what one of its links has still to answer. -/
structure Ledger where
  docket : Docket
  /-- How many stages were entered so far. The number of the stage in flight is that of the last. -/
  rounds : Nat := 0
  /-- The last stage that the link was sent a command of. -/
  last : Nat := 0
  /-- The stages whose commands the link has not answered, oldest first. -/
  unanswered : List Nat := []
  deriving DecidableEq, Repr

namespace Ledger

variable (l : Ledger) (link : Link)

def born (id : UInt64) (issuer : String) : Ledger where
  docket := Docket.born id issuer

/-- Whether an act sends the link a command. -/
def sends (a : Act) : Bool :=
  (l.docket.report a).effect.commands.any (·.1 == link)

/-- The number of the stage in flight after an act, if one is. -/
def roundsAfter (a : Act) : Nat :=
  if (l.docket.report a).effect.commands = [] then l.rounds else l.rounds + 1

/-- The ledger after an act. -/
def record (a : Act) : Ledger where
  docket := l.docket.act a
  rounds := l.roundsAfter a
  last := if l.sends link a then l.roundsAfter a else l.last
  unanswered := if l.sends link a then l.unanswered ++ [l.roundsAfter a] else l.unanswered

/-- The ledger after a turn. A link that has answered everything has nothing to say. -/
def take : Turn → Ledger
  | .act a => l.record link a
  | .answer response =>
    match l.unanswered with
    | [] => l
    | _ :: later =>
      { l with unanswered := later }.record link (.input (.event (response.event link.id)))

def through (l : Ledger) (link : Link) : List Turn → Ledger
  | [] => l
  | t :: rest => (l.take link t).through link rest

/-- Whether the stage in flight waits for the link's answer to its command. -/
def owes : Bool :=
  l.docket.owing.contains link.id && l.last == l.rounds

/-- Whether a turn ends the wait for the link's answer without one. -/
def givesUp : Turn → Bool
  | .act a => l.owes link && (l.sends link a || !(l.record link a).owes link)
  | .answer _ => false

/-- Whether a turn is an answer of the link that the stage in flight does not wait for. -/
def overdue : Turn → Bool
  | .act _ => false
  | .answer _ => !l.unanswered.isEmpty && !l.owes link

def givenUp (l : Ledger) (link : Link) : List Turn → Nat
  | [] => 0
  | t :: rest => (l.givesUp link t).toNat + (l.take link t).givenUp link rest

def late (l : Ledger) (link : Link) : List Turn → Nat
  | [] => 0
  | t :: rest => (l.overdue link t).toNat + (l.take link t).late link rest

variable {l : Ledger} {link : Link}

theorem owes_iff : l.owes link = true ↔ link.id ∈ l.docket.owing ∧ l.last = l.rounds := by
  simp [owes]

theorem rounds_le (a : Act) : l.rounds ≤ l.roundsAfter a := by
  unfold roundsAfter
  split <;> omega

theorem exists_of_sends {a : Act} (sends : l.sends link a = true) :
    ∃ q ∈ (l.docket.report a).effect.commands, q.1 = link := by
  obtain ⟨q, sent, same⟩ := List.any_eq_true.mp sends
  exact ⟨q, sent, eq_of_beq same⟩

theorem roundsAfter_of_sends {a : Act} (sends : l.sends link a = true) :
    l.roundsAfter a = l.rounds + 1 := by
  obtain ⟨q, sent, -⟩ := exists_of_sends sends
  exact if_neg (List.ne_nil_of_mem sent)

/-! ## What every turn keeps -/

/-- What holds of a ledger whether or not its link has just answered. -/
structure Kept (l : Ledger) : Prop where
  settled : l.docket.coordinator.Settled
  distinct : l.docket.owing.Nodup
  recent : l.last ≤ l.rounds
  bounded : ∀ n ∈ l.unanswered, n ≤ l.last
  sorted : l.unanswered.Pairwise (· < ·)

/-- What holds of a ledger between two turns. -/
structure Balanced (l : Ledger) (link : Link) : Prop extends l.Kept where
  current : l.owes link = true → l.rounds ∈ l.unanswered

theorem Kept.record (kept : l.Kept) (link : Link) (a : Act) : (l.record link a).Kept := by
  have grows := l.rounds_le a
  have recent := kept.recent
  refine ⟨Docket.settled_act kept.settled a,
    Docket.nodup_owing_act kept.settled kept.distinct a, ?_, ?_, ?_⟩
  · simp only [Ledger.record]
    split
    · exact Nat.le_refl _
    · omega
  · simp only [Ledger.record]
    split
    · intro n member
      rcases List.mem_append.mp member with earlier | now
      · have before := kept.bounded n earlier
        omega
      · exact Nat.le_of_eq (List.mem_singleton.mp now)
    · exact kept.bounded
  · simp only [Ledger.record]
    split
    · rename_i sends
      rw [List.pairwise_append]
      -- rounds only go up, so the one recorded last is the largest
      refine ⟨kept.sorted, List.pairwise_singleton _ _, ?_⟩
      intro n earlier m now
      have before := kept.bounded n earlier
      rw [List.mem_singleton.mp now, roundsAfter_of_sends sends]
      omega
    · exact kept.sorted

/-- A link that is sent a command owes its answer. -/
theorem owes_record_of_sends (kept : l.Kept) {a : Act} (sends : l.sends link a = true) :
    (l.record link a).owes link = true := by
  obtain ⟨q, sent, same⟩ := exists_of_sends sends
  rw [owes_iff]
  constructor
  · rw [← same]
    exact Docket.owing_of_sent kept.settled sent
  · exact if_pos sends

/-- A link that owes an answer and was sent no command owed it before, and no stage was entered. -/
theorem owed_of_owes_record (kept : l.Kept) {a : Act} (silent : l.sends link a = false)
    (owes : (l.record link a).owes link = true) :
    (l.docket.report a).effect.commands = [] ∧ l.owes link = true := by
  obtain ⟨owing, current⟩ := owes_iff.mp owes
  have last : (l.record link a).last = l.last := if_neg (by simp [silent])
  have same : l.last = l.roundsAfter a := last.symm.trans current
  have grows := l.rounds_le a
  have recent := kept.recent
  have nothing : (l.docket.report a).effect.commands = [] := by
    by_contra some
    have enters : l.roundsAfter a = l.rounds + 1 := if_neg some
    omega
  refine ⟨nothing, owes_iff.mpr ⟨?_, by omega⟩⟩
  rcases Docket.owing_act kept.settled owing with before | ⟨q, sent, -⟩
  · exact before
  · rw [nothing] at sent
    exact absurd sent List.not_mem_nil

/-- The ledger with the oldest answer outstanding struck off. -/
theorem Kept.struck (kept : l.Kept) {n : Nat} {later : List Nat}
    (outstanding : l.unanswered = n :: later) : { l with unanswered := later }.Kept := by
  have bounded := kept.bounded
  have sorted := kept.sorted
  rw [outstanding] at bounded sorted
  exact ⟨kept.settled, kept.distinct, kept.recent,
    fun m member => bounded m (List.mem_cons_of_mem _ member), (List.pairwise_cons.mp sorted).2⟩

/-- A link whose answer is taken owes nothing more, unless it is sent a command at once. -/
theorem not_owes_of_answer (kept : l.Kept) (response : Response)
    (silent : l.sends link (.input (.event (response.event link.id))) = false) :
    (l.record link (.input (.event (response.event link.id)))).owes link = false := by
  by_contra owes
  rw [Bool.not_eq_false] at owes
  obtain ⟨nothing, before⟩ := owed_of_owes_record kept silent owes
  have about : (response.event link.id).about? = some link.id := by
    cases response <;> rfl
  obtain ⟨entry, entered, named⟩ := Coordinator.entryOf_of_owed about (owes_iff.mp before).1
  have counted : l.docket.coordinator.inputEntryOf (.event (response.event link.id)) =
      some entry := entered
  obtain ⟨q, sent, -⟩ :=
    Docket.sent_of_counted kept.settled kept.distinct counted named (owes_iff.mp owes).1
  have none : ((l.docket.step (.event (response.event link.id))).2.effect.commands) = [] := nothing
  rw [none] at sent
  exact absurd sent List.not_mem_nil

theorem Balanced.take (balanced : l.Balanced link) (t : Turn) : (l.take link t).Balanced link := by
  cases t with
  | act a =>
    refine ⟨balanced.toKept.record link a, ?_⟩
    intro owes
    cases sends : l.sends link a with
    | true =>
      show l.roundsAfter a ∈ if l.sends link a then l.unanswered ++ [l.roundsAfter a] else _
      rw [if_pos sends]
      simp
    | false =>
      -- whoever is sent nothing and owes now has owed before, in the same round
      obtain ⟨nothing, before⟩ := owed_of_owes_record balanced.toKept sends owes
      show l.roundsAfter a ∈ if l.sends link a then _ else l.unanswered
      rw [if_neg (by simp [sends]), show l.roundsAfter a = l.rounds from if_pos nothing]
      exact balanced.current before
  | answer response =>
    unfold Ledger.take
    dsimp only
    split
    · exact balanced
    · rename_i n later outstanding
      have struck := balanced.toKept.struck outstanding
      generalize { l with unanswered := later } = l' at struck
      refine ⟨struck.record link _, ?_⟩
      intro owes
      cases sends : l'.sends link (.input (.event (response.event link.id))) with
      | true =>
        show l'.roundsAfter _ ∈ if l'.sends link _ then l'.unanswered ++ [l'.roundsAfter _] else _
        rw [if_pos sends]
        simp
      | false =>
        rw [not_owes_of_answer struck response sends] at owes
        exact absurd owes (by simp)

/-! ## Arrears -/

theorem length_record (a : Act) : (l.record link a).unanswered.length =
    l.unanswered.length + (l.sends link a).toNat := by
  unfold record
  dsimp only
  cases sends : l.sends link a <;> simp

/-- **Step.** A turn adds to the answers outstanding what it adds to the answers waited for and gives
up, less what is overdue. -/
theorem arrears_take (balanced : l.Balanced link) (t : Turn) :
    (l.take link t).unanswered.length + (l.owes link).toNat + (l.overdue link t).toNat =
      l.unanswered.length + ((l.take link t).owes link).toNat + (l.givesUp link t).toNat := by
  cases t with
  | act a =>
    have owed : l.sends link a = false → (l.record link a).owes link = true → _ :=
      owed_of_owes_record balanced.toKept
    simp only [Ledger.take, overdue, givesUp, length_record]
    cases sends : l.sends link a with
    | true =>
      rw [owes_record_of_sends balanced.toKept sends]
      simp only [Bool.true_or, Bool.and_true, Bool.toNat_true, Bool.toNat_false]
      omega
    | false =>
      cases after : (l.record link a).owes link with
      | true => simp [(owed sends after).2]
      | false => simp
  | answer response =>
    cases outstanding : l.unanswered with
    | nil => simp [Ledger.take, overdue, givesUp, outstanding]
    | cons n later =>
      have struck := balanced.toKept.struck outstanding
      -- the answer settles what was owed, or came when nothing was
      have once : (l.owes link).toNat + (!l.owes link).toNat = 1 := by
        cases l.owes link <;> rfl
      simp only [Ledger.take, overdue, givesUp, outstanding, length_record, List.length_cons,
        List.isEmpty_cons, Bool.not_false, Bool.true_and, Bool.toNat_false]
      generalize { l with unanswered := later } = l' at struck
      cases sends : l'.sends link (.input (.event (response.event link.id))) with
      | true =>
        rw [owes_record_of_sends struck sends, Bool.toNat_true]
        omega
      | false =>
        rw [not_owes_of_answer struck response sends, Bool.toNat_false]
        omega

theorem balanced_born (id : UInt64) (issuer : String) (link : Link) :
    (born id issuer).Balanced link := by
  refine ⟨⟨Docket.settled_born id issuer, List.nodup_nil, Nat.le_refl _, ?_, .nil⟩, ?_⟩
  · intro n member
    exact absurd member List.not_mem_nil
  · intro owes
    exact absurd (owes_iff.mp owes).1 List.not_mem_nil

theorem Balanced.through (balanced : l.Balanced link) (turns : List Turn) :
    (l.through link turns).Balanced link := by
  induction turns generalizing l with
  | nil => exact balanced
  | cons t rest ih => exact ih (balanced.take t)

/-- **Run.** Over a list of turns, what is outstanding grows by what is waited for and given up, less
what is overdue. -/
theorem arrears_through (balanced : l.Balanced link) (turns : List Turn) :
    (l.through link turns).unanswered.length + (l.owes link).toNat + l.late link turns =
      l.unanswered.length + ((l.through link turns).owes link).toNat + l.givenUp link turns := by
  induction turns generalizing l with
  | nil => rfl
  | cons t rest ih =>
    have now := arrears_take balanced t
    have later := ih (balanced.take t)
    simp only [Ledger.through, late, givenUp]
    omega

/-- A link out of arrears has nothing outstanding but the answer that is waited for. -/
theorem Balanced.head_eq_iff (balanced : l.Balanced link) {n : Nat} {later : List Nat}
    (outstanding : l.unanswered = n :: later) (owing : link.id ∈ l.docket.owing) :
    n = l.rounds ↔ l.owes link = true ∧ l.unanswered.length = 1 := by
  have bounded := balanced.bounded
  have sorted := balanced.sorted
  have recent := balanced.recent
  rw [outstanding] at bounded sorted
  rw [outstanding, List.length_cons]
  constructor
  · rintro rfl
    have last := bounded l.rounds List.mem_cons_self
    refine ⟨owes_iff.mpr ⟨owing, by omega⟩, ?_⟩
    -- the stages after the one in flight have not come yet
    cases later with
    | nil => rfl
    | cons m rest =>
      have next := (List.pairwise_cons.mp sorted).1 m List.mem_cons_self
      have before := bounded m (List.mem_cons_of_mem _ List.mem_cons_self)
      omega
  · rintro ⟨owes, single⟩
    have current := balanced.current owes
    have empty : later = [] := List.length_eq_zero_iff.mp (by omega)
    rw [outstanding, empty, List.mem_singleton] at current
    exact current.symm

/-! ## Causes -/

/-- An act that leaves those who owe an answer alone, and sends nothing, gives nothing up. -/
theorem givesUp_of_same {a : Act} (owing : (l.docket.act a).owing = l.docket.owing)
    (silent : (l.docket.report a).effect.commands = []) : l.givesUp link (.act a) = false := by
  have quiet : l.sends link a = false := by
    unfold sends
    rw [silent]
    rfl
  have same : (l.record link a).owes link = l.owes link := by
    simp only [owes, record, quiet, owing, roundsAfter, silent, if_true]
    rfl
  simp only [givesUp, quiet, same]
  cases l.owes link <;> rfl

/-- An input that gives a command up names the participant, or closes the cohort with slots taken. -/
theorem cause_of_input {s : Stage} {i : Input} (busy : l.docket.coordinator.Running s)
    (h : l.givesUp link (.act (.input i)) = true) :
    (∃ entry, l.docket.coordinator.inputEntryOf i = some entry ∧ entry.id? = some link.id) ∨
      (l.docket.step i).2.effect ≠ .idle ∧
        0 < (l.docket.absorb i).operation.cohort.unreachable := by
  have owes : l.owes link = true := by
    cases owes : l.owes link with
    | true => rfl
    | false => simp [givesUp, owes] at h
  have owing := (owes_iff.mp owes).1
  by_cases pending : link.id ∈ (l.docket.absorb i).operation.cohort.pending
  · rcases Docket.step_turn busy i with stays | leaves
    · -- the link still owes its answer
      have silent : (l.docket.report (.input i)).effect.commands = [] := by
        rw [show (l.docket.report (.input i)).effect = .idle from stays.effect]
        rfl
      have quiet : l.sends link (.input i) = false := by
        unfold sends
        rw [silent]
        rfl
      have still : (l.record link (.input i)).owes link = true := by
        rw [owes_iff]
        constructor
        · show link.id ∈ (l.docket.step i).1.coordinator.operation.cohort.pending
          rw [stays.after]
          exact pending
        · have before := (owes_iff.mp owes).2
          simp only [record, quiet, roundsAfter, silent, if_true, Bool.false_eq_true, if_false]
          exact before
      simp [givesUp, quiet, still] at h
    · have closes := leaves.closes
      have some := List.length_pos_of_mem pending
      refine .inr ⟨?_, by omega⟩
      rw [leaves.effect]
      exact Coordinator.follow_ne_idle _ _ _
  · -- the input was counted for the participant
    rw [Docket.pending_absorb busy] at pending
    cases named : (l.docket.coordinator.inputEntryOf i).bind Cohort.Entry.id? with
    | none =>
      rw [named] at pending
      exact absurd owing pending
    | some id =>
      obtain ⟨entry, entered, names⟩ := Option.bind_eq_some_iff.mp named
      refine .inl ⟨entry, entered, ?_⟩
      rw [names]
      by_contra different
      rw [named] at pending
      apply pending
      exact (List.mem_erase_of_ne fun same => different (congrArg some same.symm)).mpr owing

/-- **Causes.** A command is given up for a failure that names the participant and is not the link's
answer, or because its cohort closes with slots taken. -/
theorem cause_of_givesUp (kept : l.Kept) {t : Turn} (h : l.givesUp link t = true) :
    ∃ i, t = .act (.input i) ∧
      ((∃ entry, l.docket.coordinator.inputEntryOf i = some entry ∧ entry.id? = some link.id) ∨
        (l.docket.step i).2.effect ≠ .idle ∧
          0 < (l.docket.absorb i).operation.cohort.unreachable) := by
  cases t with
  | answer response => exact absurd h (by simp [givesUp])
  | act a =>
    have unlike : (l.docket.act a).owing = l.docket.owing →
        (l.docket.report a).effect.commands = [] → False := by
      intro same silent
      rw [givesUp_of_same same silent] at h
      exact Bool.false_ne_true h
    rcases kept.settled with ⟨s, busy⟩ | rest
    · -- no operation begins while one is in flight
      have refused : ∀ t, l.docket.begun (l.docket.coordinator.begin t) = l.docket ∧
          begunEffect (l.docket.coordinator.begin t).2 = .idle := by
        intro t
        rw [Coordinator.begin_of_inFlight busy.stage]
        exact ⟨rfl, rfl⟩
      cases a with
      | input i => exact ⟨i, rfl, cause_of_input busy h⟩
      | begin | commit | rollback =>
        exact (unlike (congrArg Docket.owing (refused _).1)
          (congrArg Effect.commands (refused _).2)).elim
      | _ => exact (unlike rfl rfl).elim
    · have nobody := Docket.owing_of_atRest rest
      have owes : l.owes link = false := by
        unfold owes
        rw [nobody]
        rfl
      simp [givesUp, owes] at h

end Ledger

/-- **Credit.** Over any life of a session, follow a link that answers its commands in order. An
answer of it that is counted is its answer to the command that the stage in flight sent it, iff the
stage waits for that answer and as many of its answers were overdue before as commands to it were
given up. A command is given up for nothing but a failure that names the participant and is not the
link's answer, or the closing of its cohort with slots taken; where nothing is, every counted answer
is credited to the command that it answers. -/
theorem answer_credited_iff {id : UInt64} {issuer : String} {link : Link} {l : Ledger}
    {turns : List Turn} (past : l = (Ledger.born id issuer).through link turns) :
    (∀ (n : Nat) (later : List Nat) (response : Response) (entry : Cohort.Entry),
        l.unanswered = n :: later →
        l.docket.coordinator.entryOf (response.event link.id) = some entry →
        (n = l.rounds ↔ l.owes link = true ∧
          (Ledger.born id issuer).givenUp link turns = (Ledger.born id issuer).late link turns) ∧
        ((Ledger.born id issuer).givenUp link turns = 0 → n = l.rounds)) ∧
      ∀ turn, l.givesUp link turn = true → ∃ i, turn = .act (.input i) ∧
        ((∃ entry, l.docket.coordinator.inputEntryOf i = some entry ∧ entry.id? = some link.id) ∨
          (l.docket.step i).2.effect ≠ .idle ∧
            0 < (l.docket.absorb i).operation.cohort.unreachable) := by
  have start := Ledger.balanced_born id issuer link
  have balanced : l.Balanced link := past ▸ start.through turns
  have arrears := Ledger.arrears_through start turns
  rw [← past] at arrears
  constructor
  · intro n later response entry outstanding entered
    have about : (response.event link.id).about? = some link.id := by
      cases response <;> rfl
    have owing : link.id ∈ l.docket.owing := by
      by_contra free
      rw [Coordinator.entryOf_of_unowed about free] at entered
      exact absurd entered (by simp)
    have idle : (Ledger.born id issuer).owes link = false := rfl
    have empty : (Ledger.born id issuer).unanswered.length = 0 := rfl
    rw [idle, empty, Bool.toNat_false] at arrears
    have some : 0 < l.unanswered.length := by
      rw [outstanding]
      exact Nat.succ_pos _
    rw [balanced.head_eq_iff outstanding owing]
    cases owes : l.owes link with
    | true =>
      rw [owes, Bool.toNat_true] at arrears
      refine ⟨and_congr_right fun _ => ⟨?_, ?_⟩, fun _ => ⟨rfl, ?_⟩⟩
      · omega
      · omega
      · omega
    | false =>
      -- what is outstanding then was given up
      rw [owes, Bool.toNat_false] at arrears
      refine ⟨by simp, ?_⟩
      intro none
      omega
  · intro turn gives
    exact Ledger.cause_of_givesUp balanced.toKept gives

namespace Sample

/-- Two shards bound to an XA transaction that is rolled back. -/
def revoking : List Turn :=
  [.act (.attach shardA), .act (.attach shardB), .act (.setXa true), .act .rollback]

/-- One of the backends cannot be reached, and it is not said which. The answer of the second shard
closes the cohort then, and `XA ROLLBACK` is sent before the first has answered `XA END`. -/
def overtaken : List Turn :=
  revoking ++ [.act (.input (.event (.connectError none (.connectionClosed "unreachable")))),
    .act (.input (ok shardB))]

def revokingLedger : Ledger :=
  (Ledger.born 7 "x").through shardA revoking

def overtakenLedger : Ledger :=
  (Ledger.born 7 "x").through shardA overtaken

end Sample

open Sample in
/-- The case of the first shard's answer to `XA END`. -/
theorem answer_credited_of_revoking :
    revokingLedger.unanswered = [1] ∧ revokingLedger.rounds = 1 ∧
      (Ledger.born 7 "x").givenUp shardA revoking = (Ledger.born 7 "x").late shardA revoking := by
  have credited := (answer_credited_iff (show revokingLedger = _ from rfl)).1 1 [] (.ok okFrame)
    (.ok shardA.id (some okFrame)) (by decide +kernel) (by decide +kernel)
  have current : revokingLedger.rounds = 1 := by decide +kernel
  exact ⟨by decide +kernel, current, (credited.1.mp current.symm).2⟩

open Sample in
/-- **An overtaken answer.** The first shard's late answer to `XA END` is counted as its answer to
`XA ROLLBACK`, which it has still to answer when the operation concludes with success. -/
theorem late_answer_counts :
    overtakenLedger.docket.coordinator.entryOf ((Response.ok okFrame).event shardA.id) =
        some (.ok shardA.id (some okFrame)) ∧
      overtakenLedger.unanswered = [1, 2] ∧ overtakenLedger.rounds = 2 ∧
      ((overtakenLedger.take shardA (.answer (.ok okFrame))).docket.step (ok shardB)).2.effect =
        .conclude ⟨.success, none, false⟩ ∧
      ((overtakenLedger.through shardA
        [.answer (.ok okFrame), .act (.input (ok shardB))]).unanswered) = [2] :=
  by decide +kernel

end AtomicCommit
