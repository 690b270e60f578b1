import AtomicCommit.Proofs.ClientPacket
import AtomicCommit.Proofs.Lockstep
import Mathlib.Data.List.Nodup

/-!
# Prompt answers

A stand-in may answer a command before the call that sent it returns, so the answer that closes a
cohort comes while the commands of its stage are still being sent. If every command is refused or
answered so, an operation is over when the call that began it returns.

* **send** — `Rehearsal.ends_send`: a command that is settled at once hands the coordinator one event
  about its own participant.
* **round** — `Rehearsal.ends_round`: the last command of a stage is the one that closes its cohort,
  so no sends are left over from a stage that is done.
* **operation** — `Rehearsal.ends_follow`, by induction on how many stages may still follow.
-/

namespace AtomicCommit

open Wire

/-! ## Reactions that settle a command -/

/-- Whether the coordinator takes this for an answer to its command. -/
def Notice.answers : Notice → Bool
  | .row _ | .rowsEnd _ => false
  | .ok _ | .error _ | .closed _ | .connectError _ | .columnsEnd _ => true

theorem Notice.event_of_answers {notice : Notice} (h : notice.answers = true) (link : Link) :
    ∃ e, notice.event? link = some e := by
  cases notice with
  | row | rowsEnd => exact absurd h (by simp [answers])
  | ok | error | closed | connectError | columnsEnd => exact ⟨_, rfl⟩

/-- Whether a command is refused or answered at once. -/
def Reaction.settles : Reaction → Bool
  | .refuse _ => true
  | .nothing => false
  | .answer notice => notice.answers

/-- The next `n` commands are refused or answered at once. -/
def StandIn.Settles (standIn : StandIn) (n : Nat) : Prop :=
  standIn.refusal.isSome = true ∨ ∀ k < n, standIn.reactions[k]?.any Reaction.settles = true

/-- A stand-in that was sent a command. -/
def StandIn.prompted (standIn : StandIn) : StandIn :=
  { standIn with handled := true, reactions := standIn.reactions.tail }

theorem StandIn.Settles.mono {standIn : StandIn} {m n : Nat} (settles : standIn.Settles n)
    (fewer : m ≤ n) : standIn.Settles m := by
  rcases settles with refuses | reacts
  · exact .inl refuses
  · refine .inr ?_
    intro k bound
    exact reacts k (by omega)

theorem StandIn.Settles.prompted {standIn : StandIn} {n : Nat} (settles : standIn.Settles (n + 1)) :
    standIn.prompted.Settles n := by
  rcases settles with refuses | reacts
  · exact .inl refuses
  · refine .inr ?_
    intro k bound
    have next := reacts (k + 1) (by omega)
    rw [← List.getElem?_tail] at next
    exact next

/-! ## What is sent and told -/

/-- Whether the client was passed a packet, whether or not it took it. -/
def Observation.isPacket : Observation → Bool
  | .client _ | .clientFailed _ => true
  | .sent .. | .nextStatement | .hook _ => false

def Rehearsal.Task.command? : Rehearsal.Task → Option (Link × Command)
  | .send link command => some (link, command)
  | _ => none

namespace Rehearsal

def packets (r : Rehearsal) : Nat :=
  r.observed.countP Observation.isPacket

/-- The commands that are sent while these tasks are worked off, in order. -/
def dispatched (r : Rehearsal) : List Task → List (Link × Command)
  | [] => []
  | task :: rest =>
    let out := r.perform task
    task.command?.toList ++ dispatched out.1 (out.2 ++ rest)
  termination_by tasks => r.remaining tasks
  decreasing_by exact (falls_perform r task).less rest

/-- How many commands a participant is sent meanwhile. -/
def sends (r : Rehearsal) (tasks : List Task) (id : ParticipantId) : Nat :=
  ((r.dispatched tasks).map (·.1.id)).count id

/-- The tasks end the operation, tell the client once, and send a participant no more commands than
allowed. -/
structure Ends (r : Rehearsal) (tasks : List Task) (limit : ParticipantId → Nat) : Prop where
  rests : (r.run tasks).coordinator.AtRest
  released : (r.run tasks).coordinator.session.participants = []
  told : (r.run tasks).packets = r.packets + 1
  sent : ∀ id, r.sends tasks id ≤ limit id

/-- Tasks end as the tasks do that the first of them leads to. -/
theorem Ends.of_perform {r : Rehearsal} {task : Task} {rest : List Task}
    {limit : ParticipantId → Nat} (later : ParticipantId → Nat)
    (ends : Ends (r.perform task).1 ((r.perform task).2 ++ rest) later)
    (silent : (r.perform task).1.packets = r.packets)
    (within : ∀ id, (task.command?.toList.map (·.1.id)).count id + later id ≤ limit id) :
    r.Ends (task :: rest) limit := by
  have ran : r.run (task :: rest) = (r.perform task).1.run ((r.perform task).2 ++ rest) := by
    rw [run]
  refine ⟨?_, ?_, ?_, ?_⟩
  · rw [ran]
    exact ends.rests
  · rw [ran]
    exact ends.released
  · rw [ran, ends.told, silent]
  · intro id
    unfold sends
    rw [dispatched, List.map_append, List.count_append]
    have rest := ends.sent id
    have all := within id
    unfold sends at rest
    omega

/-! ## One command -/

/-- The stand-in of a link settles the next `n` commands at once. -/
def Prompt (r : Rehearsal) (n : Nat) (link : Link) : Prop :=
  ∃ standIn, r.cast[link.handle]? = some standIn ∧ standIn.link = link ∧ standIn.Settles n

/-- The stand-in of a link was sent a command. -/
def prompted (r : Rehearsal) (link : Link) (o : Observation) : Rehearsal :=
  (r.update link.handle StandIn.prompted).observe o

variable {r : Rehearsal}

theorem Prompt.mono {link : Link} {m n : Nat} (prompt : r.Prompt n link) (fewer : m ≤ n) :
    r.Prompt m link := by
  obtain ⟨standIn, here, plays, settles⟩ := prompt
  exact ⟨standIn, here, plays, settles.mono fewer⟩

/-- A command uses up one reaction of the link's own stand-in. -/
theorem Prompt.prompted {link : Link} {n : Nat} (prompt : r.Prompt (n + 1) link)
    (o : Observation) : (r.prompted link o).Prompt n link := by
  obtain ⟨standIn, here, plays, settles⟩ := prompt
  refine ⟨standIn.prompted, ?_, plays, settles.prompted⟩
  show (r.cast.modify link.handle StandIn.prompted)[link.handle]? = _
  rw [List.getElem?_modify_eq, here]
  rfl

/-- A command to one link uses up no reaction of another's stand-in. -/
theorem Prompt.prompted_other {link other : Link} {n : Nat} (prompt : r.Prompt n other)
    {m : Nat} (sent : r.Prompt m link) (different : other ≠ link) (o : Observation) :
    (r.prompted link o).Prompt n other := by
  obtain ⟨standIn, here, plays, settles⟩ := prompt
  refine ⟨standIn, ?_, plays, settles⟩
  -- two links of one stand-in are the same link
  have apart : link.handle ≠ other.handle := by
    intro same
    obtain ⟨addressed, there, alsoPlays, -⟩ := sent
    rw [same, here] at there
    obtain rfl := Option.some.inj there
    exact different (plays.symm.trans alsoPlays)
  show (r.cast.modify link.handle StandIn.prompted)[other.handle]? = _
  rw [List.getElem?_modify_ne _ _ apart, here]

/-- A command that is settled at once hands the coordinator one event about its participant, when it
is refused or in the task that it leads to. -/
theorem perform_send {link : Link} {n : Nat} (prompt : r.Prompt (n + 1) link) (command : Command) :
    ∃ o e, o.isPacket = false ∧ e.about? = some link.id ∧
      (r.perform (.send link command) = (r.prompted link o).handle e ∨
        ∃ notice, r.perform (.send link command) = (r.prompted link o, [.hear link notice]) ∧
          notice.event? link = some e) := by
  obtain ⟨standIn, here, -, settles⟩ := prompt
  simp only [perform, send, here]
  cases refusal : standIn.refusal with
  | some text =>
    -- a stand-in that refuses everything may have a reaction with a text of its own
    cases standIn.reactions.head? with
    | none => exact ⟨_, _, rfl, rfl, .inl rfl⟩
    | some reaction =>
      cases reaction with
      | refuse | nothing | answer => exact ⟨_, _, rfl, rfl, .inl rfl⟩
  | none =>
    rcases settles with refuses | reacts
    · exact absurd refuses (by simp [refusal])
    · have settled := reacts 0 (by omega)
      rw [← List.head?_eq_getElem?] at settled
      cases first : standIn.reactions.head? with
      | none =>
        rw [first] at settled
        exact absurd settled (by simp)
      | some reaction =>
        rw [first, Option.any_some] at settled
        cases reaction with
        | refuse text => exact ⟨_, _, rfl, rfl, .inl rfl⟩
        | nothing => exact absurd settled (by simp [Reaction.settles])
        | answer notice =>
          obtain ⟨e, heard⟩ := Notice.event_of_answers settled link
          exact ⟨_, e, rfl, Notice.about_of_event heard, .inr ⟨notice, rfl, heard⟩⟩

theorem packets_prompted (link : Link) {o : Observation} (other : o.isPacket = false) :
    (r.prompted link o).packets = r.packets := by
  show (o :: r.observed).countP Observation.isPacket = _
  rw [List.countP_cons_of_neg (by simp [other])]
  rfl

theorem packets_handle (e : Event) : (r.handle e).1.packets = r.packets := by
  unfold handle
  split
  · rfl
  · rfl

/-- **Send.** Tasks that begin with a command which is settled at once end as what the coordinator
makes of the answer does. -/
theorem ends_send {link : Link} {n : Nat} {command : Command} {rest : List Task}
    {limit : ParticipantId → Nat} (later : ParticipantId → Nat) (here : r.gone = false)
    (prompt : r.Prompt (n + 1) link)
    (next : ∀ o e, o.isPacket = false → e.about? = some link.id →
      Ends { r.prompted link o with coordinator := (r.coordinator.handle e).1 }
        (tasksOf (r.coordinator.handle e).2 ++ rest) later)
    (within : ∀ id, [link.id].count id + later id ≤ limit id) :
    r.Ends (.send link command :: rest) limit := by
  obtain ⟨o, e, other, about, performed⟩ := perform_send prompt command
  have ends := next o e other about
  have handled : (r.prompted link o).handle e =
      ({ r.prompted link o with coordinator := (r.coordinator.handle e).1 },
        tasksOf (r.coordinator.handle e).2) := by
    unfold handle
    rw [if_neg (by simp [prompted, update, observe, here])]
    rfl
  rcases performed with refused | ⟨notice, taken, heard⟩
  · refine Ends.of_perform later ?_ ?_ within
    · rw [refused, handled]
      exact ends
    · rw [refused, packets_handle, packets_prompted link other]
  · refine Ends.of_perform later ?_ ?_ within
    · rw [taken]
      -- the answer is the next task
      have hears : (r.prompted link o).perform (.hear link notice) =
          (r.prompted link o).handle e := by
        simp only [perform, hear, heard]
      refine Ends.of_perform later ?_ ?_ (by simp [Task.command?])
      · rw [hears, handled]
        exact ends
      · rw [hears, packets_handle]
    · rw [taken]
      exact packets_prompted link other

/-! ## One stage -/

/-- The operation can go on while every command is settled at once, each participant having `n` left
to come. -/
structure Poised (r : Rehearsal) (n : Nat) : Prop where
  here : r.gone = false
  hookless : r.hook = none
  reachable : r.coordinator.session.isClosed = false
  distinct : r.coordinator.session.participantIds.Nodup
  uninterrupted : r.coordinator.operation.interrupted = none
  prompt : ∀ link ∈ r.coordinator.session.participants, r.Prompt n link

/-- A stage is being sent to the links in `left`, and the others have answered. -/
structure Playing (r : Rehearsal) (s : Stage) (left : List Link) : Prop
    extends r.Poised (s.rank - 1) where
  running : r.coordinator.Running s
  owing : r.coordinator.operation.cohort.pending = left.map Link.id
  slotless : r.coordinator.operation.cohort.unreachable = 0
  once : (left.map Link.id).Nodup
  unsent : ∀ link ∈ left, r.Prompt s.rank link

end Rehearsal

theorem Stage.rank_pos (s : Stage) : 0 < s.rank := by
  cases s <;> simp [rank]

theorem Coordinator.participants_unbind_sublist (c : Coordinator) (e : Event) :
    (c.unbind e).participants.Sublist c.session.participants := by
  cases e with
  | closed => exact List.eraseP_sublist
  | ok | error | connectError => exact List.Sublist.refl _

theorem Coordinator.isClosed_unbind (c : Coordinator) (e : Event) :
    (c.unbind e).isClosed = c.session.isClosed := by
  cases e <;> rfl

namespace Rehearsal

variable {r : Rehearsal} {s : Stage} {link : Link} {left : List Link}

theorem Playing.addressed (playing : r.Playing s (link :: left)) :
    r.Prompt (s.rank - 1 + 1) link := by
  have positive := s.rank_pos
  exact (playing.unsent link List.mem_cons_self).mono (by omega)

/-- The first of the commands left is settled, and the answer is in the books. -/
theorem Playing.poised_booked (playing : r.Playing s (link :: left)) (o : Observation) (e : Event)
    (entry : Cohort.Entry) : Poised
      { r.prompted link o with coordinator := r.coordinator.booked e entry } (s.rank - 1) where
  here := playing.here
  hookless := playing.hookless
  reachable := (r.coordinator.isClosed_unbind e).trans playing.reachable
  distinct := playing.distinct.sublist ((r.coordinator.participants_unbind_sublist e).map _)
  uninterrupted := playing.uninterrupted
  prompt := by
    intro other bound
    have before := (r.coordinator.participants_unbind_sublist e).subset bound
    by_cases same : other = link
    · rw [same]
      exact playing.addressed.prompted o
    · exact (playing.prompt other before).prompted_other playing.addressed same o

/-- The stage goes on with the commands left. -/
theorem Playing.tail (playing : r.Playing s (link :: left)) {e : Event} {entry : Cohort.Entry}
    (named : entry.id? = some link.id) (running : (r.coordinator.booked e entry).Running s)
    (o : Observation) :
    Playing { r.prompted link o with coordinator := r.coordinator.booked e entry } s left where
  toPoised := playing.poised_booked o e entry
  running := running
  owing := by
    show (r.coordinator.operation.cohort.book entry).pending = _
    rw [Cohort.Account.pending_book, named, playing.owing]
    simp
  slotless := (Cohort.unreachable_book named).trans playing.slotless
  once := (List.nodup_cons.mp playing.once).2
  unsent := by
    intro other later
    have different : other ≠ link := by
      rintro rfl
      exact (List.nodup_cons.mp playing.once).1 (List.mem_map_of_mem later)
    exact (playing.unsent other (List.mem_cons_of_mem _ later)).prompted_other
      playing.addressed different o

/-- The cohort closes with the last answer, and not before. -/
theorem Playing.handle_eq (playing : r.Playing s (link :: left)) {e : Event}
    (about : e.about? = some link.id) : ∃ entry, entry.id? = some link.id ∧
      if left = [] then r.coordinator.handle e = (r.coordinator.booked e entry).proceed s
      else r.coordinator.handle e = (r.coordinator.booked e entry, .idle) ∧
        (r.coordinator.booked e entry).Running s := by
  have owes : link.id ∈ r.coordinator.operation.cohort.pending := by
    rw [playing.owing]
    exact List.mem_cons_self
  obtain ⟨entry, entered, named⟩ := Coordinator.entryOf_of_owed about owes
  have owed : (r.coordinator.booked e entry).operation.cohort.pending.length ≤
      (r.coordinator.booked e entry).operation.cohort.unreachable ↔ left = [] := by
    show (r.coordinator.operation.cohort.book entry).pending.length ≤
      (r.coordinator.operation.cohort.book entry).unreachable ↔ _
    rw [Cohort.unreachable_book named, playing.slotless, Cohort.Account.pending_book, named,
      playing.owing]
    simp
  refine ⟨entry, named, ?_⟩
  have taken := Coordinator.handle_uptake playing.running e
  generalize r.coordinator.handle e = result at taken
  cases taken with
  | passed uncounted => exact absurd (entered.symm.trans uncounted) (by simp)
  | counted alsoEntered stillRunning =>
    obtain rfl := Option.some.inj (entered.symm.trans alsoEntered)
    have waiting := stillRunning.waiting.owed
    -- a round goes on exactly as long as somebody else is left to answer
    have more : left ≠ [] := by
      intro last
      have closes := owed.mpr last
      omega
    rw [if_neg more]
    exact ⟨rfl, stillRunning⟩
  | closed alsoEntered closes =>
    obtain rfl := Option.some.inj (entered.symm.trans alsoEntered)
    rw [if_pos (owed.mp closes)]

/-- **Round.** If whatever follows the stage ends, the stage ends once its commands are sent. -/
theorem ends_round (word : Link → Command)
    (next : ∀ (r : Rehearsal) (t : Transition) (packet : Option Bytes), r.Poised (s.rank - 1) →
      (∀ u, t = .enter u → u.rank ≤ s.rank - 1 ∧
        r.coordinator.operation.xid.isSome = u.command.isXa) →
      Ends { r with coordinator := (r.coordinator.follow t packet).1 }
        (tasksOf (r.coordinator.follow t packet).2) fun _ => s.rank - 1)
    (playing : r.Playing s (link :: left)) :
    r.Ends ((link :: left).map fun link => .send link (word link)) fun id =>
      s.rank - 1 + ((link :: left).map Link.id).count id := by
  -- on those left to answer: the last one closes the round, and what comes next is shorter
  induction left generalizing r link with
  | nil =>
    refine ends_send (fun _ => s.rank - 1) playing.here playing.addressed ?_ ?_
    · intro o e other about
      obtain ⟨entry, named, closes⟩ := playing.handle_eq about
      rw [if_pos rfl] at closes
      rw [closes, List.map_nil, List.append_nil]
      let closed : Coordinator := (r.coordinator.booked e entry).settled
      have poised := playing.poised_booked o e entry
      refine next { r.prompted link o with coordinator := closed } _ _ ?_ ?_
      · exact ⟨poised.here, poised.hookless, poised.reachable, poised.distinct,
          poised.uninterrupted, poised.prompt⟩
      · intro u moves
        have falls := Stage.rank_lt_of_next moves
        refine ⟨by omega, ?_⟩
        rw [Stage.isXa_of_next moves]
        exact playing.running.fits
    · intro id
      simp only [List.map_cons, List.map_nil]
      omega
  | cons following left ih =>
    refine ends_send (fun id => s.rank - 1 + ((following :: left).map Link.id).count id)
      playing.here playing.addressed ?_ ?_
    · intro o e other about
      obtain ⟨entry, named, stays⟩ := playing.handle_eq about
      rw [if_neg (List.cons_ne_nil _ _)] at stays
      rw [stays.1]
      exact ih (playing.tail named stays.2 o)
    · intro id
      simp only [List.map_cons, List.count_cons, List.count_nil]
      omega

/-! ## The whole operation -/

/-- Telling a verdict releases everybody, passes the client one packet and may call for the next
statement. -/
theorem conclude_spec {verdict : Verdict} (rest : r.coordinator.AtRest)
    (reachable : r.coordinator.session.isClosed = false) (loud : verdict.interrupted = false) :
    ∃ (told : Rehearsal) (continues : Bool), r.conclude verdict = (told, if continues then [.nextStatement] else []) ∧
      told.coordinator.AtRest ∧ told.coordinator.session.participants = [] ∧
      told.packets = r.packets + 1 ∧ told.hook = r.hook := by
  have released : r.coordinator.session.clearTransaction.isClosed = false := reachable
  have listening : r.coordinator.session.clearTransaction.nextPacketId.2.isClosed = false := reachable
  unfold conclude Coordinator.conclude
  dsimp only
  rw [loud, released, Bool.or_false, if_neg Bool.false_ne_true]
  dsimp only
  refine ⟨_, _, rfl, ?_, ?_, ?_, ?_⟩
  · rw [Coordinator.AtRest, coordinator_writeClient]
    exact rest
  · rw [coordinator_writeClient]
    rfl
  · unfold writeClient
    dsimp only
    rw [listening, if_neg Bool.false_ne_true]
    split
    · exact List.countP_cons_of_pos rfl
    · exact List.countP_cons_of_pos rfl
  · unfold writeClient
    split
    · rfl
    · split <;> rfl

/-- The operation is over once its verdict is told, since no statement follows without a hook. -/
theorem ends_conclude {verdict : Verdict} (hookless : r.hook = none)
    (rest : r.coordinator.AtRest) (reachable : r.coordinator.session.isClosed = false)
    (loud : verdict.interrupted = false) (limit : ParticipantId → Nat) :
    r.Ends [.conclude verdict] limit := by
  obtain ⟨told, continues, concluded, rests, released, once, hook⟩ :=
    conclude_spec rest reachable loud
  -- without a hook nothing follows
  have silent : told.perform .nextStatement = (told, []) := by
    simp only [perform, runHook, hook, hookless]
  have ran : r.run [.conclude verdict] = told := by
    rw [run]
    simp only [perform, concluded, List.append_nil]
    cases continues with
    | false => simp only [Bool.false_eq_true, if_false, run]
    | true => simp only [if_true, run, silent, List.append_nil]
  have nothing : r.dispatched [.conclude verdict] = [] := by
    rw [dispatched]
    simp only [perform, concluded, List.append_nil]
    cases continues with
    | false => simp only [Bool.false_eq_true, if_false, dispatched, Task.command?,
        Option.toList_none, List.append_nil]
    | true => simp only [if_true, dispatched, silent, Task.command?, Option.toList_none,
        List.append_nil]
  refine ⟨?_, ?_, ?_, ?_⟩
  · rw [ran]
    exact rests
  · rw [ran]
    exact released
  · rw [ran]
    exact once
  · intro id
    unfold sends
    rw [nothing]
    exact Nat.zero_le _

/-- A stage that has somebody to ask begins with all of its commands left. -/
theorem Poised.playing_landed {n : Nat} (poised : r.Poised n) {u : Stage} (bound : u.rank ≤ n)
    (fits : r.coordinator.operation.xid.isSome = u.command.isXa)
    (somebody : u.targets r.coordinator.session.participantIds ≠ []) :
    Playing { r with coordinator := r.coordinator.landed u } u
      ((r.coordinator.orders u).map Prod.fst) := by
  have addressed : ((r.coordinator.orders u).map Prod.fst).map Link.id =
      u.targets r.coordinator.session.participantIds := by
    rw [List.map_map]
    exact r.coordinator.ids_orders u
  -- nobody is asked twice
  have distinct : (u.targets r.coordinator.session.participantIds).Nodup := by
    rw [← u.filter_targets]
    exact poised.distinct.filter _
  refine ⟨⟨poised.here, poised.hookless, poised.reachable, poised.distinct,
    poised.uninterrupted, ?_⟩, Coordinator.running_landed fits somebody, ?_, rfl, ?_, ?_⟩
  · intro link attached
    exact (poised.prompt link attached).mono (by omega)
  · rw [addressed]
    exact Cohort.Account.eraseDups_of_nodup distinct
  · rw [addressed]
    exact distinct
  · intro link ordered
    obtain ⟨order, isOrder, rfl⟩ := List.mem_map.mp ordered
    obtain ⟨link, attached, rfl⟩ := List.mem_map.mp isOrder
    exact (poised.prompt link (List.mem_filter.mp attached).1).mono bound

/-- **Operation.** Whatever a transition leads to ends, and sends each participant at most one command
for every stage that may still follow. -/
theorem ends_follow (n : Nat) : ∀ (r : Rehearsal) (t : Transition) (packet : Option Bytes),
    r.Poised n →
    (∀ u, t = .enter u → u.rank ≤ n ∧ r.coordinator.operation.xid.isSome = u.command.isXa) →
    Ends { r with coordinator := (r.coordinator.follow t packet).1 }
      (tasksOf (r.coordinator.follow t packet).2) fun _ => n := by
  -- the stage after this one has a lower rank, though not always the next lower
  induction n using Nat.strongRecOn with
  | ind n ih =>
    intro r t packet poised leads
    have loud : r.coordinator.operation.interrupted.isSome = false := by
      rw [poised.uninterrupted]
      rfl
    cases t with
    | conclude conclusion =>
      let rested : Coordinator := { r.coordinator with operation := {} }
      exact ends_conclude (r := { r with coordinator := rested }) poised.hookless rfl
        poised.reachable loud _
    | enter u =>
      obtain ⟨bound, fits⟩ := leads u rfl
      by_cases nobody : u.targets r.coordinator.session.participantIds = []
      · rw [Coordinator.follow_of_nobody nobody]
        let rested : Coordinator := { session := r.coordinator.session.discardIf u.abandons }
        exact ends_conclude (r := { r with coordinator := rested }) poised.hookless rfl
          poised.reachable loud _
      · rw [Coordinator.follow_of_somebody nobody]
        have playing := poised.playing_landed bound fits nobody
        let word (link : Link) : Command :=
          Command.worded u.command r.coordinator.operation.xid link.id.shard
        have tasks : tasksOf (.send (r.coordinator.orders u)) =
            ((r.coordinator.orders u).map Prod.fst).map fun link => .send link (word link) := by
          unfold Coordinator.orders
          simp only [tasksOf, List.map_map]
          rfl
        rw [tasks]
        have once := playing.once
        generalize (r.coordinator.orders u).map Prod.fst = left at playing once
        have positive := u.rank_pos
        cases left with
        | nil =>
          have owed := playing.running.waiting.owed
          rw [playing.owing] at owed
          exact absurd owed (by simp)
        | cons link left =>
          have ends := ends_round word (ih (u.rank - 1) (by omega)) playing
          refine ⟨ends.rests, ends.released, ends.told, ?_⟩
          intro id
          have single := List.nodup_iff_count_le_one.mp once id
          exact Nat.le_trans (ends.sent id) (by omega)

/-- Every command of an operation that begins at stage `s` will be settled at once, no statement is to
follow, and the client is there. -/
structure Ready (r : Rehearsal) (s : Stage) : Prop where
  here : r.gone = false
  idle : r.coordinator.inFlight = false
  reachable : r.coordinator.session.isClosed = false
  hookless : r.hook = none
  prompt : ∀ link ∈ r.coordinator.session.participants, r.Prompt s.rank link

theorem Ready.ends (ready : r.Ready s) (reached : r.Reached) :
    (r.instruct (.beginStage s)).2.1 = .done ∧
      Ends (r.instruct (.beginStage s)).1 (r.instruct (.beginStage s)).2.2 fun _ => s.rank := by
  have idle : r.coordinator.operation.stage = none := by
    have none := ready.idle
    simpa [Coordinator.inFlight] using none
  have begun : r.instruct (.beginStage s) = _ := call_of_idle ready.here idle s
  have participants := r.coordinator.participants_fresh s
  rw [begun]
  refine ⟨rfl, ?_⟩
  refine ends_follow s.rank { r with coordinator := r.coordinator.fresh s } (.enter s) none ?_ ?_
  · refine ⟨ready.here, ready.hookless, ?_, ?_, Coordinator.interrupted_fresh _ _, ?_⟩
    · have reachable := ready.reachable
      unfold Coordinator.fresh
      split
      · exact reachable
      · exact reachable
    · have distinct := reached.sound.bound
      unfold Session.participantIds at distinct ⊢
      rw [participants]
      exact distinct
    · intro link attached
      rw [participants] at attached
      exact ready.prompt link attached
  · rintro u ⟨rfl⟩
    exact ⟨Nat.le_refl _, Coordinator.xid_fresh _ _⟩

end Rehearsal

theorem Stage.rank_le_four (s : Stage) : s.rank ≤ 4 := by
  cases s <;> simp [rank]

/-- **Prompt answers.** Whatever was done before, if every command of an operation is refused or
answered before the call that sends it returns, no hook is set and the client is there, then the call
that begins the operation succeeds, and when it returns the operation is over: nothing is in flight,
nobody is bound, the client was passed one packet, and no participant was sent more than four
commands. -/
theorem over_when_begun {r : Rehearsal} {s : Stage} (reached : r.Reached) (ready : r.Ready s) :
    (r.play (.beginStage s)).2 = .done ∧
      (r.play (.beginStage s)).1.coordinator.AtRest ∧
      (r.play (.beginStage s)).1.coordinator.session.participants = [] ∧
      (r.play (.beginStage s)).1.packets = r.packets + 1 ∧
      ∀ id, (r.instruct (.beginStage s)).1.sends (r.instruct (.beginStage s)).2.2 id ≤ 4 := by
  obtain ⟨accepted, ends⟩ := ready.ends reached
  have silent : (r.instruct (.beginStage s)).1.packets = r.packets := by
    simp only [Rehearsal.instruct, Rehearsal.call, Rehearsal.started]
    split
    · rfl
    · split <;> rfl
  refine ⟨accepted, ends.rests, ends.released, ?_, ?_⟩
  · rw [← silent]
    exact ends.told
  · intro id
    have sent := ends.sent id
    have four := s.rank_le_four
    omega

namespace Sample

/-- Two stand-ins bound to a transaction: one answers at once, in the end with a close, and the other
refuses everything. -/
def eager : Rehearsal :=
  rehearsed [.attach "a" ⟨"a"⟩ {}, .attach "b" ⟨"b"⟩ {}, .setXa true,
    .react "a" [.answer (.ok okFrame), .answer (.error { code := 1205, message := "busy" }),
      .answer (.closed "gone"), .refuse "down"],
    .refuseAll "b" (some "down")]

end Sample

open Sample in
/-- The case of an XA commit of two, of which one fails. -/
theorem over_when_begun_of_eager :
    eager.Ready (.start .commit) ∧
      (eager.play (.beginStage (.start .commit))).1.coordinator.AtRest ∧
      (eager.play (.beginStage (.start .commit))).1.packets = 1 := by
  have ready : eager.Ready (.start .commit) := by
    refine ⟨rfl, by decide +kernel, by decide +kernel, rfl, ?_⟩
    intro link bound
    have either : link = ⟨0, ⟨"a"⟩, {}⟩ ∨ link = ⟨1, ⟨"b"⟩, {}⟩ := by
      simpa using (show link ∈ [⟨0, ⟨"a"⟩, {}⟩, ⟨1, ⟨"b"⟩, {}⟩] from bound)
    rcases either with rfl | rfl
    · exact ⟨_, rfl, rfl, .inr (by decide)⟩
    · exact ⟨_, rfl, rfl, .inl rfl⟩
  obtain ⟨-, rests, -, told, -⟩ := over_when_begun (reached_rehearsed _) ready
  exact ⟨ready, rests, told⟩

end AtomicCommit
