import AtomicCommit.Proofs.Prospect

/-!
# Atomic commit

`XA COMMIT` follows a unanimous vote. If an operation ever sends it, then its run has a first part
that ends with the vote: the input that closes the cohort of `XA PREPARE`. In that part every
participant is counted as a success twice, once by the cohort of `XA END` and once by that of
`XA PREPARE`, and nothing disturbs them. The vote sends `XA COMMIT` to everyone who took part from
the start, and no step of the run sends `XA ROLLBACK`.

* **round** — `Docket.Round.unanimous`: a round before the decision that stays promising is
  undisturbed and has everyone's success.
* **succession** — `Docket.exists_passes`: a run that commits passes through such a round of each
  stage before the decision.
* **run** — `commit_is_unanimous`.
-/

namespace AtomicCommit

open Wire

/-- Whether a step speaks against a commit that is not yet decided: a failure that the cohort
counts, a link that closes, or an interrupt. -/
def Moment.disturbs (m : Moment) : Bool :=
  m.entryOf.any Cohort.Entry.isFailure || m.input.closed?.isSome || m.input.reason?.isSome

/-- A stage that commits or rolls back is followed by none that does the other. -/
theorem Stage.command_of_next {s t : Stage} {o : Outcome}
    (decided : s.command = .xaCommit ∨ s.command = .xaRollback) (next : s.next o = .enter t) :
    t.command = s.command := by
  rcases s with (_ | _) | _ | _ | _ | ⟨_ | _, _, _ | _, _⟩ | _ | _ <;>
    simp_all [Stage.command, Stage.next]
  all_goals
    subst next
    rfl

/-- A failure before the decision turns it. -/
theorem Stage.next_of_failed {s : Stage} {o : Outcome} (precedes : s.precedesDecision = true)
    (failed : o.failed = true) : s.next o = .enter (.rollbackAll (some o.errorText)) := by
  rcases s with (_ | _) | _ | _ | _ | _ | _ | _ <;>
    simp_all [precedesDecision, next]

/-! ## Rounds before the decision -/

namespace Docket

variable {d : Docket} {s : Stage} {xs : List Input} {i : Input}

theorem spoils_eq_disturbs {m : Moment} (stage : m.stage = some s)
    (precedes : s.precedesDecision = true) : m.spoils = m.disturbs := by
  unfold Moment.spoils Moment.disturbs Coordinator.spoiledBy
  rw [stage]
  simp only [Stage.spoiledByEntry_of_precedes precedes, precedes, Bool.true_and, Bool.or_assoc]
  rfl

theorem Keeps.participants (keeps : Keeps s d xs) (told : d.untold = [])
    (noClose : ∀ m ∈ d.moments xs, m.input.closed? = none) :
    (d.run xs).coordinator.session.participants = d.coordinator.session.participants := by
  induction keeps with
  | nil busy => rfl
  | cons busy stays keeps ih =>
    rename_i d i rest
    rw [moments, List.forall_mem_cons] at noClose
    have toldNext : (d.step i).1.untold = [] := by
      rw [untold_step fun _ => told, stays.effect, told]
      rfl
    rw [run, ih toldNext noClose.2, stays.after, participants_absorb busy i told, noClose.1]

/-- A round before the decision that stays promising is undisturbed, keeps the participants, and
has a success of each of them. -/
theorem Round.unanimous {ids : List ParticipantId} (round : d.Round s xs i)
    (told : d.untold = []) (precedes : s.precedesDecision = true)
    (opened : d.coordinator.operation.cohort = Cohort.opened ids)
    (promising : (d.atClose xs i).promising s) :
    (∀ m ∈ d.moments (xs ++ [i]), m.disturbs = false) ∧
      (d.atClose xs i).session.participants = d.coordinator.session.participants ∧
      ∀ id ∈ ids, ∃ m ∈ d.moments (xs ++ [i]), ∃ packet, m.entryOf = some (.ok id packet) := by
  have undisturbed : ∀ m ∈ d.moments (xs ++ [i]), m.disturbs = false := by
    intro m h
    rw [← spoils_eq_disturbs (round.stage h) precedes]
    exact (round.promising.mp promising).2 m h
  refine ⟨undisturbed, ?_, ?_⟩
  · -- a close would have disturbed the round, and so nobody was unbound
    have noClose : ∀ m ∈ d.moments (xs ++ [i]), m.input.closed? = none := by
      intro m h
      have quiet := undisturbed m h
      simp only [Moment.disturbs, Bool.or_eq_false_iff] at quiet
      simpa using quiet.1.2
    have last : i.closed? = none := noClose ⟨d.run xs, i⟩ (mem_moments_round.mpr (.inr rfl))
    unfold atClose
    rw [participants_absorb round.busy i (round.keeps.told told), last]
    exact round.keeps.participants told fun m h => noClose m (mem_moments_round.mpr (.inl h))
  · intro id asked
    have noFailure : ∀ e ∈ d.entries (xs ++ [i]), e.isFailure = false := by
      intro e h
      obtain ⟨m, inRun, entered⟩ := List.mem_filterMap.mp h
      have quiet := undisturbed m inRun
      simp only [Moment.disturbs, entered, Bool.or_eq_false_iff] at quiet
      exact quiet.1.1
    obtain ⟨packet, counted⟩ :=
      (round.account opened).unanimous round.leaves.closes noFailure asked
    obtain ⟨m, inRun, entered⟩ := List.mem_filterMap.mp counted
    exact ⟨m, inRun, packet, entered⟩

/-- Once decided, an operation sends nothing but its decision. -/
theorem kind_of_sent_of_decided {inputs : List Input} (busy : d.coordinator.Running s)
    (decided : s.command = .xaCommit ∨ s.command = .xaRollback) {p : Link × Command}
    (h : p ∈ d.sent inputs) : p.2.kind = s.command := by
  have leads : ∀ {t u : Stage} {o : Outcome}, t.command = s.command → t.next o = .enter u →
      u.command = s.command := by
    intro t u o here next
    rw [← here] at decided
    rw [← here]
    exact Stage.command_of_next decided next
  obtain ⟨t, same, kind⟩ := kind_of_sent (K := fun t => t.command = s.command) leads busy rfl h
  rw [kind, same]

/-- If a round before the decision is not promising at its end, no commit is sent after it. -/
theorem Round.promising_of_commit (round : d.Round s xs i) (precedes : s.precedesDecision = true)
    {ys : List Input} {p : Link × Command} (kind : p.2.kind = .xaCommit)
    (h : p ∈ ((d.run xs).step i).2.effect.commands ++ (d.after xs i).sent ys) :
    (d.atClose xs i).promising s := by
  by_contra notPromising
  have failed : ((d.atClose xs i).result s).failed = true := by
    simpa [Coordinator.promising, Stage.favours_eq_of_precedes precedes] using notPromising
  have abandons := Stage.next_of_failed precedes failed
  rw [List.mem_append] at h
  rcases round.lands with ⟨t, next, -, effect, busy⟩ | ⟨⟨verdict, effect⟩, rests, -⟩
  · obtain rfl : _ = t := Transition.enter.inj (abandons.symm.trans next)
    rw [effect] at h
    rcases h with now | later
    · rw [kind_of_mem_orders now] at kind
      exact absurd kind (by simp [Stage.command])
    · rw [kind_of_sent_of_decided busy (.inr rfl) later] at kind
      exact absurd kind (by simp [Stage.command])
  · rw [effect, sent_of_atRest rests] at h
    rcases h with now | later
    · exact absurd now List.not_mem_nil
    · exact absurd later List.not_mem_nil

/-- A round in which nothing disturbs stage `s`, everyone succeeds, and stage `t` is entered with
everyone asked. -/
structure Passes (d : Docket) (s t : Stage) (xs : List Input) (i : Input) : Prop where
  round : d.Round s xs i
  undisturbed : ∀ m ∈ d.moments (xs ++ [i]), m.disturbs = false
  succeeds : ∀ link ∈ d.coordinator.session.participants, ∃ m ∈ d.moments (xs ++ [i]),
    m.stage = some s ∧ ∃ packet, m.entryOf = some (.ok link.id packet)
  participants : (d.after xs i).coordinator.session.participants =
    d.coordinator.session.participants
  xid : (d.after xs i).coordinator.operation.xid = d.coordinator.operation.xid
  effect : ((d.run xs).step i).2.effect = .send (d.coordinator.session.participants.map fun link =>
    (link, Command.worded t.command d.coordinator.operation.xid link.id.shard))
  running : (d.after xs i).coordinator.Running t
  opened : (d.after xs i).coordinator.operation.cohort =
    Cohort.opened (d.after xs i).coordinator.session.participantIds
  told : (d.after xs i).untold = []

/-- A run that sends `XA COMMIT` passes through every stage before the decision. -/
theorem exists_passes {t : Stage} {inputs : List Input} {p : Link × Command}
    (busy : d.coordinator.Running s) (told : d.untold = [])
    (opened : d.coordinator.operation.cohort =
      Cohort.opened d.coordinator.session.participantIds)
    (precedes : s.precedesDecision = true)
    (leads : ∀ o : Outcome, o.failed = false → s.next o = .enter t)
    (everybody : ∀ ids, t.targets ids = ids)
    (kind : p.2.kind = .xaCommit) (h : p ∈ d.sent inputs) :
    ∃ xs i ys, inputs = xs ++ i :: ys ∧ d.Passes s t xs i ∧
      (t.command = .xaCommit ∨ p ∈ (d.after xs i).sent ys) := by
  rcases keeps_or_round busy inputs with keeps | ⟨xs, i, ys, rfl, round⟩
  · rw [keeps.sent_eq_nil] at h
    exact absurd h List.not_mem_nil
  rw [sent_round, round.keeps.sent_eq_nil, List.nil_append] at h
  have promising := round.promising_of_commit precedes kind h
  have enters : s.next ((d.atClose xs i).result s) = .enter t := by
    apply leads
    simpa [Coordinator.promising, Stage.favours_eq_of_precedes precedes] using promising
  obtain ⟨undisturbed, same, oks⟩ := round.unanimous told precedes opened promising
  rcases round.lands with ⟨u, next, after, effect, running⟩ | ⟨⟨verdict, effect⟩, rests, -⟩
  · obtain rfl : t = u := Transition.enter.inj (enters.symm.trans next)
    have sameXid : (d.atClose xs i).operation.xid = d.coordinator.operation.xid := round.xid
    have toldNow := round.keeps.told told
    refine ⟨xs, i, ys, rfl, ⟨round, undisturbed, ?_, ?_, ?_, ?_, running, ?_, ?_⟩, ?_⟩
    · intro link part
      obtain ⟨m, inRun, counted⟩ := oks link.id (List.mem_map_of_mem part)
      exact ⟨m, inRun, round.stage inRun, counted⟩
    · rw [round.participants_after, same]
    · rw [after]
      exact sameXid
    · rw [effect, Coordinator.orders_eq_map (everybody _), same, sameXid]
    · rw [after, show (Coordinator.landed _ t).operation.cohort = Cohort.opened (t.targets _) from
        rfl, everybody]
      rfl
    · unfold Docket.after
      rw [untold_step fun _ => toldNow, effect, toldNow]
      rfl
    · rw [effect, List.mem_append] at h
      rcases h with now | later
      · exact .inl ((kind_of_mem_orders now).symm.trans kind)
      · exact .inr later
  · -- nothing is sent after a conclusion
    rw [effect, sent_of_atRest rests] at h
    exact absurd h List.not_mem_nil

end Docket

/-! ## The vote -/

/-- The input that closes the cohort of `XA PREPARE` and so decides a commit that those
participants took part in from the start. -/
structure IsVote (participants : List Link) (xid : Xid) (d : Docket) (xs : List Input)
    (vote : Input) : Prop where
  prepares : (d.run xs).coordinator.operation.stage = some .prepare
  decides : (d.after xs vote).coordinator.operation.stage = some .commitAll
  /-- Everyone was counted as a success by the cohort of `XA END`. -/
  ended : ∀ link ∈ participants, ∃ m ∈ d.moments (xs ++ [vote]),
    m.stage = some (.start .commit) ∧ ∃ packet, m.entryOf = some (.ok link.id packet)
  /-- Everyone was counted as a success by the cohort of `XA PREPARE`. -/
  prepared : ∀ link ∈ participants, ∃ m ∈ d.moments (xs ++ [vote]),
    m.stage = some .prepare ∧ ∃ packet, m.entryOf = some (.ok link.id packet)
  undisturbed : ∀ m ∈ d.moments (xs ++ [vote]), m.disturbs = false
  /-- The vote sends `XA COMMIT` to everyone. -/
  addressed : ((d.run xs).step vote).2.effect = .send (participants.map fun link =>
    (link, Command.worded .xaCommit (some xid) link.id.shard))

theorem exists_vote {d : Docket} {xid : Xid} {inputs : List Input} {p : Link × Command}
    (busy : d.coordinator.Running (.start .commit)) (told : d.untold = [])
    (opened : d.coordinator.operation.cohort =
      Cohort.opened d.coordinator.session.participantIds)
    (numbered : d.coordinator.operation.xid = some xid)
    (kind : p.2.kind = .xaCommit) (h : p ∈ d.sent inputs) :
    ∃ xs vote ys, inputs = xs ++ vote :: ys ∧
      IsVote d.coordinator.session.participants xid d xs vote ∧
      (d.after xs vote).coordinator.Running .commitAll ∧
      ∀ q ∈ d.sent xs, q.2.kind = .xaPrepare := by
  -- `XA END` passes to `XA PREPARE`, which passes to the commit
  obtain ⟨xs, ended, rest, rfl, ending, committed | h⟩ :=
    Docket.exists_passes (t := .prepare) busy told opened rfl
      (fun o succeeded => by simp [Stage.next, succeeded]) (fun _ => rfl) kind h
  · exact absurd committed (by simp [Stage.command])
  obtain ⟨ys, vote, rest, rfl, voting, -⟩ :=
    Docket.exists_passes (t := .commitAll) ending.running ending.told ending.opened rfl
      (fun o succeeded => by simp [Stage.next, succeeded]) (fun _ => rfl) kind h
  -- both rounds together
  have moments : d.moments ((xs ++ ended :: ys) ++ [vote]) =
      d.moments (xs ++ [ended]) ++ (d.after xs ended).moments (ys ++ [vote]) := by
    rw [List.append_assoc, List.cons_append, Docket.moments_round]
  refine ⟨xs ++ ended :: ys, vote, rest, by simp, ⟨?_, ?_, ?_, ?_, ?_, ?_⟩, ?_, ?_⟩
  · rw [Docket.run_round]
    exact voting.round.busy.stage
  · rw [Docket.after_round]
    exact voting.running.stage
  · -- the successes of `XA END` are in the first round, those of `XA PREPARE` in the second
    intro link part
    obtain ⟨m, inRun, stage, counted⟩ := ending.succeeds link part
    rw [moments]
    exact ⟨m, List.mem_append_left _ inRun, stage, counted⟩
  · intro link part
    rw [← ending.participants] at part
    obtain ⟨m, inRun, stage, counted⟩ := voting.succeeds link part
    rw [moments]
    exact ⟨m, List.mem_append_right _ inRun, stage, counted⟩
  · rw [moments]
    exact List.forall_mem_append.mpr ⟨ending.undisturbed, voting.undisturbed⟩
  · rw [Docket.run_round, voting.effect, ending.participants, ending.xid, numbered]
    rfl
  · rw [Docket.after_round]
    exact voting.running
  · intro q sent
    rw [Docket.sent_round, ending.round.keeps.sent_eq_nil, voting.round.keeps.sent_eq_nil,
      ending.effect, List.nil_append, List.append_nil] at sent
    obtain ⟨link, -, rfl⟩ := List.mem_map.mp sent
    rfl

/-- **Atomic commit.** If a commit ever sends `XA COMMIT`, then at a vote before which it sends
none, and it never sends `XA ROLLBACK`. -/
theorem commit_is_unanimous {c begun : Coordinator} {effect : Effect} {inputs : List Input}
    {link : Link} {command : Command} (h : c.beginCommit = (begun, .ok effect))
    (commits : (link, command) ∈ effect.commands ++ (Docket.ofBegun begun effect).sent inputs)
    (kind : command.kind = .xaCommit) :
    ∃ xs vote ys, inputs = xs ++ vote :: ys ∧
      IsVote c.session.participants c.session.nextXid.1 (Docket.ofBegun begun effect) xs vote ∧
      (∀ p ∈ effect.commands ++ (Docket.ofBegun begun effect).sent xs, p.2.kind ≠ .xaCommit) ∧
      ∀ p ∈ effect.commands ++ (Docket.ofBegun begun effect).sent inputs,
        p.2.kind ≠ .xaRollback := by
  rcases Docket.begun_lands h with ⟨landed, sends, busy⟩ | ⟨rfl, rests⟩
  case inr =>
    rw [Docket.sent_of_atRest (d := Docket.ofBegun begun _) rests] at commits
    exact absurd commits List.not_mem_nil
  have first : ∀ p ∈ effect.commands,
      p.2.kind = (Stage.initial c.session.xa .commit).command := by
    rw [sends]
    exact fun p sent => Docket.kind_of_mem_orders sent
  rw [List.mem_append] at commits
  cases xa : c.session.xa with
  | false =>
    -- a plain commit has one stage, and it sends no XA command
    rw [xa] at busy first
    rcases commits with now | later
    · rw [first _ now] at kind
      exact absurd kind (by simp [Stage.initial, Stage.command])
    · have leads : ∀ {s t : Stage} {o : Outcome}, s = .plainCommit → s.next o = .enter t →
          t = .plainCommit := by
        rintro s t o rfl next
        simp [Stage.next] at next
      obtain ⟨t, rfl, plain⟩ := Docket.kind_of_sent (K := (· = .plainCommit)) leads busy rfl later
      rw [plain] at kind
      exact absurd kind (by simp [Stage.command])
  | true =>
    rw [xa] at busy first landed
    rcases commits with now | later
    · rw [first _ now] at kind
      exact absurd kind (by simp [Stage.initial, Stage.command])
    have opened : begun.operation.cohort = Cohort.opened begun.session.participantIds := by
      rw [landed]
      rfl
    have numbered : begun.operation.xid = some c.session.nextXid.1 := by
      rw [landed]
      rfl
    have attached : begun.session.participants = c.session.participants := by
      rw [landed]
      rfl
    have told : (Docket.ofBegun begun effect).untold = [] := by
      rw [sends]
      rfl
    obtain ⟨xs, vote, ys, rfl, isVote, committed, prepares⟩ :=
      exists_vote busy told opened numbered kind later
    rw [show (Docket.ofBegun begun effect).coordinator = begun from rfl, attached] at isVote
    refine ⟨xs, vote, ys, rfl, isVote, ?_, ?_⟩
    · -- before the vote: `XA END` and `XA PREPARE`
      intro p sent
      rcases List.mem_append.mp sent with now | later
      · simp [first p now, Stage.initial, Stage.command]
      · simp [prepares p later]
    · -- at the vote and after it: `XA COMMIT` alone
      intro p sent
      rw [Docket.sent_round, isVote.addressed] at sent
      simp only [List.mem_append] at sent
      rcases sent with now | before | voted | after
      · simp [first p now, Stage.initial, Stage.command]
      · simp [prepares p before]
      · obtain ⟨link, -, rfl⟩ := List.mem_map.mp voted
        simp [Command.worded]
      · simp [Docket.kind_of_sent_of_decided committed (.inl rfl) after, Stage.command]

open Sample in
/-- The case of two shards that vote for the commit and carry it out. -/
theorem commit_of_two_is_unanimous :
    ∃ begun effect, (coordinator true).beginCommit = (begun, .ok effect) ∧
      ∃ xs vote ys, votes ++ [ok shardA, ok shardB] = xs ++ vote :: ys ∧
        IsVote [shardA, shardB] ⟨"x.7.1"⟩ (Docket.ofBegun begun effect) xs vote := by
  have begins := Coordinator.begin_eq_follow (c := coordinator true) rfl (.start .commit)
  obtain ⟨xs, vote, ys, split, isVote, -⟩ :=
    commit_is_unanimous begins
      (show (shardA, ⟨.xaCommit, "XA COMMIT 'x.7.1','a'"⟩) ∈
        _ ++ Docket.sent _ (votes ++ [ok shardA, ok shardB]) by decide +kernel) rfl
  refine ⟨_, _, begins, xs, vote, ys, split, ?_⟩
  have number : (coordinator true).session.nextXid.1 = ⟨"x.7.1"⟩ := by decide +kernel
  rw [number] at isVote
  exact isVote

end AtomicCommit
