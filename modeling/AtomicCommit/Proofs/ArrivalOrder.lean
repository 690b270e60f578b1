import AtomicCommit.Proofs.Scene
import Mathlib.Data.List.Forall2
import Mathlib.Data.List.Nodup

/-!
# The order in which answers arrive

Fix what every participant answers at every stage. Two runs of an operation that differ by the order
in which the answers arrive differ by the order of what their cohorts have counted. `Stage.Alike`
says which stages cannot be told apart then: they may differ by the order of those to be asked again
and by the texts that they carry on.

* **succession** — `Stage.next_alike`: alike stages whose cohorts counted the same in another order
  are followed alike.
* **round** — `Docket.Performs.round`: when a stage closes, everyone it asked has been counted, each
  with its fixed answer.
* **two runs** — `Docket.alike_of_performs`, by induction on how many stages may still follow.
-/

namespace AtomicCommit

open Wire

/-! ## Alike -/

/-- Conclusions that agree about success, with texts related by `P`. -/
inductive Conclusion.Alike (P : String → String → Prop) : Conclusion → Conclusion → Prop where
  | success : Alike P .success .success
  | failure {message other : String} (texts : P message other) :
      Alike P (.failure message) (.failure other)

/-- Stages that agree but for the order of those to be asked again, with texts related by `P`. -/
inductive Stage.Alike (P : String → String → Prop) : Stage → Stage → Prop where
  | start (intent : Intent) : Alike P (.start intent) (.start intent)
  | prepare : Alike P .prepare .prepare
  | commitAll : Alike P .commitAll .commitAll
  | rollbackAll {cause other : Option String} (causes : Option.Rel P cause other) :
      Alike P (.rollbackAll cause) (.rollbackAll other)
  | cleanup (decision : Intent) {retry again : List ParticipantId}
      {cause otherCause lost otherLost : Option String} (retries : retry.Perm again)
      (causes : Option.Rel P cause otherCause) (losses : Option.Rel P lost otherLost) :
      Alike P (.cleanup decision retry cause lost) (.cleanup decision again otherCause otherLost)
  | plainCommit : Alike P .plainCommit .plainCommit
  | plainRollback : Alike P .plainRollback .plainRollback

/-- Transitions to alike stages or conclusions. -/
inductive Transition.Alike (P : String → String → Prop) : Transition → Transition → Prop where
  | enter {s t : Stage} (stages : s.Alike P t) : Alike P (.enter s) (.enter t)
  | conclude {c d : Conclusion} (conclusions : c.Alike P d) : Alike P (.conclude c) (.conclude d)

/-- Outcomes that no stage can tell apart, but for texts that `P` relates. -/
structure Outcome.Alike (P : String → String → Prop) (o other : Outcome) : Prop where
  failed : o.failed = other.failed
  errorText : o.failed = true → P o.errorText other.errorText
  errored : o.errored.Perm other.errored
  lostText : Option.Rel P o.lostText other.lostText

section Alike

variable {P Q : String → String → Prop}

theorem relText_mono (weaker : ∀ m n, P m n → Q m n) {text other : Option String}
    (related : Option.Rel P text other) : Option.Rel Q text other := by
  cases related with
  | some texts => exact .some (weaker _ _ texts)
  | none => exact .none

namespace Stage

variable {s t : Stage}

theorem Alike.mono (alike : s.Alike P t) (weaker : ∀ m n, P m n → Q m n) : s.Alike Q t := by
  cases alike with
  | start intent => exact .start intent
  | prepare => exact .prepare
  | commitAll => exact .commitAll
  | rollbackAll causes => exact .rollbackAll (relText_mono weaker causes)
  | cleanup decision retries causes losses =>
    exact .cleanup decision retries (relText_mono weaker causes) (relText_mono weaker losses)
  | plainCommit => exact .plainCommit
  | plainRollback => exact .plainRollback

theorem Alike.name_eq (alike : s.Alike P t) : s.name = t.name := by
  cases alike <;> rfl

theorem Alike.command_eq (alike : s.Alike P t) : s.command = t.command := by
  cases alike with
  | cleanup decision => cases decision <;> rfl
  | start | prepare | commitAll | rollbackAll | plainCommit | plainRollback => rfl

theorem Alike.targets_eq (alike : s.Alike P t) (ids : List ParticipantId) :
    s.targets ids = t.targets ids := by
  cases alike with
  | cleanup decision retries =>
    apply List.filter_congr
    intro id _
    exact retries.contains_eq
  | start | prepare | commitAll | rollbackAll | plainCommit | plainRollback => rfl

theorem Alike.ifNobody (alike : s.Alike P t) : s.ifNobody.Alike P t.ifNobody := by
  cases alike with
  | rollbackAll causes =>
    cases causes with
    | some texts => exact .failure texts
    | none => exact .success
  | cleanup decision retries causes losses =>
    cases causes with
    | some texts => exact .failure texts
    | none =>
      cases losses with
      | some texts => exact .failure texts
      | none => exact .success
  | start | prepare | commitAll | plainCommit | plainRollback => exact .success

/-- **Succession.** What follows alike stages with alike outcomes is alike. -/
theorem next_alike {o other : Outcome} (alike : s.Alike P t) (outcomes : o.Alike P other) :
    (s.next o).Alike P (t.next other) := by
  have same := outcomes.failed
  cases alike with
  | start intent =>
    cases intent with
    | commit =>
      simp only [next]
      rw [← same]
      cases failed : o.failed with
      | true => exact .enter (.rollbackAll (.some (outcomes.errorText failed)))
      | false => exact .enter .prepare
    | rollback => exact .enter (.rollbackAll .none)
  | prepare =>
    simp only [next]
    rw [← same]
    cases failed : o.failed with
    | true => exact .enter (.rollbackAll (.some (outcomes.errorText failed)))
    | false => exact .enter .commitAll
  | commitAll => exact .enter (.cleanup .commit outcomes.errored .none outcomes.lostText)
  | rollbackAll causes =>
    exact .enter (.cleanup .rollback outcomes.errored causes outcomes.lostText)
  | cleanup decision retries causes losses =>
    cases causes with
    | some texts => exact .conclude (.failure texts)
    | none =>
      simp only [next]
      rw [← same]
      cases failed : o.failed with
      | true => exact .conclude (.failure (outcomes.errorText failed))
      | false =>
        cases losses with
        | some texts => exact .conclude (.failure texts)
        | none => exact .conclude .success
  | plainCommit | plainRollback =>
    simp only [next]
    rw [← same]
    cases failed : o.failed with
    | true => exact .conclude (.failure (outcomes.errorText failed))
    | false => exact .conclude .success

end Stage

theorem Outcome.Alike.mono {o other : Outcome} (alike : o.Alike P other)
    (weaker : ∀ m n, P m n → Q m n) : o.Alike Q other where
  failed := alike.failed
  errorText := by
    intro failed
    exact weaker _ _ (alike.errorText failed)
  errored := alike.errored
  lostText := relText_mono weaker alike.lostText

theorem Conclusion.Alike.mono {c d : Conclusion} (alike : c.Alike P d)
    (weaker : ∀ m n, P m n → Q m n) : c.Alike Q d := by
  cases alike with
  | success => exact .success
  | failure texts => exact .failure (weaker _ _ texts)

end Alike

/-! ## Stages with nobody to ask -/

/-- The stages entered in one step when `s` is entered: after one with nobody to ask, those that
follow. -/
def Stage.descent (s : Stage) (ids : List ParticipantId) : List Stage :=
  s :: if s.targets ids = [] then
    match _next : s.next {} with
    | .enter t => t.descent ids
    | .conclude _ => []
  else []
  termination_by s.rank
  decreasing_by exact Stage.rank_lt_of_next _next

/-- The stages entered in one step by a transition. -/
def Transition.stages (ids : List ParticipantId) : Transition → List Stage
  | .enter s => s.descent ids
  | .conclude _ => []

/-- Whoever enters a stage enters each stage of its descent. -/
theorem Coordinator.enter_of_mem_descent {c : Coordinator} {s t : Stage}
    (ready : (c.operation.cohort.isOpen && !c.operation.cohort.complete) = false)
    (h : t ∈ s.descent c.session.participantIds) :
    ∃ c' : Coordinator, c.enter s = c'.enter t ∧
      c'.session.participants = c.session.participants := by
  rw [Stage.descent, List.mem_cons] at h
  rcases h with rfl | later
  · exact ⟨c, rfl, rfl⟩
  · split at later
    · rename_i nobody
      split at later
      · rename_i u next
        let between : Coordinator :=
          { session := c.session.discardIf s.marksDiscard
            operation := { c.operation with cohort := Cohort.opened [] } }
        have passes : c.enter s = between.enter u := by
          rw [enter]
          simp only [Session.markDiscarding_if]
          rw [Cohort.begin_eq_opened _ _ ready, Session.participantIds_discardIf, nobody]
          dsimp only [Cohort.opened, List.eraseDups_nil, List.isEmpty_nil]
          rw [if_pos rfl]
          split
          · rename_i v alsoNext
            obtain rfl : u = v := Transition.enter.inj (next.symm.trans alsoNext)
            rfl
          · rename_i alsoNext
            exact absurd (next.symm.trans alsoNext) (by simp)
        have there : t ∈ u.descent between.session.participantIds := later
        obtain ⟨c', enters, same⟩ := enter_of_mem_descent (c := between) rfl there
        exact ⟨c', passes.trans enters, same⟩
      · exact absurd later List.not_mem_nil
    · exact absurd later List.not_mem_nil
  termination_by s.rank
  decreasing_by exact Stage.rank_lt_of_next ‹s.next _ = .enter _›

theorem Outcome.alike_of_nobody (P : String → String → Prop) : ({} : Outcome).Alike P {} where
  failed := rfl
  errorText := by simp
  errored := .refl []
  lostText := .none

theorem Stage.Alike.descent {P : String → String → Prop} {s t : Stage} (alike : s.Alike P t)
    (ids : List ParticipantId) :
    List.Forall₂ (Stage.Alike P) (s.descent ids) (t.descent ids) := by
  rw [Stage.descent, Stage.descent]
  refine .cons alike ?_
  rw [← alike.targets_eq]
  by_cases nobody : s.targets ids = []
  · rw [if_pos nobody, if_pos nobody]
    have follows := Stage.next_alike alike (Outcome.alike_of_nobody P)
    split
    · rename_i u next
      rw [next] at follows
      split
      · rename_i v otherNext
        rw [otherNext] at follows
        cases follows with
        | enter stages => exact stages.descent ids
      · rename_i otherNext
        rw [otherNext] at follows
        cases follows
    · rename_i next
      rw [next] at follows
      split
      · rename_i otherNext
        rw [otherNext] at follows
        cases follows
      · exact .nil
  · rw [if_neg nobody, if_neg nobody]
    exact .nil
  termination_by s.rank
  decreasing_by exact Stage.rank_lt_of_next ‹s.next _ = .enter _›

theorem Transition.Alike.stages {P : String → String → Prop} {t u : Transition}
    (alike : t.Alike P u) (ids : List ParticipantId) :
    List.Forall₂ (Stage.Alike P) (t.stages ids) (u.stages ids) := by
  cases alike with
  | enter stages => exact stages.descent ids
  | conclude => exact .nil

/-! ## Outcomes in another order -/

namespace Cohort.Account

variable {ids others : List ParticipantId} {es fs : List Entry} {c c' : Cohort}

/-- A cohort with a failure keeps the text of one of its entries. -/
theorem exists_text (account : Account ids es c) (failed : c.outcome.failed = true) :
    ∃ e ∈ es, e.text? = some c.outcome.errorText := by
  have some : 0 < es.countP Entry.isFailure := by
    rw [← account.errorCount_eq]
    exact of_decide_eq_true failed
  obtain ⟨e, inEntries, failure⟩ := List.countP_pos_iff.mp some
  have found : (es.findSome? Entry.text?).isSome = true := by
    rw [List.findSome?_isSome_iff]
    exact ⟨e, inEntries, by rw [Entry.isSome_text, failure]⟩
  obtain ⟨text, first⟩ := Option.isSome_iff_exists.mp found
  obtain ⟨f, member, worded⟩ := List.exists_of_findSome?_eq_some first
  have words : c.outcome.errorText = text := by
    show c.firstError.getD _ = text
    rw [account.firstError_eq, first]
    rfl
  exact ⟨f, member, words ▸ worded⟩

/-- A loss is a failure. -/
theorem failed_of_lost (account : Account ids es c) (lost : c.lost ≠ []) :
    c.outcome.failed = true := by
  obtain ⟨id, closed⟩ := List.exists_mem_of_ne_nil _ lost
  rw [account.lost_eq] at closed
  obtain ⟨e, inEntries, closed⟩ := List.mem_filterMap.mp closed
  have failure : e.isFailure = true := by
    cases e with
    | closed => rfl
    | ok | error | unreachable => exact absurd closed (by simp [Entry.lost?])
  show decide (0 < c.errorCount) = true
  rw [account.errorCount_eq]
  exact decide_eq_true (List.countP_pos_iff.mpr ⟨e, inEntries, failure⟩)

/-- Cohorts that counted the same entries in different orders come to outcomes that differ by the
order and by whose text is kept. -/
theorem outcome_alike (account : Account ids es c) (account' : Account others fs c')
    (perm : es.Perm fs) (slotless : c.unreachable = 0) (slotless' : c'.unreachable = 0) :
    c.outcome.Alike (fun m n => (∃ e ∈ es, e.text? = some m) ∧ ∃ e ∈ fs, e.text? = some n)
      c'.outcome := by
  have failed : c.outcome.failed = c'.outcome.failed := by
    show decide (0 < c.errorCount) = decide (0 < c'.errorCount)
    rw [account.errorCount_eq, account'.errorCount_eq, perm.countP_eq]
  have texts : c.outcome.failed = true → (∃ e ∈ es, e.text? = some c.outcome.errorText) ∧
      ∃ e ∈ fs, e.text? = some c'.outcome.errorText := by
    intro failure
    exact ⟨account.exists_text failure, account'.exists_text (failed ▸ failure)⟩
  refine ⟨failed, texts, ?_, ?_⟩
  · show c.errored.Perm c'.errored
    rw [account.errored_eq, account'.errored_eq]
    exact perm.filterMap _
  · have losses : c.lost.Perm c'.lost := by
      rw [account.lost_eq, account'.lost_eq]
      exact perm.filterMap _
    unfold Outcome.lostText
    show Option.Rel _ (if !c.lost.isEmpty || decide (0 < c.unreachable) then _ else none)
      (if !c'.lost.isEmpty || decide (0 < c'.unreachable) then _ else none)
    rw [slotless, slotless', ← losses.isEmpty_eq]
    by_cases nobody : c.lost = []
    · rw [nobody]
      exact .none
    · have some : c.lost.isEmpty = false := by
        simpa using nobody
      rw [some]
      exact .some (texts (account.failed_of_lost nobody))

end Cohort.Account

/-! ## Fixed answers -/

/-- How a participant answers the command of a stage. -/
inductive Conduct where
  | ok (packet : Bytes)
  | error (code : UInt16) (message : String)
  /-- Its link closes. -/
  | close (reason : String)
  deriving DecidableEq, Repr

/-- How the link of each participant answers in the stage of each name. -/
def Plan : Type :=
  String → Link → Conduct

namespace Plan

variable (plan : Plan) (s : Stage) (link : Link)

/-- The answer as the coordinator hears of it. -/
def event : Event :=
  match plan s.name link with
  | .ok packet => .ok link.id packet
  | .error code message => .error link.id (some code) message
  | .close reason => .closed link reason

/-- The answer as the cohort of the stage counts it. -/
def entry : Cohort.Entry :=
  match plan s.name link with
  | .ok packet => .ok link.id (some packet)
  | .error code message =>
    if s.tolerates code then .ok link.id none else .error link.id message
  | .close reason => .closed link.id (link.info.closedMessage reason)

@[simp] theorem id_entry : (plan.entry s link).id? = some link.id := by
  unfold entry
  split
  · rfl
  · split <;> rfl
  · rfl

/-- Alike stages count the same answer. -/
theorem entry_eq_of_alike {P : String → String → Prop} {t : Stage} (alike : s.Alike P t) :
    plan.entry s link = plan.entry t link := by
  unfold entry Stage.tolerates
  rw [alike.name_eq, alike.command_eq]

variable {plan s link}

theorem entryOf_event {c : Coordinator} (stage : c.operation.stage = some s)
    (owes : link.id ∈ c.operation.cohort.pending) :
    c.entryOf (plan.event s link) = some (plan.entry s link) := by
  have pending : c.operation.cohort.isPending link.id = true := List.contains_iff_mem.mpr owes
  unfold event entry
  split
  · exact if_pos pending
  · simp only [Coordinator.entryOf, Coordinator.tolerates, stage, pending, if_true]
    split <;> rfl
  · exact if_pos pending

/-- An answer unbinds its participant iff the cohort counts it as lost. -/
theorem unbind_event (c : Coordinator) : (c.unbind (plan.event s link)).participants =
    if (plan.entry s link).lost? = some link.id then
      c.session.participants.eraseP (·.id == link.id)
    else c.session.participants := by
  unfold event entry
  split
  · exact (if_neg (by simp [Cohort.Entry.lost?])).symm
  · split
    · exact (if_neg (by simp [Cohort.Entry.lost?])).symm
    · exact (if_neg (by simp [Cohort.Entry.lost?])).symm
  · exact (if_pos rfl).symm

end Plan

namespace Docket

/-- Stage `s` is in flight and waits for the answer of this link. -/
def AwaitsAt (d : Docket) (s : Stage) (link : Link) : Prop :=
  d.coordinator.operation.stage = some s ∧ link ∈ d.coordinator.session.participants ∧
    link.id ∈ d.owing

instance (d : Docket) (s : Stage) (link : Link) : Decidable (d.AwaitsAt s link) :=
  inferInstanceAs (Decidable (_ ∧ _))

/-- A run in which whoever owes an answer gives the one fixed for the stage in flight, in any order,
until nobody owes one. -/
inductive Performs (plan : Plan) : Docket → List Input → Prop where
  | ended {d : Docket} (nobody : d.owing = []) : Performs plan d []
  | next {d : Docket} {rest : List Input} (s : Stage) (link : Link) (awaits : d.AwaitsAt s link)
      (later : Performs plan (d.step (.event (plan.event s link))).1 rest) :
      Performs plan d (.event (plan.event s link) :: rest)

end Docket

/-! ## One stage -/

theorem eraseP_eq_filter {links : List Link} (distinct : (links.map Link.id).Nodup)
    (id : ParticipantId) :
    links.eraseP (·.id == id) = links.filter fun link => !(link.id == id) := by
  induction links with
  | nil => rfl
  | cons link rest ih =>
    obtain ⟨fresh, others⟩ := List.nodup_cons.mp distinct
    by_cases same : link.id = id
    · -- the id is that of no other link
      have kept : rest.filter (fun link => !(link.id == id)) = rest := by
        apply List.filter_eq_self.mpr
        intro other member
        have different : other.id ≠ id := by
          rintro rfl
          exact fresh (same ▸ List.mem_map_of_mem member)
        simp [different]
      rw [List.eraseP_cons_of_pos (by simp [same]), List.filter_cons_of_neg (by simp [same]), kept]
    · rw [List.eraseP_cons_of_neg (by simp [same]), List.filter_cons_of_pos (by simp [same]),
        ih others]

/-- Stage `s` was entered with `bound` bound, and has heard from the links in `heard` since. -/
structure Heard (plan : Plan) (s : Stage) (bound heard : List Link) (c : Coordinator) : Prop where
  replied : ∀ link ∈ heard, link ∈ bound
  distinct : (heard.map Link.id).Nodup
  account : Cohort.Account (s.targets (bound.map Link.id)) (heard.map (plan.entry s))
    c.operation.cohort
  slotless : c.operation.cohort.unreachable = 0
  present : c.session.participants =
    bound.filter fun link => !c.operation.cohort.lost.contains link.id
  unforced : c.Unforced

namespace Heard

variable {plan : Plan} {s : Stage} {bound heard : List Link} {c : Coordinator}

theorem mem_bound (round : Heard plan s bound heard c) {link : Link}
    (here : link ∈ c.session.participants) : link ∈ bound := by
  rw [round.present] at here
  exact (List.mem_filter.mp here).1

/-- Whoever is lost is bound no longer. -/
theorem present_booked (round : Heard plan s bound heard c) (once : (bound.map Link.id).Nodup)
    (link : Link) : (c.booked (plan.event s link) (plan.entry s link)).session.participants =
      bound.filter fun other =>
        !(c.booked (plan.event s link) (plan.entry s link)).operation.cohort.lost.contains
          other.id := by
  show (c.unbind (plan.event s link)).participants =
    bound.filter fun other => !(c.operation.cohort.book (plan.entry s link)).lost.contains other.id
  have lost : (c.operation.cohort.book (plan.entry s link)).lost =
      c.operation.cohort.lost ++ (plan.entry s link).lost?.toList := by
    cases plan.entry s link <;> simp [Cohort.book, Cohort.recordError, Cohort.Entry.lost?]
  rw [Plan.unbind_event, lost]
  by_cases closes : (plan.entry s link).lost? = some link.id
  · have present : (c.session.participants.map Link.id).Nodup := by
      rw [round.present]
      exact once.sublist (List.filter_sublist.map _)
    rw [if_pos closes, closes, eraseP_eq_filter present, round.present, List.filter_filter]
    apply List.filter_congr
    intro other _
    by_cases same : other.id = link.id
    · simp [same]
    · simp [same]
  · have kept : (plan.entry s link).lost? = none := by
      have named := plan.id_entry s link
      cases entry : plan.entry s link with
      | closed id message =>
        rw [entry] at named closes
        exact absurd named closes
      | ok | error | unreachable => rfl
    rw [if_neg closes, kept, round.present]
    simp

/-- One more answer. -/
theorem booked (round : Heard plan s bound heard c) (once : (bound.map Link.id).Nodup)
    {link : Link} (here : link ∈ c.session.participants)
    (owes : link.id ∈ c.operation.cohort.pending) :
    Heard plan s bound (heard ++ [link]) (c.booked (plan.event s link) (plan.entry s link)) := by
  have unnamed := ((round.account.mem_pending_iff link.id).mp owes).2
  refine ⟨?_, ?_, ?_, ?_, round.present_booked once link, round.unforced⟩
  · intro other member
    rcases List.mem_append.mp member with earlier | last
    · exact round.replied other earlier
    · rw [List.mem_singleton.mp last]
      exact round.mem_bound here
  · rw [List.map_append, List.nodup_append]
    refine ⟨round.distinct, by simp, ?_⟩
    rintro left earlier right last rfl
    obtain ⟨other, member, same⟩ := List.mem_map.mp earlier
    rw [List.map_singleton, List.mem_singleton] at last
    apply unnamed (plan.entry s other) (List.mem_map_of_mem member)
    rw [Plan.id_entry, same, last]
  · rw [List.map_append]
    refine round.account.booked ?_
    intro id named
    rw [Plan.id_entry] at named
    exact Option.some.inj named ▸ owes
  · exact (Cohort.unreachable_book (plan.id_entry s link)).trans round.slotless

/-- When nobody owes an answer any more, everyone asked has been heard. -/
theorem perm (round : Heard plan s bound heard c) (once : (bound.map Link.id).Nodup)
    (nobody : c.operation.cohort.pending = []) :
    heard.Perm (bound.filter fun link => (s.targets (bound.map Link.id)).contains link.id) := by
  rw [List.perm_ext_iff_of_nodup (round.distinct.of_map _) (once.of_map _ |>.filter _)]
  intro link
  rw [List.mem_filter, List.contains_iff_mem]
  constructor
  · intro member
    exact ⟨round.replied link member,
      round.account.asked (List.mem_map_of_mem member) (plan.id_entry s link)⟩
  · rintro ⟨here, asked⟩
    by_contra silent
    -- nobody else has this link's id, so it would be pending
    have pending : link.id ∈ c.operation.cohort.pending := by
      rw [round.account.mem_pending_iff]
      refine ⟨asked, ?_⟩
      intro e inEntries names
      obtain ⟨other, member, rfl⟩ := List.mem_map.mp inEntries
      rw [Plan.id_entry] at names
      have same := List.inj_on_of_nodup_map once (round.replied other member) here
        (Option.some.inj names)
      exact silent (same ▸ member)
    rw [nobody] at pending
    exact absurd pending List.not_mem_nil

end Heard

namespace Docket

variable {plan : Plan} {d d' : Docket} {s t : Stage} {xs ys : List Input}

/-- Stage `s` has just been entered with `bound` bound, and nothing forces its outcome. -/
structure Opens (d : Docket) (s : Stage) (bound : List Link) : Prop where
  busy : d.coordinator.Running s
  cohort : d.coordinator.operation.cohort = Cohort.opened (s.targets (bound.map Link.id))
  participants : d.coordinator.session.participants = bound
  unforced : d.coordinator.Unforced

theorem Opens.heard {bound : List Link} (opens : d.Opens s bound) (plan : Plan) :
    Heard plan s bound [] d.coordinator := by
  refine ⟨by simp, List.nodup_nil, ?_, ?_, ?_, opens.unforced⟩
  · rw [opens.cohort]
    exact .opened
  · rw [opens.cohort]
    rfl
  · rw [opens.participants, opens.cohort, List.filter_eq_self.mpr]
    intro link _
    rfl

/-- **Round.** A performance begins with a round of the stage in flight, at the end of which everyone
asked has been counted, and goes on as a performance. -/
theorem Performs.round {bound heard : List Link} (performs : d.Performs plan xs)
    (busy : d.coordinator.Running s) (once : (bound.map Link.id).Nodup)
    (before : Heard plan s bound heard d.coordinator) :
    ∃ part i rest later, xs = part ++ i :: rest ∧ d.Round s part i ∧
      d.entries (part ++ [i]) = later.map (plan.entry s) ∧
      Heard plan s bound (heard ++ later) (d.atClose part i) ∧
      (d.after part i).Performs plan rest := by
  induction performs generalizing heard with
  | ended nobody =>
    rename_i d
    have owed := busy.waiting.owed
    rw [show d.coordinator.operation.cohort.pending = [] from nobody] at owed
    exact absurd owed (by simp)
  | next u link awaits later ih =>
    rename_i d rest
    obtain ⟨stage, here, owes⟩ := awaits
    obtain rfl : u = s := Option.some.inj (stage.symm.trans busy.stage)
    have entered : d.coordinator.entryOf (plan.event u link) = some (plan.entry u link) :=
      Plan.entryOf_event stage owes
    have absorbed : d.absorb (.event (plan.event u link)) =
        d.coordinator.booked (plan.event u link) (plan.entry u link) := by
      simp [absorb, entered]
    have after := before.booked once here owes
    rw [← absorbed] at after
    have counted : ∀ rest, d.entries (.event (plan.event u link) :: rest) =
        plan.entry u link :: (d.step (.event (plan.event u link))).1.entries rest := by
      intro rest
      rw [entries_cons]
      simp [Coordinator.inputEntryOf, entered]
    rcases step_turn busy (.event (plan.event u link)) with stays | leaves
    · rw [← stays.after] at after
      obtain ⟨part, i, others, further, rfl, round, entries, heardAll, performs⟩ :=
        ih stays.running after
      refine ⟨_ :: part, i, others, link :: further, rfl,
        ⟨.cons busy stays round.keeps, round.leaves⟩, ?_, ?_, performs⟩
      · rw [List.cons_append, counted, entries, List.map_cons]
      · rw [List.append_assoc] at heardAll
        exact heardAll
    · refine ⟨[], _, rest, [link], rfl, ⟨.nil busy, leaves⟩, ?_, after, later⟩
      rw [List.nil_append, counted]
      rfl

/-- The text is that of a failure that the cohort of the stage of this name has counted. -/
def Fails (d : Docket) (inputs : List Input) (stage : String) (text : String) : Prop :=
  ∃ m ∈ d.moments inputs, m.stage.map Stage.name = some stage ∧
    ∃ e, m.entryOf = some e ∧ e.text? = some text

/-- Both texts are those of failures in cohorts of one stage. -/
def FailTogether (d : Docket) (xs : List Input) (d' : Docket) (ys : List Input)
    (text other : String) : Prop :=
  ∃ stage, d.Fails xs stage text ∧ d'.Fails ys stage other

end Docket

/-! ## Two runs -/

/-- The stages entered by a step: those of the transition that it makes. -/
def Moment.entered (m : Moment) : List Stage :=
  if m.report.effect = .idle then []
  else
    let c := m.docket.absorb m.input
    (m.stage.map fun s => (s.next (c.result s)).stages c.session.participantIds).getD []

theorem Coordinator.result_of_unforced {c : Coordinator} (unforced : c.Unforced) (s : Stage) :
    c.result s = c.operation.cohort.outcome := by
  unfold result Operation.withForced
  rw [unforced.1, unforced.2]
  split
  · rfl
  · rfl

namespace Docket

variable {plan : Plan} {P : String → String → Prop} {d d' : Docket} {s t : Stage}
  {part ys : List Input} {i : Input}

def entered (d : Docket) (inputs : List Input) : List Stage :=
  (d.moments inputs).flatMap Moment.entered

/-- Of a round only the last step has something to report. -/
theorem Round.flatMap_moments {α : Type} (round : d.Round s part i) {f : Moment → List α}
    (quiet : ∀ m, m.report.effect = .idle → f m = []) (rest : List Input) :
    (d.moments (part ++ i :: rest)).flatMap f =
      f ⟨d.run part, i⟩ ++ ((d.after part i).moments rest).flatMap f := by
  have kept : (d.moments part).flatMap f = [] := by
    rw [List.flatMap_eq_nil_iff]
    intro m h
    exact quiet m (round.keeps.of_mem h).2.effect
  rw [moments_append, List.flatMap_append, kept]
  rfl

/-- What two runs of one operation agree about. -/
structure Agree (P : String → String → Prop) (d : Docket) (xs : List Input) (d' : Docket)
    (ys : List Input) : Prop where
  entered : List.Forall₂ (Stage.Alike fun _ _ => True) (d.entered xs) (d'.entered ys)
  sent : d.sent xs = d'.sent ys
  concluded : ∃ v w, d.verdicts xs = [v] ∧ d'.verdicts ys = [w] ∧
    v.conclusion.Alike (fun m n => P m n ∨ d.FailTogether xs d' ys m n) w.conclusion

theorem Performs.eq_nil_of_atRest {xs : List Input} (performs : d.Performs plan xs)
    (rest : d.coordinator.AtRest) : xs = [] := by
  cases performs with
  | ended => rfl
  | next s link awaits =>
    have stage := awaits.1
    rw [show d.coordinator.operation = {} from rest] at stage
    exact absurd stage (by simp)

/-- What one run has come to when the first of its stages closes. -/
structure Closing (plan : Plan) (d : Docket) (s : Stage) (bound : List Link) (part : List Input)
    (i : Input) (rest : List Input) (heard : List Link) : Prop where
  round : d.Round s part i
  entries : d.entries (part ++ [i]) = heard.map (plan.entry s)
  taken : Heard plan s bound heard (d.atClose part i)
  everyone : heard.Perm
    (bound.filter fun link => (s.targets (bound.map Link.id)).contains link.id)
  later : (d.after part i).Performs plan rest

theorem Performs.closing {xs : List Input} {bound : List Link} (performs : d.Performs plan xs)
    (opens : d.Opens s bound) (once : (bound.map Link.id).Nodup) :
    ∃ part i rest heard, xs = part ++ i :: rest ∧ Closing plan d s bound part i rest heard := by
  obtain ⟨part, i, rest, heard, rfl, round, entries, all, later⟩ :=
    performs.round opens.busy once (opens.heard plan)
  have nobody : (d.atClose part i).operation.cohort.pending = [] := by
    have closes := round.leaves.closes
    have slotless := all.slotless
    unfold atClose at slotless
    rw [slotless] at closes
    exact List.length_eq_zero_iff.mp (Nat.le_zero.mp closes)
  exact ⟨part, i, rest, heard, rfl, round, entries, all, all.perm once nobody, later⟩

section TwoRuns

variable {part' : List Input} {j : Input} {rest rest' : List Input} {bound heard heard' : List Link}

theorem Closing.fails (closing : Closing plan d s bound part i rest heard) {e : Cohort.Entry}
    {text : String} (inEntries : e ∈ heard.map (plan.entry s)) (worded : e.text? = some text) :
    d.Fails (part ++ i :: rest) s.name text := by
  rw [← closing.entries, mem_entries] at inEntries
  obtain ⟨m, inRound, entered⟩ := inEntries
  refine ⟨m, ?_, ?_, e, entered, worded⟩
  · rw [moments_round]
    exact List.mem_append_left _ inRound
  · rw [closing.round.stage inRound]
    rfl

theorem fails_later {stage text : String} (fails : (d.after part i).Fails rest stage text) :
    d.Fails (part ++ i :: rest) stage text := by
  obtain ⟨m, later, found⟩ := fails
  refine ⟨m, ?_, found⟩
  rw [moments_round]
  exact List.mem_append_right _ later

/-- Alike stages that close after the same answers have the same bound and are followed alike. -/
theorem Closing.alike (closing : Closing plan d s bound part i rest heard)
    (closing' : Closing plan d' t bound part' j rest' heard') (alike : s.Alike P t) :
    (d.atClose part i).session.participants = (d'.atClose part' j).session.participants ∧
      (s.next ((d.atClose part i).result s)).Alike
        (fun m n => P m n ∨ d.FailTogether (part ++ i :: rest) d' (part' ++ j :: rest') m n)
        (t.next ((d'.atClose part' j).result t)) := by
  have heards : heard.Perm heard' := by
    have everyone := closing'.everyone
    rw [← alike.targets_eq] at everyone
    exact closing.everyone.trans everyone.symm
  have entries : (heard.map (plan.entry s)).Perm (heard'.map (plan.entry t)) := by
    rw [show plan.entry t = plan.entry s from
      funext fun link => (plan.entry_eq_of_alike s link alike).symm]
    exact heards.map _
  have account := closing.taken.account
  have account' := closing'.taken.account
  constructor
  · rw [closing.taken.present, closing'.taken.present, account.lost_eq, account'.lost_eq]
    apply List.filter_congr
    intro link _
    rw [(entries.filterMap _).contains_eq]
  · rw [Coordinator.result_of_unforced closing.taken.unforced,
      Coordinator.result_of_unforced closing'.taken.unforced]
    have outcomes := account.outcome_alike account' entries closing.taken.slotless
      closing'.taken.slotless
    apply Stage.next_alike (alike.mono fun m n texts => .inl texts)
    apply outcomes.mono
    rintro m n ⟨⟨e, left, worded⟩, f, right, alsoWorded⟩
    refine .inr ⟨s.name, closing.fails left worded, ?_⟩
    rw [alike.name_eq]
    exact closing'.fails right alsoWorded

theorem Closing.effect (closing : Closing plan d s bound part i rest heard) :
    (Moment.mk (d.run part) i).report.effect = ((d.atClose part i).proceed s).2 :=
  closing.round.leaves.effect

theorem Closing.entered (closing : Closing plan d s bound part i rest heard) :
    d.entered (part ++ i :: rest) = (s.next ((d.atClose part i).result s)).stages
        (d.atClose part i).session.participantIds ++ (d.after part i).entered rest := by
  have quiet : ∀ m : Moment, m.report.effect = .idle → m.entered = [] := by
    intro m idle
    exact if_pos idle
  have loud : (Moment.mk (d.run part) i).report.effect ≠ .idle := by
    rw [closing.effect]
    exact Coordinator.follow_ne_idle _ _ _
  have stage : (Moment.mk (d.run part) i).stage = some s := closing.round.busy.stage
  unfold Docket.entered
  rw [closing.round.flatMap_moments quiet]
  congr 1
  unfold Moment.entered
  rw [if_neg loud, stage]
  rfl

theorem Closing.sent (closing : Closing plan d s bound part i rest heard) :
    d.sent (part ++ i :: rest) =
      ((d.atClose part i).proceed s).2.commands ++ (d.after part i).sent rest := by
  have quiet : ∀ m : Moment, m.report.effect = .idle → m.report.effect.commands = [] := by
    intro m idle
    rw [idle]
    rfl
  unfold Docket.sent
  rw [closing.round.flatMap_moments quiet, closing.effect]

theorem Closing.verdicts (closing : Closing plan d s bound part i rest heard) :
    d.verdicts (part ++ i :: rest) =
      ((d.atClose part i).proceed s).2.verdicts ++ (d.after part i).verdicts rest := by
  have quiet : ∀ m : Moment, m.report.effect = .idle → m.report.effect.verdicts = [] := by
    intro m idle
    rw [idle]
    rfl
  unfold Docket.verdicts
  rw [closing.round.flatMap_moments quiet, closing.effect]

/-- An operation that concludes when the stage closes has nothing more to report. -/
theorem Closing.reports (closing : Closing plan d s bound part i rest heard) {verdict : Verdict}
    (rests : ((d.atClose part i).proceed s).1.AtRest)
    (concludes : ((d.atClose part i).proceed s).2 = .conclude verdict) :
    d.entered (part ++ i :: rest) = (s.next ((d.atClose part i).result s)).stages
        (d.atClose part i).session.participantIds ∧
      d.sent (part ++ i :: rest) = [] ∧ d.verdicts (part ++ i :: rest) = [verdict] := by
  have after : (d.after part i).coordinator.AtRest := by
    unfold Docket.after
    rw [closing.round.leaves.after]
    exact rests
  have nothing := closing.later.eq_nil_of_atRest after
  refine ⟨?_, ?_, ?_⟩
  · rw [closing.entered, nothing]
    exact List.append_nil _
  · rw [closing.sent, concludes, nothing]
    rfl
  · rw [closing.verdicts, concludes, nothing]
    rfl

/-- The next stage opens with those bound who are left. -/
theorem Closing.opens (closing : Closing plan d s bound part i rest heard) {u : Stage}
    (fits : d.coordinator.operation.xid.isSome = s.command.isXa)
    (next : s.next ((d.atClose part i).result s) = .enter u)
    (somebody : u.targets (d.atClose part i).session.participantIds ≠ []) :
    ((d.atClose part i).proceed s).2 = .send ((d.atClose part i).orders u) ∧
      (d.after part i).Opens u (d.atClose part i).session.participants ∧
      (d.after part i).coordinator.operation.xid = d.coordinator.operation.xid := by
  have lands := Coordinator.proceed_of_somebody next somebody
  have after : (d.after part i).coordinator = (d.atClose part i).settled.landed u := by
    unfold Docket.after
    rw [closing.round.leaves.after]
    exact congrArg Prod.fst lands
  have xid := closing.round.xid
  refine ⟨congrArg Prod.snd lands, ⟨?_, ?_, ?_, ?_⟩, ?_⟩
  · rw [after]
    apply Coordinator.running_landed _ somebody
    rw [Stage.isXa_of_next next, ← fits, ← xid]
  · rw [after]
    rfl
  · rw [after]
    rfl
  · rw [after]
    exact closing.taken.unforced
  · rw [after]
    exact xid

variable {P Q : String → String → Prop}

/-- Two operations that conclude when alike stages close agree. -/
theorem Closing.agree_of_ended (closing : Closing plan d s bound part i rest heard)
    (closing' : Closing plan d' t bound part' j rest' heard')
    (participants : (d.atClose part i).session.participants =
      (d'.atClose part' j).session.participants)
    (follows : (s.next ((d.atClose part i).result s)).Alike Q
      (t.next ((d'.atClose part' j).result t)))
    {v w : Verdict} {c c' : Coordinator}
    (concludes : (d.atClose part i).proceed s = (c, .conclude v)) (rests : c.AtRest)
    (concludes' : (d'.atClose part' j).proceed t = (c', .conclude w)) (rests' : c'.AtRest)
    (conclusions : v.conclusion.Alike
      (fun m n => P m n ∨ d.FailTogether (part ++ i :: rest) d' (part' ++ j :: rest') m n)
      w.conclusion) :
    Agree P d (part ++ i :: rest) d' (part' ++ j :: rest') := by
  obtain ⟨entered, sent, verdicts⟩ :=
    closing.reports (by rw [concludes]; exact rests) (by rw [concludes])
  obtain ⟨entered', sent', verdicts'⟩ :=
    closing'.reports (by rw [concludes']; exact rests') (by rw [concludes'])
  refine ⟨?_, ?_, v, w, verdicts, verdicts', conclusions⟩
  · rw [entered, entered']
    unfold Session.participantIds
    rw [participants]
    exact (follows.stages _).imp fun _ _ alike => alike.mono fun _ _ _ => trivial
  · rw [sent, sent']

/-- Two operations that agree after alike stages agree. -/
theorem Closing.agree_of_later (closing : Closing plan d s bound part i rest heard)
    (closing' : Closing plan d' t bound part' j rest' heard')
    (participants : (d.atClose part i).session.participants =
      (d'.atClose part' j).session.participants)
    (follows : (s.next ((d.atClose part i).result s)).Alike
      (fun m n => P m n ∨ d.FailTogether (part ++ i :: rest) d' (part' ++ j :: rest') m n)
      (t.next ((d'.atClose part' j).result t)))
    (effects : ((d.atClose part i).proceed s).2 = ((d'.atClose part' j).proceed t).2)
    (silent : ((d.atClose part i).proceed s).2.verdicts = [])
    (later : Agree
      (fun m n => P m n ∨ d.FailTogether (part ++ i :: rest) d' (part' ++ j :: rest') m n)
      (d.after part i) rest (d'.after part' j) rest') :
    Agree P d (part ++ i :: rest) d' (part' ++ j :: rest') := by
  obtain ⟨v, w, verdicts, verdicts', conclusions⟩ := later.concluded
  refine ⟨?_, ?_, v, w, ?_, ?_, ?_⟩
  · rw [closing.entered, closing'.entered]
    unfold Session.participantIds
    rw [participants]
    have now := follows.stages ((d'.atClose part' j).session.participants.map Link.id)
    exact List.rel_append (now.imp fun _ _ alike => alike.mono fun _ _ _ => trivial) later.entered
  · rw [closing.sent, closing'.sent, effects, later.sent]
  · rw [closing.verdicts, silent, verdicts]
    rfl
  · rw [closing'.verdicts, ← effects, silent, verdicts']
    rfl
  · apply conclusions.mono
    rintro m n (texts | ⟨stage, fails, fails'⟩)
    · exact texts
    · exact .inr ⟨stage, fails_later fails, fails_later fails'⟩

end TwoRuns

/-- **Two runs.** Two performances of one plan from alike stages that opened with the same bound
agree. -/
theorem alike_of_performs {P : String → String → Prop} {d d' : Docket} {s t : Stage}
    {bound : List Link} {xs ys : List Input} (once : (bound.map Link.id).Nodup)
    (opens : d.Opens s bound) (opens' : d'.Opens t bound)
    (xid : d.coordinator.operation.xid = d'.coordinator.operation.xid) (alike : s.Alike P t)
    (performs : d.Performs plan xs) (performs' : d'.Performs plan ys) :
    Agree P d xs d' ys := by
  obtain ⟨part, i, rest, heard, rfl, closing⟩ := performs.closing opens once
  obtain ⟨part', j, rest', heard', rfl, closing'⟩ := performs'.closing opens' once
  obtain ⟨participants, follows⟩ := closing.alike closing' alike
  have moves := follows
  generalize next : s.next ((d.atClose part i).result s) = transition at moves
  generalize next' : t.next ((d'.atClose part' j).result t) = transition' at moves
  cases moves with
  | conclude conclusions =>
    exact closing.agree_of_ended closing' participants follows
      (Coordinator.proceed_of_conclude next) rfl (Coordinator.proceed_of_conclude next') rfl
      conclusions
  | enter follow =>
    rename_i u v
    have targets : v.targets (d'.atClose part' j).session.participantIds =
        u.targets (d.atClose part i).session.participantIds := by
      unfold Session.participantIds
      rw [← participants, follow.targets_eq]
    by_cases nobody : u.targets (d.atClose part i).session.participantIds = []
    · exact closing.agree_of_ended closing' participants follows
        (Coordinator.proceed_of_nobody next nobody) rfl
        (Coordinator.proceed_of_nobody next' (targets.trans nobody)) rfl follow.ifNobody
    · obtain ⟨effect, opensNext, xidNext⟩ := closing.opens opens.busy.fits next nobody
      obtain ⟨effect', opensNext', xidNext'⟩ :=
        closing'.opens opens'.busy.fits next' (targets ▸ nobody)
      rw [← participants] at opensNext'
      have onceNext : ((d.atClose part i).session.participants.map Link.id).Nodup := by
        rw [closing.taken.present]
        exact once.sublist (List.filter_sublist.map _)
      have orders : (d.atClose part i).orders u = (d'.atClose part' j).orders v := by
        unfold Coordinator.orders
        rw [targets, participants, follow.command_eq, closing.round.xid, closing'.round.xid, xid]
      have later := alike_of_performs onceNext opensNext opensNext'
        (xidNext.trans (xid.trans xidNext'.symm)) follow closing.later closing'.later
      exact closing.agree_of_later closing' participants follows
        (effect.trans (orders ▸ effect'.symm)) (effect ▸ rfl) later
  termination_by s.rank
  decreasing_by exact Stage.rank_lt_of_next next

end Docket

/-- **Arrival order.** After any life of a session, fix what every participant answers at every stage
of an operation that begins. However the answers are interleaved, the operation enters the same
stages, but for the order of those to be asked again and the texts carried on, sends the same
commands and comes to one verdict, which is success in all interleavings or in none. If it is none,
the texts of two of them are those of failures that cohorts of one stage have counted. -/
theorem agree_in_any_order {id : UInt64} {issuer : String} {d : Docket} {history : List Act}
    {intent : Intent} {begun : Coordinator} {effect : Effect} {plan : Plan} {xs ys : List Input}
    (past : d = (Docket.born id issuer).live history)
    (h : d.coordinator.begin (Stage.initial d.coordinator.session.xa intent) = (begun, .ok effect))
    (performs : (Docket.ofBegun begun effect).Performs plan xs)
    (performs' : (Docket.ofBegun begun effect).Performs plan ys) :
    List.Forall₂ (Stage.Alike fun _ _ => True)
        ((Docket.ofBegun begun effect).entered xs) ((Docket.ofBegun begun effect).entered ys) ∧
      (Docket.ofBegun begun effect).sent xs = (Docket.ofBegun begun effect).sent ys ∧
      ∃ v w, effect.verdicts ++ (Docket.ofBegun begun effect).verdicts xs = [v] ∧
        effect.verdicts ++ (Docket.ofBegun begun effect).verdicts ys = [w] ∧
        v.conclusion.Alike ((Docket.ofBegun begun effect).FailTogether xs
          (Docket.ofBegun begun effect) ys) w.conclusion := by
  have distinct : d.ids.Nodup :=
    past ▸ Docket.nodup_live (Docket.settled_born ..) List.nodup_nil history
  have alike : (Stage.initial d.coordinator.session.xa intent).Alike (fun _ _ => False)
      (Stage.initial d.coordinator.session.xa intent) := by
    cases d.coordinator.session.xa with
    | true => exact .start intent
    | false =>
      cases intent with
      | commit => exact .plainCommit
      | rollback => exact .plainRollback
  generalize Stage.initial d.coordinator.session.xa intent = s at h alike
  have participants := d.coordinator.participants_fresh s
  rcases Docket.begun_lands h with ⟨rfl, rfl, running⟩ | ⟨rfl, rests⟩
  · -- the operation has sent its first commands
    have opens : (Docket.ofBegun ((d.coordinator.fresh s).landed s)
        (.send ((d.coordinator.fresh s).orders s))).Opens s
          d.coordinator.session.participants := by
      refine ⟨running, ?_, participants, ?_⟩
      · rw [← participants]
        rfl
      · exact ⟨Coordinator.interrupted_fresh .., Coordinator.departed_fresh ..⟩
    obtain ⟨entered, sent, v, w, verdicts, verdicts', conclusions⟩ :=
      Docket.alike_of_performs distinct opens opens rfl alike performs performs'
    refine ⟨entered, sent, v, w, verdicts, verdicts', conclusions.mono ?_⟩
    rintro m n (nothing | together)
    · exact nothing.elim
    · exact together
  · -- nobody is bound, and the operation is over at once
    rw [performs.eq_nil_of_atRest rests, performs'.eq_nil_of_atRest rests]
    refine ⟨.nil, rfl, _, _, rfl, rfl, alike.ifNobody.mono ?_⟩
    intro m n nothing
    exact nothing.elim

namespace Sample

/-- Both shards end their branches, and fail to prepare them, each in its own way. -/
def discord : Plan := fun stage link =>
  if stage = "XA PREPARE" then
    if link = shardA then .close "gone" else .error 1205 "busy"
  else .ok okFrame

def paired : Docket :=
  (Docket.born 7 "x").live [.attach shardA, .attach shardB, .setXa true]

/-- The answers of a commit of the two, in session order and in the other. -/
def inOrder : List Input :=
  [ok shardA, ok shardB, .event (.closed shardA "gone"),
    .event (.error shardB.id (some 1205) "busy"), ok shardB]

def outOfOrder : List Input :=
  [ok shardB, ok shardA, .event (.error shardB.id (some 1205) "busy"),
    .event (.closed shardA "gone"), ok shardB]

end Sample

open Sample Docket in
/-- The case of an XA commit of two shards that both fail to prepare. -/
theorem agree_of_discord :
    ∃ begun effect, paired.coordinator.begin (.start .commit) = (begun, .ok effect) ∧
      (ofBegun begun effect).Performs discord inOrder ∧
      (ofBegun begun effect).Performs discord outOfOrder ∧
      (ofBegun begun effect).sent inOrder = (ofBegun begun effect).sent outOfOrder := by
  let out := (paired.coordinator.fresh (.start .commit)).follow (.enter (.start .commit)) none
  have begins : paired.coordinator.begin (.start .commit) = (out.1, .ok out.2) :=
    Coordinator.begin_eq_follow rfl _
  have forth : (ofBegun out.1 out.2).Performs discord inOrder :=
    .next (.start .commit) shardA (by decide +kernel) <|
    .next (.start .commit) shardB (by decide +kernel) <|
    .next .prepare shardA (by decide +kernel) <|
    .next .prepare shardB (by decide +kernel) <|
    .next (.rollbackAll (some (shardA.info.closedMessage "gone"))) shardB (by decide +kernel) <|
    .ended (by decide +kernel)
  have back : (ofBegun out.1 out.2).Performs discord outOfOrder :=
    .next (.start .commit) shardB (by decide +kernel) <|
    .next (.start .commit) shardA (by decide +kernel) <|
    .next .prepare shardB (by decide +kernel) <|
    .next .prepare shardA (by decide +kernel) <|
    .next (.rollbackAll (some "busy")) shardB (by decide +kernel) <|
    .ended (by decide +kernel)
  have asked : paired.coordinator.begin
      (Stage.initial paired.coordinator.session.xa .commit) = (out.1, .ok out.2) := begins
  obtain ⟨-, sent, -⟩ :=
    agree_in_any_order (show paired = (Docket.born 7 "x").live _ from rfl) asked forth back
  exact ⟨out.1, out.2, begins, forth, back, sent⟩

end AtomicCommit
