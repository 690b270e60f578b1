import AtomicCommit.Proofs.Answer
import AtomicCommit.Proofs.Scene
import AtomicCommit.Simulation.Network

/-!
# What one answer of a backend settles

Anything may happen to a session between two frames of an answer. `Feed` is a session with one link
of a backend, whose place in the answer moves on with each frame; `Network.deliver_eq_take` says
that it moves as it does in a network.

* **budget** — `Feed.counted_le`: whatever comes, a participant is counted once for each command
  that it is sent, and once more if it owed an answer at the beginning.
* **answer** — `Feed.counted_le_one_iff`: what one complete answer is counted for is told by what is
  owed at the frames that say something.
* **run** — `answer_counts_once_iff`.
-/

namespace AtomicCommit

open Wire

/-! ## Feeds -/

/-- What happens to a session with one link of a backend. -/
inductive Arrival where
  | frame (frame : Bytes)
  | act (act : Act)
  deriving DecidableEq, Repr

/-- The frames among what happens, in order. -/
def framesOf (arrivals : List Arrival) : List Bytes :=
  arrivals.filterMap fun
    | .frame frame => some frame
    | .act _ => none

/-- A session, and where in an answer the link is. -/
structure Feed where
  docket : Docket
  replies : Reply.State
  deriving DecidableEq, Repr

namespace Feed

variable {f : Feed} {link : Link} {arrivals : List Arrival}

/-- The acts on the session that an arrival amounts to. -/
def acts (f : Feed) (link : Link) : Arrival → List Act
  | .frame frame => (f.replies.remark link frame).toList.map fun e => .input (.event e)
  | .act a => [a]

def take (f : Feed) (link : Link) (a : Arrival) : Feed where
  docket := f.docket.live (f.acts link a)
  replies := match a with
    | .frame frame => (f.replies.hear frame).1
    | .act _ => f.replies

def through (f : Feed) (link : Link) : List Arrival → Feed
  | [] => f
  | a :: rest => (f.take link a).through link rest

/-- Whether the arrival is a frame that the open cohort counts for the link's participant. -/
def counts (f : Feed) (link : Link) (a : Arrival) : Bool :=
  match a with
  | .frame _ => (f.docket.scenes (f.acts link a)).any fun m => m.entryOf.isSome
  | .act _ => false

def counted (f : Feed) (link : Link) : List Arrival → Nat
  | [] => 0
  | a :: rest => (f.counts link a).toNat + (f.take link a).counted link rest

def sent (f : Feed) (link : Link) : List Arrival → List (Link × Command)
  | [] => []
  | a :: rest => f.docket.commandsOf (f.acts link a) ++ (f.take link a).sent link rest

/-- The link's participant owes an answer. -/
def Owes (f : Feed) (link : Link) : Prop :=
  link.id ∈ f.docket.owing

instance (f : Feed) (link : Link) : Decidable (f.Owes link) :=
  inferInstanceAs (Decidable (link.id ∈ f.docket.owing))

theorem through_append (f : Feed) (link : Link) (xs ys : List Arrival) :
    f.through link (xs ++ ys) = (f.through link xs).through link ys := by
  induction xs generalizing f with
  | nil => rfl
  | cons a xs ih => exact ih _

theorem counted_append (f : Feed) (link : Link) (xs ys : List Arrival) :
    f.counted link (xs ++ ys) = f.counted link xs + (f.through link xs).counted link ys := by
  induction xs generalizing f with
  | nil => exact (Nat.zero_add _).symm
  | cons a xs ih => simp [counted, through, ih, Nat.add_assoc]

theorem replies_through (f : Feed) (link : Link) (arrivals : List Arrival) :
    (f.through link arrivals).replies = f.replies.after (framesOf arrivals) := by
  induction arrivals generalizing f with
  | nil => rfl
  | cons a rest ih =>
    unfold through
    rw [ih]
    cases a <;> rfl

/-! ## Counting -/

theorem acts_of_silent {frame : Bytes} (nothing : f.replies.remark link frame = none) :
    f.acts link (.frame frame) = [] := by
  simp [acts, nothing]

theorem acts_of_spoken {frame : Bytes} {e : Event} (spoken : f.replies.remark link frame = some e) :
    f.acts link (.frame frame) = [.input (.event e)] := by
  simp [acts, spoken]

theorem take_of_silent {frame : Bytes} (nothing : f.replies.remark link frame = none) :
    (f.take link (.frame frame)).docket = f.docket := by
  unfold take
  rw [acts_of_silent nothing]
  rfl

theorem take_of_spoken {frame : Bytes} {e : Event} (spoken : f.replies.remark link frame = some e) :
    (f.take link (.frame frame)).docket = f.docket.act (.input (.event e)) := by
  unfold take
  rw [acts_of_spoken spoken]
  rfl

/-- What a frame says is counted for the link's participant, if that owes an answer. -/
theorem entryOf_spoken {frame : Bytes} {e : Event} (spoken : f.replies.remark link frame = some e) :
    if f.Owes link then
      ∃ entry, f.docket.coordinator.entryOf e = some entry ∧ entry.id? = some link.id
    else f.docket.coordinator.entryOf e = none := by
  obtain ⟨notice, -, heard⟩ := Option.bind_eq_some_iff.mp spoken
  have about := Notice.about_of_event heard
  by_cases owes : f.Owes link
  · rw [if_pos owes]
    exact Coordinator.entryOf_of_owed about owes
  · rw [if_neg owes]
    exact Coordinator.entryOf_of_unowed about owes

/-- A frame is counted iff it says something and an answer is owed. -/
theorem counts_iff {frame : Bytes} : f.counts link (.frame frame) = true ↔
    (f.replies.remark link frame).isSome = true ∧ f.Owes link := by
  unfold counts
  cases spoken : f.replies.remark link frame with
  | none => simp [acts_of_silent spoken, Docket.scenes]
  | some e =>
    rw [acts_of_spoken spoken]
    have entry := entryOf_spoken spoken
    by_cases owes : f.Owes link
    · rw [if_pos owes] at entry
      obtain ⟨entry, entered, -⟩ := entry
      simp [Docket.scenes, Scene.entryOf, Coordinator.inputEntryOf, entered, owes]
    · rw [if_neg owes] at entry
      simp [Docket.scenes, Scene.entryOf, Coordinator.inputEntryOf, entry, owes]

theorem counted_of_silent (silent : f.replies.Silent link (framesOf arrivals)) :
    f.counted link arrivals = 0 := by
  induction arrivals generalizing f with
  | nil => rfl
  | cons a rest ih =>
    unfold counted
    cases a with
    | frame frame =>
      obtain ⟨nothing, later⟩ := silent
      have uncounted : f.counts link (.frame frame) = false := by
        rw [Bool.eq_false_iff, Ne, counts_iff, nothing]
        simp
      rw [uncounted, ih later]
      rfl
    | act a => exact (Nat.zero_add _).trans (ih silent)

/-! ## The budget -/

/-- How many answers the link's participant owes, none or one. -/
def debt (f : Feed) (link : Link) : Nat :=
  if f.Owes link then 1 else 0

theorem debt_of_owes (owes : f.Owes link) : f.debt link = 1 :=
  if_pos owes

theorem debt_of_not_owes (owes : ¬ f.Owes link) : f.debt link = 0 :=
  if_neg owes

theorem debt_le_one (f : Feed) (link : Link) : f.debt link ≤ 1 := by
  unfold debt
  split <;> decide

theorem countP_of_sent {d : Docket} {a : Act} {q : Link × Command} {id : ParticipantId}
    (sent : q ∈ (d.report a).effect.commands) (goes : q.1.id = id) :
    0 < (d.commandsOf [a]).countP (·.1.id == id) := by
  rw [List.countP_pos_iff]
  exact ⟨q, List.mem_append_left _ sent, beq_iff_eq.mpr goes⟩

theorem debt_le_of_act (settled : f.docket.coordinator.Settled) {g : Feed} {a : Act}
    (after : g.docket = f.docket.act a) :
    g.debt link ≤ f.debt link + (f.docket.commandsOf [a]).countP (·.1.id == link.id) := by
  by_cases owes : g.Owes link
  · have owed := owes
    unfold Owes at owed
    rw [after] at owed
    rcases Docket.owing_act settled owed with before | ⟨q, sent, goes⟩
    · rw [debt_of_owes owes, debt_of_owes before]
      exact Nat.le_add_right _ _
    · have some := countP_of_sent sent goes
      rw [debt_of_owes owes]
      omega
  · rw [debt_of_not_owes owes]
    exact Nat.zero_le _

/-- A frame that is counted pays the debt, so whatever is owed behind it comes from a command of
this very step. -/
theorem debt_of_counted (settled : f.docket.coordinator.Settled) (distinct : f.docket.owing.Nodup)
    {frame : Bytes} (counted : f.counts link (.frame frame) = true) :
    (f.take link (.frame frame)).debt link ≤
      (f.docket.commandsOf (f.acts link (.frame frame))).countP (·.1.id == link.id) := by
  obtain ⟨speaks, owes⟩ := counts_iff.mp counted
  obtain ⟨e, spoken⟩ := Option.isSome_iff_exists.mp speaks
  have entry := entryOf_spoken spoken
  rw [if_pos owes] at entry
  obtain ⟨entry, entered, named⟩ := entry
  rw [acts_of_spoken spoken]
  by_cases again : (f.take link (.frame frame)).Owes link
  · have owed := again
    unfold Owes at owed
    rw [take_of_spoken spoken] at owed
    obtain ⟨q, sent, goes⟩ :=
      Docket.sent_of_counted (i := .event e) settled distinct entered named owed
    rw [debt_of_owes again]
    exact countP_of_sent sent goes
  · rw [debt_of_not_owes again]
    exact Nat.zero_le _

/-- Counting uses a debt up, and only a command makes a new one. -/
theorem debt_take (settled : f.docket.coordinator.Settled) (distinct : f.docket.owing.Nodup)
    (link : Link) (a : Arrival) : (f.counts link a).toNat + (f.take link a).debt link ≤
      f.debt link + (f.docket.commandsOf (f.acts link a)).countP (·.1.id == link.id) := by
  by_cases counted : f.counts link a = true
  · cases a with
    | act a => exact absurd counted (by simp [counts])
    | frame frame =>
      have paid := debt_of_counted settled distinct counted
      rw [counted, debt_of_owes (counts_iff.mp counted).2, Bool.toNat_true]
      omega
  · rw [Bool.not_eq_true] at counted
    rw [counted, Bool.toNat_false, Nat.zero_add]
    cases a with
    | act a => exact debt_le_of_act settled rfl
    | frame frame =>
      -- what nobody is waiting for is an act like any other
      cases spoken : f.replies.remark link frame with
      | some e =>
        rw [acts_of_spoken spoken]
        exact debt_le_of_act settled (take_of_spoken spoken)
      | none =>
        have same : (f.take link (.frame frame)).debt link = f.debt link :=
          congrArg (fun d : Docket => if link.id ∈ d.owing then 1 else 0) (take_of_silent spoken)
        rw [same]
        exact Nat.le_add_right _ _

theorem settled_take (settled : f.docket.coordinator.Settled) (link : Link) (a : Arrival) :
    (f.take link a).docket.coordinator.Settled :=
  Docket.settled_live settled _

theorem nodup_take (settled : f.docket.coordinator.Settled) (distinct : f.docket.owing.Nodup)
    (link : Link) (a : Arrival) : (f.take link a).docket.owing.Nodup :=
  Docket.nodup_owing_live settled distinct _

/-- **Budget.** Whatever arrives, the frames that are counted are no more than the commands sent to
the link's participant, and one if it owed an answer before. -/
theorem counted_le (settled : f.docket.coordinator.Settled) (distinct : f.docket.owing.Nodup)
    (link : Link) (arrivals : List Arrival) : f.counted link arrivals ≤
      f.debt link + (f.sent link arrivals).countP (·.1.id == link.id) := by
  -- on what arrives: what is counted and the debt behind it never exceed the debt before and the
  -- commands of the step
  induction arrivals generalizing f with
  | nil => exact Nat.zero_le _
  | cons a rest ih =>
    have step := debt_take settled distinct link a
    have later := ih (settled_take settled link a) (nodup_take settled distinct link a)
    unfold counted sent
    rw [List.countP_append]
    omega

/-! ## One answer -/

theorem framesOf_append (xs ys : List Arrival) :
    framesOf (xs ++ ys) = framesOf xs ++ framesOf ys :=
  List.filterMap_append

/-- Where among the arrivals a frame comes. -/
theorem exists_of_framesOf {fs gs : List Bytes} {e : Bytes}
    (h : framesOf arrivals = fs ++ e :: gs) :
    ∃ xs ys, arrivals = xs ++ .frame e :: ys ∧ framesOf xs = fs ∧ framesOf ys = gs := by
  induction arrivals generalizing fs with
  | nil => simp [framesOf] at h
  | cons a rest ih =>
    cases a with
    | act a =>
      obtain ⟨xs, ys, rfl, before, behind⟩ := ih h
      exact ⟨.act a :: xs, ys, rfl, before, behind⟩
    | frame frame =>
      change frame :: framesOf rest = fs ++ e :: gs at h
      cases fs with
      | nil =>
        obtain ⟨rfl, behind⟩ := List.cons.inj h
        exact ⟨[], rest, rfl, rfl, behind⟩
      | cons f fs =>
        obtain ⟨rfl, later⟩ := List.cons.inj h
        obtain ⟨xs, ys, rfl, before, behind⟩ := ih later
        exact ⟨.frame frame :: xs, ys, rfl, congrArg _ before, behind⟩

theorem toNat_counts {frame : Bytes} (speaks : (f.replies.remark link frame).isSome = true) :
    (f.counts link (.frame frame)).toNat = f.debt link := by
  by_cases owes : f.Owes link
  · rw [counts_iff.mpr ⟨speaks, owes⟩, debt_of_owes owes]
    rfl
  · have uncounted : f.counts link (.frame frame) = false := by
      rw [Bool.eq_false_iff, Ne, counts_iff]
      exact fun both => owes both.2
    rw [uncounted, debt_of_not_owes owes]
    rfl

theorem counted_frame (f : Feed) (link : Link) (xs ys : List Arrival) (e : Bytes) :
    f.counted link (xs ++ .frame e :: ys) =
      f.counted link xs + (((f.through link xs).counts link (.frame e)).toNat +
        (f.through link (xs ++ [.frame e])).counted link ys) := by
  rw [counted_append, through_append]
  rfl

/-- An answer in which one frame at most speaks is counted once at most. -/
theorem counted_of_once (idle : f.replies = .idle) {fs gs : List Bytes} {e : Bytes}
    (h : framesOf arrivals = fs ++ e :: gs) (before : Reply.State.idle.Silent link fs)
    (behind : (Reply.State.idle.after (fs ++ [e])).Silent link gs) :
    f.counted link arrivals ≤ 1 := by
  obtain ⟨xs, ys, rfl, rfl, rfl⟩ := exists_of_framesOf h
  have none : f.counted link xs = 0 := counted_of_silent (idle ▸ before)
  have nothing : (f.through link (xs ++ [.frame e])).counted link ys = 0 := by
    apply counted_of_silent
    rw [replies_through, framesOf_append, idle]
    exact behind
  rw [counted_frame, none, nothing]
  exact (Nat.zero_add _).symm ▸ Bool.toNat_le _

/-- An answer in which two frames speak is counted as often as an answer is owed when they do. -/
theorem counted_of_twice (idle : f.replies = .idle) {xs ys zs : List Arrival} {e g : Bytes}
    (before : Reply.State.idle.Silent link (framesOf xs))
    (first : ((Reply.State.idle.after (framesOf xs)).remark link e).isSome = true)
    (between : (Reply.State.idle.after (framesOf xs ++ [e])).Silent link (framesOf ys))
    (second :
      ((Reply.State.idle.after (framesOf xs ++ e :: framesOf ys)).remark link g).isSome = true)
    (ended : framesOf zs = []) :
    f.counted link (xs ++ .frame e :: (ys ++ .frame g :: zs)) =
      (f.through link xs).debt link + (f.through link (xs ++ .frame e :: ys)).debt link := by
  -- Five pieces: silence, an answer, silence, an answer, and nothing behind it.
  have none : f.counted link xs = 0 := counted_of_silent (idle ▸ before)
  have nothing : (f.through link (xs ++ [.frame e])).counted link ys = 0 := by
    apply counted_of_silent
    rw [replies_through, framesOf_append, idle]
    exact between
  have last : ((f.through link (xs ++ [.frame e])).through link (ys ++ [.frame g])).counted
      link zs = 0 := by
    apply counted_of_silent
    rw [ended]
    trivial
  have there : (f.through link (xs ++ [.frame e])).through link ys =
      f.through link (xs ++ .frame e :: ys) := by
    rw [← through_append, List.append_assoc]
    rfl
  rw [counted_frame, counted_frame, none, nothing, last, there, toNat_counts, toNat_counts]
  · simp
  · rw [replies_through, framesOf_append, idle]
    exact second
  · rw [replies_through, idle]
    exact first

/-- The answer of a link between two answers is counted once at most, unless it is cut short behind
the end of its columns and an answer is owed both at that end and at the error. -/
theorem counted_le_one_iff (idle : f.replies = .idle) {answer : Answer} (complete : answer.Complete)
    (h : framesOf arrivals = answer.frames) :
    f.counted link arrivals ≤ 1 ↔
      ¬ ∃ xs e ys g zs, arrivals = xs ++ .frame e :: (ys ++ .frame g :: zs) ∧
        answer.cutBehind? = some (framesOf xs).length ∧ framesOf zs = [] ∧
        (f.through link xs).Owes link ∧ (f.through link (xs ++ .frame e :: ys)).Owes link := by
  cases (answer.shape link complete).1 with
  | once split before behind whole =>
    have atMost := counted_of_once idle (h.trans split) before behind
    constructor
    · rintro - ⟨xs, e, ys, g, zs, -, cut, -⟩
      rw [whole] at cut
      exact absurd cut (by simp)
    · exact fun _ => atMost
  | twice split before first between second cut =>
    rename_i fs gs a b
    constructor
    · rintro few ⟨xs, e, ys, g, zs, rfl, length, ended, owes, again⟩
      -- these are the two frames that speak
      have frames : framesOf xs ++ e :: (framesOf ys ++ [g]) = fs ++ a :: (gs ++ [b]) := by
        rw [← split, ← h, framesOf_append, ← ended]
        show _ = framesOf xs ++ e :: framesOf (ys ++ .frame g :: zs)
        rw [framesOf_append]
        show _ = framesOf xs ++ e :: (framesOf ys ++ g :: framesOf zs)
        rw [ended]
      have size : (framesOf xs).length = fs.length := by
        rw [cut] at length
        exact (Option.some.inj length).symm
      obtain ⟨rfl, behind⟩ := List.append_inj frames size
      obtain ⟨rfl, tail⟩ := List.cons.inj behind
      obtain ⟨rfl, last⟩ := List.append_inj' tail rfl
      obtain rfl := List.singleton_inj.mp last
      rw [counted_of_twice idle before first between second ended,
        debt_of_owes owes, debt_of_owes again] at few
      exact absurd few (by decide)
    · intro spared
      obtain ⟨xs, later, rfl, rfl, rest⟩ := exists_of_framesOf (h.trans split)
      obtain ⟨ys, zs, rfl, rfl, ended⟩ := exists_of_framesOf rest
      rw [counted_of_twice idle before first between second ended]
      by_cases owes : (f.through link xs).Owes link
      · have unowed : ¬ (f.through link (xs ++ .frame a :: ys)).Owes link :=
          fun again => spared ⟨xs, a, ys, b, zs, rfl, cut, ended, owes, again⟩
        rw [debt_of_not_owes unowed]
        exact debt_le_one _ _
      · rw [debt_of_not_owes owes, Nat.zero_add]
        exact debt_le_one _ _

/-- Between complete answers a link is between replies. -/
theorem idle_of_answers (idle : f.replies = .idle) {answers : List Answer}
    (complete : ∀ a ∈ answers, a.Complete)
    (h : framesOf arrivals = answers.flatMap Answer.frames) :
    (f.through link arrivals).replies = .idle := by
  rw [replies_through, idle, h]
  clear h
  induction answers with
  | nil => rfl
  | cons a rest ih =>
    rw [List.forall_mem_cons] at complete
    rw [List.flatMap_cons, Reply.State.after_append, (a.shape link complete.1).2]
    exact ih complete.2

theorem settled_through (settled : f.docket.coordinator.Settled) (link : Link)
    (arrivals : List Arrival) : (f.through link arrivals).docket.coordinator.Settled := by
  induction arrivals generalizing f with
  | nil => exact settled
  | cons a rest ih => exact ih (settled_take settled link a)

theorem nodup_through (settled : f.docket.coordinator.Settled) (distinct : f.docket.owing.Nodup)
    (link : Link) (arrivals : List Arrival) : (f.through link arrivals).docket.owing.Nodup := by
  induction arrivals generalizing f with
  | nil => exact distinct
  | cons a rest ih =>
    exact ih (settled_take settled link a) (nodup_take settled distinct link a)

/-! ## In the network -/

/-- A session that is new, with a link that is between replies. -/
def born (id : UInt64) (issuer : String) : Feed where
  docket := Docket.born id issuer
  replies := .idle

end Feed

namespace Network

variable {n : Network}

def role? (n : Network) (service : Nat) : Option Role :=
  (n.services[service]?).map Service.role

theorem role_hold (n : Network) (held service : Nat) :
    (n.hold held).role? service = n.role? service := by
  unfold role? hold updateService
  rw [List.getElem?_modify]
  cases n.services[service]? with
  | none => rfl
  | some s => by_cases here : held = service <;> simp [here]

/-- Holding backends changes neither the coordinator nor what a service does. -/
theorem holdAll_keeps (n : Network) (effect : Effect) (service : Nat) :
    (n.holdAll effect).coordinator = n.coordinator ∧
      (n.holdAll effect).role? service = n.role? service := by
  cases effect with
  | idle | conclude => exact ⟨rfl, rfl⟩
  | send commands =>
    induction commands generalizing n with
    | nil => exact ⟨rfl, rfl⟩
    | cons q rest ih =>
      obtain ⟨coordinator, role⟩ := ih (n.hold q.1.handle)
      exact ⟨coordinator, role.trans (role_hold n q.1.handle service)⟩

theorem handle_keeps (n : Network) (e : Event) (service : Nat) :
    (n.handle e).1.coordinator = (n.coordinator.handle e).1 ∧
      (n.handle e).1.role? service = n.role? service :=
  holdAll_keeps { n with coordinator := (n.coordinator.handle e).1 } _ service

/-- A frame that the network delivers to a backend to which the coordinator listens does to both
what it does in a feed. -/
theorem deliver_eq_take {service : Nat} {link : Link} {f : Feed}
    (role : n.role? service = some (.backend link f.replies .coordinator))
    (shared : n.coordinator = f.docket.coordinator) (frame : Bytes) :
    (n.deliver service frame).1.coordinator = (f.take link (.frame frame)).docket.coordinator ∧
      (n.deliver service frame).1.role? service =
        some (.backend link (f.take link (.frame frame)).replies .coordinator) := by
  obtain ⟨s, there, plays⟩ := Option.map_eq_some_iff.mp role
  -- the network once the backend's place in the answer has moved on
  let moved := n.updateService service fun s =>
    { s with role := .backend link (f.replies.hear frame).1 .coordinator }
  have place : moved.role? service =
      some (.backend link (f.replies.hear frame).1 .coordinator) := by
    simp [moved, role?, updateService, there]
  cases heard : Notice.ofFrame? frame (f.replies.hear frame).2 with
  | none =>
    have silent : f.replies.remark link frame = none := by
      simp [Reply.State.remark, heard]
    have delivered : (n.deliver service frame).1 = moved := by
      simp [deliver, there, plays, heard, moved]
    rw [delivered]
    refine ⟨?_, place⟩
    rw [Feed.take_of_silent silent]
    exact shared
  | some notice =>
    have delivered : (n.deliver service frame).1 = (moved.tell link .coordinator notice).1 := by
      simp only [deliver, there, plays, heard]
      cases notice <;> rfl
    rw [delivered]
    have spoken : f.replies.remark link frame = notice.event? link := by
      simp [Reply.State.remark, heard]
    cases told : notice.event? link with
    | none =>
      rw [told] at spoken
      have still : (moved.tell link .coordinator notice).1 = moved := by
        simp [tell, told]
      rw [still]
      refine ⟨?_, place⟩
      rw [Feed.take_of_silent spoken]
      exact shared
    | some e =>
      rw [told] at spoken
      have told : (moved.tell link .coordinator notice).1 = (moved.handle e).1 := by
        simp [tell, told]
      obtain ⟨coordinator, kept⟩ := moved.handle_keeps e service
      rw [told, coordinator, kept]
      refine ⟨?_, place⟩
      rw [Feed.take_of_spoken spoken]
      exact congrArg (fun c => (c.handle e).1) shared

end Network

/-- **What one answer settles.** Let anything happen to a session while a link of a backend brings
complete answers. The next answer, whatever happens between its frames, is counted once at most,
unless it is a result set that an error cuts short behind the end of its columns, and its
participant owes an answer at that end and owes one again at the error. Counted it is no more often
than commands are sent meanwhile, and once for the answer that was owed before. -/
theorem answer_counts_once_iff {id : UInt64} {issuer : String} {link : Link} {feed : Feed}
    {earlier arrivals : List Arrival} {answers : List Answer} {answer : Answer}
    (past : feed = (Feed.born id issuer).through link earlier)
    (stream : framesOf earlier = answers.flatMap Answer.frames)
    (whole : ∀ a ∈ answers, a.Complete) (complete : answer.Complete)
    (next : framesOf arrivals = answer.frames) :
    (feed.counted link arrivals ≤ 1 ↔
        ¬ ∃ xs e ys g zs, arrivals = xs ++ .frame e :: (ys ++ .frame g :: zs) ∧
          answer.cutBehind? = some (framesOf xs).length ∧ framesOf zs = [] ∧
          (feed.through link xs).Owes link ∧ (feed.through link (xs ++ .frame e :: ys)).Owes link) ∧
      feed.counted link arrivals ≤
        1 + (feed.sent link arrivals).countP (·.1.id == link.id) := by
  have settled : feed.docket.coordinator.Settled :=
    past ▸ Feed.settled_through (f := Feed.born id issuer) (Docket.settled_born id issuer) link
      earlier
  have distinct : feed.docket.owing.Nodup :=
    past ▸ Feed.nodup_through (f := Feed.born id issuer) (Docket.settled_born id issuer)
      List.nodup_nil link earlier
  have idle : feed.replies = .idle :=
    past ▸ Feed.idle_of_answers (f := Feed.born id issuer) rfl whole stream
  refine ⟨Feed.counted_le_one_iff idle complete next, ?_⟩
  have budget := Feed.counted_le settled distinct link arrivals
  have debt := feed.debt_le_one link
  omega

namespace Sample

/-- One row of one column. -/
def numbers : ResultSet where
  head := [1, 0, 0, 1, 1]
  columns := [[4, 0, 0, 2, 3, 0x64, 0x65, 0x66]]
  columnsEnd := [5, 0, 0, 3, 0xfe, 0, 0, 2, 0]
  rows := [[2, 0, 0, 4, 1, 0x31]]
  rowsEnd := [5, 0, 0, 5, 0xfe, 0, 0, 2, 0]

theorem numbers_wellFormed : numbers.WellFormed where
  head := by decide +kernel
  columns := by decide +kernel
  columnsEnd := by decide +kernel
  rows := by decide +kernel
  rowsEnd := by decide +kernel

/-- The error 1105, `busy`. -/
def busy : Bytes :=
  [13, 0, 0, 5, 0xff, 0x51, 0x04, 0x23, 0x48, 0x59, 0x30, 0x30, 0x30, 0x62, 0x75, 0x73, 0x79]

/-- An XA rollback of one shard in flight. -/
def revoked : Feed :=
  (Feed.born 7 "x").through shardA [.act (.attach shardA), .act (.setXa true), .act .rollback]

end Sample

open Sample in
/-- The case of a whole result set. It is counted where its columns end, and the command that is
sent then is still owed an answer when the rows are over. -/
theorem answer_counts_once_of_rows :
    revoked.counted shardA (numbers.frames.map .frame) ≤ 1 ∧
      (revoked.through shardA (numbers.frames.map .frame)).Owes shardA := by
  refine ⟨?_, by decide +kernel⟩
  have once := answer_counts_once_iff (show revoked = (Feed.born 7 "x").through _ _ from rfl)
    (show framesOf _ = ([] : List Answer).flatMap Answer.frames from rfl) (by simp)
    (show (Answer.rows numbers).Complete from numbers_wellFormed)
    (show framesOf (numbers.frames.map .frame) = _ from rfl)
  apply once.1.mpr
  rintro ⟨xs, e, ys, g, zs, -, cut, -⟩
  exact absurd cut (by simp [Answer.cutBehind?])

open Sample in
/-- **An answer that settles two.** A result set answers the rollback, and an error behind its row
is taken for the answer to the retry. -/
theorem cut_answer_counts_twice :
    (Answer.cut numbers 4 busy).Complete ∧
      revoked.counted shardA ((Answer.cut numbers 4 busy).frames.map .frame) = 2 :=
  ⟨⟨numbers_wellFormed, by decide +kernel, by decide +kernel⟩, by decide +kernel⟩

end AtomicCommit
