import AtomicCommit.Proofs.Literal
import AtomicCommit.Proofs.Scene
import Mathlib.Algebra.Group.Nat.Defs

/-!
# Whose transaction an XA command is about

The global id of an XA operation is made of its session's issuer, the session's id and a number
that the session draws when the operation begins. An issuer is any text, with dots and digits as it
likes; the id can still be taken apart again, from its end. A life is divided into *errands*, one
for each operation that begins in it, with the commands sent until the next one begins.

* **reading** — `Xid.ofSession_inj`, `Command.Names.unique`: an id tells what it was made of, and
  the text of a command tells its id and its qualifier.
* **counting** — `numbering_act`: a session's numbers go up by one for every number drawn, and
  nothing else touches what its ids are made of.
* **wording** — `Errand.worded_of_mem`: what is sent for an operation names its id throughout.
* **families** — `Biography.ordinal_unique`: no two operations of a life have the same id, and those
  of different sessions differ by the session's id.
-/

namespace AtomicCommit

open Wire

/-! ## Taking ids apart -/

/-- Where two lists agree, what stands behind their last separators agrees. -/
theorem cut_at_last {α : Type} {sep : α} {xs ys front back : List α} (hxs : sep ∉ xs)
    (hys : sep ∉ ys) (same : front ++ sep :: xs = back ++ sep :: ys) : front = back ∧ xs = ys := by
  rcases List.append_eq_append_iff.mp same with ⟨between, rfl, right⟩ | ⟨between, rfl, right⟩
  · cases between with
    | nil => simpa using right
    | cons first between =>
      -- the later separator would stand behind the last one
      obtain ⟨-, rfl⟩ := List.cons.inj right
      exact absurd (List.mem_append_right between List.mem_cons_self) hxs
  · cases between with
    | nil => simpa using right.symm
    | cons first between =>
      obtain ⟨-, rfl⟩ := List.cons.inj right
      exact absurd (List.mem_append_right between List.mem_cons_self) hys

/-- A number is written without dots. -/
theorem dot_notMem_digits (n : Nat) : '.' ∉ Nat.toDigits 10 n := by
  intro dot
  have digit := Nat.isDigit_of_mem_toDigits (by decide) (by decide) dot
  exact absurd digit (by decide)

theorem digits_inj {m n : Nat} (same : Nat.toDigits 10 m = Nat.toDigits 10 n) : m = n := by
  have values := congrArg (Nat.ofDigitChars 10 · 0) same
  simpa only [Nat.ofDigitChars_ten_toDigits] using values

namespace Wire

theorem Xid.toList_ofSession (issuer : String) (sessionId sequence : UInt64) :
    (Xid.ofSession issuer sessionId sequence).global.toList =
      (issuer.toList ++ '.' :: Nat.toDigits 10 sessionId.toNat) ++
        '.' :: Nat.toDigits 10 sequence.toNat := by
  show (issuer ++ "." ++ sessionId.toNat.repr ++ "." ++ sequence.toNat.repr).toList = _
  simp only [String.toList_append, List.append_assoc, Nat.repr_eq_ofList_toDigits,
    String.toList_ofList]
  rfl

/-- **Reading.** A global id tells what it was made of, whatever its issuer looks like. -/
theorem Xid.ofSession_inj {issuer issuer' : String} {sessionId sessionId' n n' : UInt64}
    (same : Xid.ofSession issuer sessionId n = Xid.ofSession issuer' sessionId' n') :
    issuer = issuer' ∧ sessionId = sessionId' ∧ n = n' := by
  have texts := congrArg (fun xid => xid.global.toList) same
  simp only [Xid.toList_ofSession] at texts
  obtain ⟨fronts, numbers⟩ := cut_at_last (dot_notMem_digits _) (dot_notMem_digits _) texts
  obtain ⟨issuers, ids⟩ := cut_at_last (dot_notMem_digits _) (dot_notMem_digits _) fronts
  refine ⟨String.toList_inj.mp issuers, ?_, ?_⟩
  · exact UInt64.toNat_inj.mp (digits_inj ids)
  · exact UInt64.toNat_inj.mp (digits_inj numbers)

/-! ## Taking commands apart -/

/-- The text of a command names this branch. -/
def Command.Names (command : Command) (xid : Xid) (qualifier : String) : Prop :=
  command.sql = command.kind.keyword ++ " " ++ xid.branch qualifier

/-- A command names one branch at most. -/
theorem Command.Names.unique {command : Command} {xid xid' : Xid} {qualifier qualifier' : String}
    (names : command.Names xid qualifier) (names' : command.Names xid' qualifier') :
    xid = xid' ∧ qualifier = qualifier' := by
  unfold Names at names'
  rw [names, ← String.toList_inj] at names'
  simp only [String.toList_append] at names'
  exact Xid.branch_inj (String.toList_inj.mp (List.append_cancel_left names'))

/-- A worded XA command names the branch it was worded for. -/
theorem Command.names_of_ofKind {command : Command} {xid : Option Xid} {qualifier : String}
    (worded : Command.ofKind command.kind xid qualifier = .ok command)
    (isXa : command.kind.isXa = true) : ∃ x, xid = some x ∧ command.Names x qualifier := by
  unfold Command.ofKind at worded
  rw [if_pos isXa] at worded
  cases xid with
  | none => exact absurd worded (by simp)
  | some x => exact ⟨x, rfl, (congrArg Command.sql (Except.ok.inj worded)).symm⟩

end Wire

/-! ## What ids are made of -/

/-- What the transaction ids of a session are made of. -/
structure Numbering where
  issuer : String
  sessionId : UInt64
  /-- How many numbers were drawn, as a machine word. -/
  drawn : UInt64
  deriving DecidableEq, Repr

namespace Numbering

/-- The numbering when so many more numbers have been drawn. -/
def past (n : Numbering) (count : Nat) : Numbering :=
  { n with drawn := n.drawn + UInt64.ofNat count }

/-- The id that the draw with this ordinal makes, counted from here. -/
def xid (n : Numbering) (ordinal : Nat) : Xid :=
  Xid.ofSession n.issuer n.sessionId (n.drawn + UInt64.ofNat ordinal)

@[simp] theorem past_zero (n : Numbering) : n.past 0 = n := by
  simp [past]

theorem xid_past (n : Numbering) (count ordinal : Nat) :
    (n.past count).xid ordinal = n.xid (count + ordinal) := by
  simp only [xid, past, UInt64.ofNat_add, UInt64.add_assoc]

theorem xid_inj {n : Numbering} {j k : Nat} (hj : j < 2 ^ 64) (hk : k < 2 ^ 64)
    (same : n.xid j = n.xid k) : j = k := by
  obtain ⟨-, -, numbers⟩ := Xid.ofSession_inj same
  have words := congrArg UInt64.toNat ((UInt64.add_right_inj _).mp numbers)
  rwa [UInt64.toNat_ofNat_of_lt' hj, UInt64.toNat_ofNat_of_lt' hk] at words

end Numbering

def Session.numbering (s : Session) : Numbering where
  issuer := s.xidIssuer
  sessionId := s.id
  drawn := s.xaSequence

/-- The stage of the operation that an act asks for. -/
def Act.asked? (s : Session) : Act → Option Stage
  | .begin stage => some stage
  | .commit => some (Stage.initial s.xa .commit)
  | .rollback => some (Stage.initial s.xa .rollback)
  | _ => none

namespace Docket

variable {d : Docket} {a : Act} {s : Stage}

def numbering (d : Docket) : Numbering :=
  d.coordinator.session.numbering

/-- The stage of the operation that an act begins. While one is in flight, none is begun. -/
def opening? (d : Docket) (a : Act) : Option Stage :=
  if d.coordinator.inFlight then none else a.asked? d.coordinator.session

/-- Whether an act draws a number: the start of an XA operation does, and so may anyone else. -/
def draws (d : Docket) (a : Act) : Bool :=
  a == .takeXaSequence || (d.opening? a).any (·.command.isXa)

def drawnIn (d : Docket) : List Act → Nat
  | [] => 0
  | a :: rest => (d.draws a).toNat + (d.act a).drawnIn rest

end Docket

/-! ## Counting the draws -/

namespace Coordinator

theorem numbering_handle {c : Coordinator} (settled : c.Settled) (e : Event) :
    (c.handle e).1.session.numbering = c.session.numbering := by
  obtain ⟨on, same⟩ := session_handle settled e
  rw [same]
  cases e <;> rfl

theorem numbering_begin {c : Coordinator} (idle : c.operation.stage = none) (s : Stage) :
    (c.begin s).1.session.numbering = c.session.numbering.past s.command.isXa.toNat := by
  rw [begin_eq_follow idle]
  obtain ⟨on, same⟩ := (c.fresh s).session_follow (.enter s) none
  dsimp only
  rw [same]
  show (c.fresh s).session.numbering = _
  unfold fresh
  cases s.command.isXa with
  | true => rfl
  | false => exact (Numbering.past_zero _).symm

theorem numbering_conclude (c : Coordinator) (verdict : Verdict) :
    (c.conclude verdict).1.session.numbering = c.session.numbering := by
  unfold conclude
  dsimp only
  split <;> rfl

end Coordinator

namespace Docket

variable {d : Docket} {a : Act} {s : Stage} {acts : List Act}

theorem numbering_step (settled : d.coordinator.Settled) (i : Input) :
    (d.step i).1.numbering = d.numbering := by
  cases i with
  | event e => exact Coordinator.numbering_handle settled e
  | interrupt reason =>
    simp only [step, Coordinator.interrupt]
    split
    · rename_i accepted
      repeat' split at accepted
      all_goals cases accepted
      all_goals rfl
    · rfl
  | tell =>
    simp only [step]
    split
    · rfl
    · exact Coordinator.numbering_conclude _ _
  | closeSession | clientClosed => rfl

theorem opening?_of_running (running : d.coordinator.Running s) (a : Act) :
    d.opening? a = none := by
  simp [opening?, Coordinator.inFlight, running.stage]

/-- An act that begins an operation hands its stage to the coordinator. -/
theorem idle_of_opening (opens : d.opening? a = some s) :
    d.coordinator.operation.stage = none ∧ d.act a = d.begun (d.coordinator.begin s) ∧
      (d.report a).effect = begunEffect (d.coordinator.begin s).2 ∧ a ≠ .takeXaSequence := by
  unfold opening? at opens
  split at opens
  · exact absurd opens (by simp)
  · rename_i idle
    refine ⟨by simpa [Coordinator.inFlight] using idle, ?_⟩
    cases a with
    | begin stage | commit | rollback =>
      obtain rfl := Option.some.inj opens
      exact ⟨rfl, rfl, by simp⟩
    | _ => exact absurd opens (by simp [Act.asked?])

/-- A call that asks for an operation and begins none changes nothing. -/
theorem begun_of_refused (settled : d.coordinator.Settled) (refused : d.opening? a = none)
    (asked : a.asked? d.coordinator.session = some s) : d.begun (d.coordinator.begin s) = d := by
  rcases settled with ⟨current, running⟩ | rest
  · rw [Coordinator.begin_of_inFlight running.stage]
    rfl
  · have idle : d.coordinator.operation = {} := rest
    simp [opening?, Coordinator.inFlight, idle, asked] at refused

theorem numbering_begun (out : Coordinator × Except Fault Effect) :
    (d.begun out).numbering = out.1.session.numbering := by
  obtain ⟨c, _ | effect⟩ := out <;> rfl

/-- **Counting.** A session's ids are made of the same things throughout, but for the number drawn
last. -/
theorem numbering_act (settled : d.coordinator.Settled) (a : Act) :
    (d.act a).numbering = d.numbering.past (d.draws a).toNat := by
  cases opens : d.opening? a with
  | some s =>
    obtain ⟨idle, same, -, other⟩ := idle_of_opening opens
    have plain : (a == .takeXaSequence) = false := beq_eq_false_iff_ne.mpr other
    rw [same, numbering_begun, Coordinator.numbering_begin idle, draws, opens, plain]
    rfl
  | none =>
    rw [draws, opens, Option.any_none, Bool.or_false]
    cases a with
    | takeXaSequence => rfl
    | begin stage | commit | rollback =>
      exact (congrArg numbering (begun_of_refused settled opens rfl)).trans
        (Numbering.past_zero _).symm
    | input i => exact (numbering_step settled i).trans (Numbering.past_zero _).symm
    | attach link =>
      refine Eq.trans ?_ (Numbering.past_zero _).symm
      show (d.coordinator.session.attach link).numbering = _
      unfold Session.attach
      dsimp only
      split <;> split <;> rfl
    | _ => exact (Numbering.past_zero _).symm

end Docket

/-! ## Errands -/

/-- One operation of a life: its transaction id, and the commands sent for it. -/
structure Errand where
  xid : Option Xid
  commands : List (Link × Command)
  deriving DecidableEq, Repr

namespace Docket

variable {d : Docket} {a : Act} {s : Stage}

/-- The commands sent before another operation begins. -/
def pursuit (d : Docket) : List Act → List (Link × Command)
  | [] => []
  | a :: rest =>
    if (d.opening? a).isSome then [] else (d.report a).effect.commands ++ (d.act a).pursuit rest

/-- The operations that begin in a life, in order. -/
def errands (d : Docket) : List Act → List Errand
  | [] => []
  | a :: rest =>
    match d.opening? a with
    | none => (d.act a).errands rest
    | some s =>
      { xid := (d.coordinator.fresh s).operation.xid
        commands := (d.report a).effect.commands ++ (d.act a).pursuit rest } ::
        (d.act a).errands rest

theorem errands_of_opening (opens : d.opening? a = some s) (rest : List Act) :
    d.errands (a :: rest) =
      { xid := (d.coordinator.fresh s).operation.xid
        commands := (d.report a).effect.commands ++ (d.act a).pursuit rest } ::
        (d.act a).errands rest := by
  simp only [errands, opens]

theorem errands_of_none (opens : d.opening? a = none) (rest : List Act) :
    d.errands (a :: rest) = (d.act a).errands rest := by
  simp only [errands, opens]

theorem pursuit_of_none (opens : d.opening? a = none) (rest : List Act) :
    d.pursuit (a :: rest) = (d.report a).effect.commands ++ (d.act a).pursuit rest := by
  simp [pursuit, opens]

theorem pursuit_of_opening (opens : d.opening? a = some s) (rest : List Act) :
    d.pursuit (a :: rest) = [] := by
  simp [pursuit, opens]

/-- No command is sent outside of the errands, but for those of an operation in flight before. -/
theorem commandsOf_eq_errands (d : Docket) (acts : List Act) :
    d.commandsOf acts = d.pursuit acts ++ (d.errands acts).flatMap Errand.commands := by
  induction acts generalizing d with
  | nil => rfl
  | cons a rest ih =>
    rw [commandsOf_cons, ih]
    cases opens : d.opening? a with
    | none => rw [pursuit_of_none opens, errands_of_none opens, List.append_assoc]
    | some s =>
      rw [pursuit_of_opening opens, errands_of_opening opens, List.flatMap_cons,
        List.append_assoc, List.nil_append]

/-! ## Wording -/

/-- The command is worded for this transaction id and for its own participant. -/
def WordedFor (xid : Option Xid) (p : Link × Command) : Prop :=
  Command.ofKind p.2.kind xid p.1.id.shard = .ok p.2

theorem wordedFor_of_orders {c : Coordinator} {t : Stage}
    (fits : c.operation.xid.isSome = t.command.isXa) {p : Link × Command} (sent : p ∈ c.orders t) :
    WordedFor c.operation.xid p := by
  obtain ⟨link, -, rfl⟩ := List.mem_map.mp sent
  exact Command.ofKind_eq_worded link.id.shard fits

/-- At rest nothing is sent until an operation begins. -/
theorem act_of_atRest (rest : d.coordinator.AtRest) (opens : d.opening? a = none) :
    (d.report a).effect.commands = [] ∧ (d.act a).coordinator.AtRest := by
  have unasked : a.asked? d.coordinator.session = none := by
    have idle : d.coordinator.operation = {} := rest
    simpa [opening?, Coordinator.inFlight, idle] using opens
  cases a with
  | begin stage | commit | rollback => exact absurd unasked (by simp [Act.asked?])
  | input i =>
    obtain ⟨idle, rests⟩ := step_of_atRest rest i
    exact ⟨congrArg Effect.commands idle, rests⟩
  | _ => exact ⟨rfl, rest⟩

theorem pursuit_of_atRest (rest : d.coordinator.AtRest) (acts : List Act) :
    d.pursuit acts = [] := by
  induction acts generalizing d with
  | nil => rfl
  | cons a others ih =>
    cases opens : d.opening? a with
    | none =>
      obtain ⟨nothing, rests⟩ := act_of_atRest rest opens
      rw [pursuit_of_none opens, nothing, ih rests]
      rfl
    | some s => exact pursuit_of_opening opens others

/-- While a stage is running, whatever is sent is worded for its operation, which keeps its id
until it is over. -/
theorem act_of_running (running : d.coordinator.Running s) (a : Act) :
    (∀ p ∈ (d.report a).effect.commands, WordedFor d.coordinator.operation.xid p) ∧
      ((∃ t, (d.act a).coordinator.Running t ∧
        (d.act a).coordinator.operation.xid = d.coordinator.operation.xid) ∨
      (d.act a).coordinator.AtRest) := by
  cases a with
  | begin stage | commit | rollback =>
    -- refused, since an operation is in flight
    have nothing : ∀ t, (begunEffect (d.coordinator.begin t).2).commands = [] ∧
        (d.begun (d.coordinator.begin t)).coordinator = d.coordinator := by
      intro t
      rw [Coordinator.begin_of_inFlight running.stage]
      exact ⟨rfl, rfl⟩
    obtain ⟨none, same⟩ := nothing _
    refine ⟨fun p sent => absurd (none ▸ sent) List.not_mem_nil, .inl ⟨s, ?_⟩⟩
    exact ⟨same.symm ▸ running, congrArg (·.operation.xid) same⟩
  | input i =>
    have kept := xid_absorb running i
    rcases step_turn running i with stays | leaves
    · have nothing : (d.report (.input i)).effect.commands = [] :=
        congrArg Effect.commands stays.effect
      refine ⟨by simp [nothing], .inl ⟨s, stays.running, ?_⟩⟩
      exact (congrArg (·.operation.xid) stays.after).trans kept
    · rcases leaves.lands running with ⟨t, next, after, effect, lands⟩ | ⟨⟨v, effect⟩, rests, -⟩
      · have sends : (d.report (.input i)).effect.commands = (d.absorb i).orders t :=
          congrArg Effect.commands effect
        rw [sends, ← kept]
        have fits : (d.absorb i).operation.xid.isSome = t.command.isXa := by
          rw [kept, Stage.isXa_of_next next]
          exact running.fits
        exact ⟨fun p sent => wordedFor_of_orders fits sent,
          .inl ⟨t, lands, congrArg (·.operation.xid) after⟩⟩
      · have nothing : (d.report (.input i)).effect.commands = [] :=
          congrArg Effect.commands effect
        exact ⟨by simp [nothing], .inr rests⟩
  | _ =>
    refine ⟨fun p sent => absurd sent List.not_mem_nil, .inl ⟨s, ?_, rfl⟩⟩
    exact ⟨running.stage, running.waiting, running.fits⟩

/-- Whatever is sent before another operation begins is worded for the one in flight. -/
theorem worded_of_mem_pursuit {acts : List Act} (running : d.coordinator.Running s)
    {p : Link × Command} (sent : p ∈ d.pursuit acts) :
    WordedFor d.coordinator.operation.xid p := by
  induction acts generalizing d s with
  | nil => exact absurd sent List.not_mem_nil
  | cons a rest ih =>
    rw [pursuit_of_none (opening?_of_running running a), List.mem_append] at sent
    obtain ⟨worded, lands⟩ := act_of_running running a
    rcases sent with now | later
    · exact worded p now
    · rcases lands with ⟨t, next, same⟩ | rests
      · exact same ▸ ih next later
      · rw [pursuit_of_atRest rests] at later
        exact absurd later List.not_mem_nil

/-- An operation that begins has its first stage running, or is over at once. -/
theorem act_of_opening (opens : d.opening? a = some s) :
    ((d.act a).coordinator.Running s ∧
        (d.act a).coordinator.operation.xid = (d.coordinator.fresh s).operation.xid ∧
        (d.report a).effect.commands = (d.coordinator.fresh s).orders s) ∨
      (d.act a).coordinator.AtRest ∧ (d.report a).effect.commands = [] := by
  obtain ⟨idle, act, report, -⟩ := idle_of_opening opens
  rw [Coordinator.begin_eq_follow idle] at act report
  rw [act, report]
  by_cases nobody : s.targets (d.coordinator.fresh s).session.participantIds = []
  · rw [Coordinator.follow_of_nobody nobody]
    exact .inr ⟨rfl, rfl⟩
  · rw [Coordinator.follow_of_somebody nobody]
    have fits := Coordinator.xid_fresh d.coordinator s
    exact .inl ⟨Coordinator.running_landed fits nobody, rfl, rfl⟩

/-- **Wording.** Whatever is sent for an operation is worded for its id. -/
theorem worded_of_mem_errands {acts : List Act} (settled : d.coordinator.Settled) {e : Errand}
    (here : e ∈ d.errands acts) {p : Link × Command} (sent : p ∈ e.commands) :
    WordedFor e.xid p := by
  induction acts generalizing d with
  | nil => exact absurd here List.not_mem_nil
  | cons a rest ih =>
    cases opens : d.opening? a with
    | none =>
      rw [errands_of_none opens] at here
      exact ih (settled_act settled a) here
    | some s =>
      rw [errands_of_opening opens] at here
      rcases List.mem_cons.mp here with rfl | later
      · dsimp only at sent ⊢
        rcases act_of_opening opens with ⟨running, xid, orders⟩ | ⟨rests, nothing⟩
        · rw [orders, List.mem_append] at sent
          rcases sent with now | later
          · exact wordedFor_of_orders (Coordinator.xid_fresh d.coordinator s) now
          · exact xid ▸ worded_of_mem_pursuit running later
        · rw [nothing, pursuit_of_atRest rests] at sent
          exact absurd sent List.not_mem_nil
      · exact ih (settled_act settled a) later

/-! ## Distinct ids -/

/-- An operation has an id if its commands are XA commands. Its number is the one drawn for it. -/
theorem xid_of_opening (opens : d.opening? a = some s) {xid : Xid}
    (named : (d.coordinator.fresh s).operation.xid = some xid) :
    (d.draws a).toNat = 1 ∧ xid = d.numbering.xid 1 := by
  have isXa : s.command.isXa = true := by
    rw [← Coordinator.xid_fresh, named]
    rfl
  refine ⟨by simp [draws, opens, isXa], ?_⟩
  simp only [Coordinator.fresh, isXa, if_true] at named
  exact (Option.some.inj named).symm

/-- The numbers of the operations of a life are among those drawn in it. -/
theorem exists_ordinal {acts : List Act} (settled : d.coordinator.Settled) {e : Errand} {xid : Xid}
    (here : e ∈ d.errands acts) (named : e.xid = some xid) :
    ∃ k, 0 < k ∧ k ≤ d.drawnIn acts ∧ xid = d.numbering.xid k := by
  induction acts generalizing d with
  | nil => exact absurd here List.not_mem_nil
  | cons a rest ih =>
    have further : e ∈ (d.act a).errands rest →
        ∃ k, 0 < k ∧ k ≤ d.drawnIn (a :: rest) ∧ xid = d.numbering.xid k := by
      intro later
      obtain ⟨k, positive, bound, rfl⟩ := ih (settled_act settled a) later
      refine ⟨(d.draws a).toNat + k, by omega, Nat.add_le_add_left bound _, ?_⟩
      rw [numbering_act settled, Numbering.xid_past]
    cases opens : d.opening? a with
    | none =>
      rw [errands_of_none opens] at here
      exact further here
    | some s =>
      rw [errands_of_opening opens] at here
      rcases List.mem_cons.mp here with rfl | later
      · obtain ⟨drawn, rfl⟩ := xid_of_opening opens named
        exact ⟨1, Nat.one_pos, by simp [drawnIn, drawn], rfl⟩
      · exact further later

/-- No two operations of a life have the same id, unless its numbers come round. -/
theorem pairwise_errands {acts : List Act} (settled : d.coordinator.Settled)
    (few : d.drawnIn acts < 2 ^ 64) :
    (d.errands acts).Pairwise fun e f => ∀ xid, e.xid = some xid → f.xid ≠ some xid := by
  induction acts generalizing d with
  | nil => exact List.Pairwise.nil
  | cons a rest ih =>
    have later := ih (settled_act settled a) (Nat.lt_of_le_of_lt (Nat.le_add_left _ _) few)
    cases opens : d.opening? a with
    | none =>
      rw [errands_of_none opens]
      exact later
    | some s =>
      rw [errands_of_opening opens]
      refine List.pairwise_cons.mpr ⟨?_, later⟩
      intro f behind xid named same
      obtain ⟨drawn, rfl⟩ := xid_of_opening opens named
      obtain ⟨k, positive, bound, clash⟩ := exists_ordinal (settled_act settled a) behind same
      rw [numbering_act settled, Numbering.xid_past, drawn] at clash
      simp only [drawnIn, drawn] at few
      -- the first number of all, and one drawn after it
      have := Numbering.xid_inj (by omega) (by omega) clash
      omega

end Docket

/-! ## Families of sessions -/

/-- A session with what happens to it from its birth. -/
structure Biography where
  id : UInt64
  issuer : String
  acts : List Act
  deriving DecidableEq, Repr

namespace Biography

def errands (b : Biography) : List Errand :=
  (Docket.born b.id b.issuer).errands b.acts

def commands (b : Biography) : List (Link × Command) :=
  (Docket.born b.id b.issuer).commandsOf b.acts

def drawn (b : Biography) : Nat :=
  (Docket.born b.id b.issuer).drawnIn b.acts

theorem commands_eq_errands (b : Biography) :
    b.commands = b.errands.flatMap Errand.commands := by
  have rest : (Docket.born b.id b.issuer).coordinator.AtRest := rfl
  rw [commands, Docket.commandsOf_eq_errands, Docket.pursuit_of_atRest rest]
  rfl

theorem names_of_mem_errands {b : Biography} {e : Errand} (here : e ∈ b.errands)
    {p : Link × Command} (sent : p ∈ e.commands) (isXa : p.2.kind.isXa = true) :
    ∃ xid, e.xid = some xid ∧ p.2.Names xid p.1.id.shard :=
  Command.names_of_ofKind
    (Docket.worded_of_mem_errands (Docket.settled_born b.id b.issuer) here sent) isXa

theorem exists_number {b : Biography} {e : Errand} (here : e ∈ b.errands) {xid : Xid}
    (named : e.xid = some xid) : ∃ n, xid = Xid.ofSession b.issuer b.id n := by
  obtain ⟨k, -, -, made⟩ :=
    Docket.exists_ordinal (Docket.settled_born b.id b.issuer) here named
  exact ⟨_, made⟩

theorem ordinal_unique {b : Biography} (few : b.drawn < 2 ^ 64) {k l : Nat} {e f : Errand}
    (he : b.errands[k]? = some e) (hf : b.errands[l]? = some f) {xid : Xid}
    (named : e.xid = some xid) (same : f.xid = some xid) : k = l := by
  have pairs := List.pairwise_iff_getElem.mp
    (Docket.pairwise_errands (Docket.settled_born b.id b.issuer) few)
  obtain ⟨hk, rfl⟩ := List.getElem?_eq_some_iff.mp he
  obtain ⟨hl, rfl⟩ := List.getElem?_eq_some_iff.mp hf
  rcases Nat.lt_trichotomy k l with before | rfl | behind
  · exact absurd same (pairs k l hk hl before xid named)
  · rfl
  · exact absurd named (pairs l k hl hk behind xid same)

end Biography

/-- **Every XA command names its own operation.** Take sessions with distinct ids, with any issuers
and any lives in which less than `2 ^ 64` numbers are drawn. The text of an XA command names the
global id of the operation that it is sent for, and the participant that it is sent to. Operations
of different sessions, and different operations of one session, have different global ids, since an
id tells what it was made of. -/
theorem operations_are_told_apart {ι : Type} {lives : ι → Biography}
    (distinct : ∀ i j, (lives i).id = (lives j).id → i = j)
    (few : ∀ i, (lives i).drawn < 2 ^ 64) :
    (∀ {issuer issuer' : String} {sessionId sessionId' n n' : UInt64},
        Xid.ofSession issuer sessionId n = Xid.ofSession issuer' sessionId' n' →
        issuer = issuer' ∧ sessionId = sessionId' ∧ n = n') ∧
      (∀ i, (lives i).commands = (lives i).errands.flatMap Errand.commands) ∧
      (∀ i, ∀ e ∈ (lives i).errands, ∀ p ∈ e.commands, p.2.kind.isXa = true →
        ∃ xid, e.xid = some xid ∧ p.2.Names xid p.1.id.shard) ∧
      ∀ {i j : ι} {k l : Nat} {e f : Errand} {xid : Xid},
        (lives i).errands[k]? = some e → (lives j).errands[l]? = some f →
        e.xid = some xid → f.xid = some xid → i = j ∧ k = l := by
  refine ⟨Xid.ofSession_inj, fun i => (lives i).commands_eq_errands, ?_, ?_⟩
  · intro i e here p sent isXa
    exact Biography.names_of_mem_errands here sent isXa
  · intro i j k l e f xid he hf named same
    obtain ⟨n, made⟩ := Biography.exists_number (List.mem_of_getElem? he) named
    obtain ⟨m, made'⟩ := Biography.exists_number (List.mem_of_getElem? hf) same
    obtain ⟨-, ids, -⟩ := Xid.ofSession_inj (made.symm.trans made')
    obtain rfl := distinct i j ids
    exact ⟨rfl, Biography.ordinal_unique (few i) he hf named same⟩

namespace Sample

/-- A transaction of one shard, committed. -/
def errand : List Act :=
  [.attach shardA, .setXa true, .commit, .input (ok shardA), .input (ok shardA),
    .input (ok shardA), .input .tell]

/-- Session 7 of `x`, and session 1 of an issuer that looks like it. -/
def lookAlike : Bool → Biography
  | false => { id := 7, issuer := "x", acts := errand ++ errand }
  | true => { id := 1, issuer := "x.7", acts := errand }

end Sample

open Sample in
/-- The case of two sessions whose issuers, with what follows them, look alike. -/
theorem look_alikes_are_told_apart :
    ((∀ i j, (lookAlike i).id = (lookAlike j).id → i = j) ∧ ∀ i, (lookAlike i).drawn < 2 ^ 64) ∧
      (lookAlike false).errands.map Errand.xid = [some ⟨"x.7.1"⟩, some ⟨"x.7.2"⟩] ∧
      (lookAlike true).errands.map Errand.xid = [some ⟨"x.7.1.1"⟩] ∧
      ∀ {i j : Bool} {k l : Nat} {e f : Errand} {xid : Xid},
        (lookAlike i).errands[k]? = some e → (lookAlike j).errands[l]? = some f →
        e.xid = some xid → f.xid = some xid → i = j ∧ k = l := by
  have distinct : ∀ i j, (lookAlike i).id = (lookAlike j).id → i = j := by decide
  have few : ∀ i, (lookAlike i).drawn < 2 ^ 64 := by decide +kernel
  exact ⟨⟨distinct, few⟩, by decide +kernel, by decide +kernel,
    (operations_are_told_apart distinct few).2.2.2⟩

end AtomicCommit
