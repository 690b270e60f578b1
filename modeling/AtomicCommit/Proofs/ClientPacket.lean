import AtomicCommit.Proofs.Framing
import AtomicCommit.Proofs.Life
import AtomicCommit.Proofs.Prospect

/-!
# What the client is sent

An operation tells its client at most once: by the first interrupt, or else when its verdict is
told. `Docket.voice` counts the packets that may still be written. No step adds to it, and a step
that writes takes one away, so an operation, which begins with a voice of one, writes at most one
packet. On a session that stays open it does write it before its verdict is told, with the next
sequence id: an ERR packet if it was interrupted or failed, and an OK packet otherwise.

* **step** — `Docket.voice_step`; **run** — `Docket.voice_run`.
* **operation** — `one_packet`.
-/

namespace AtomicCommit

open Wire

/-! ## Voices -/

namespace Coordinator

/-- One, if the operation in flight has not told the client anything. -/
def voice (c : Coordinator) : Nat :=
  if c.operation.stage.isSome && c.operation.interrupted.isNone then 1 else 0

end Coordinator

/-- How many of these verdicts the client is still to be told. -/
def voices (verdicts : List Verdict) : Nat :=
  verdicts.countP fun verdict => !verdict.interrupted

@[simp] theorem voices_append (first second : List Verdict) :
    voices (first ++ second) = voices first + voices second :=
  List.countP_append ..

namespace Coordinator

theorem voice_of_atRest {c : Coordinator} (rest : c.AtRest) : c.voice = 0 := by
  unfold voice
  rw [show c.operation = {} from rest]
  rfl

/-- A transition hands the voice on, to the stage after it or to the verdict. -/
theorem voice_follow (c : Coordinator) (t : Transition) (packet : Option Bytes) :
    (c.follow t packet).1.voice + voices (c.follow t packet).2.verdicts =
      if c.operation.interrupted.isNone then 1 else 0 := by
  cases t with
  | conclude conclusion =>
    cases interrupted : c.operation.interrupted <;>
      simp [follow, finish, voice, voices, Effect.verdicts, interrupted]
  | enter s =>
    unfold follow
    dsimp only
    split
    · cases interrupted : c.operation.interrupted <;>
        simp [voice, voices, Effect.verdicts]
    · cases interrupted : c.operation.interrupted <;>
        simp [landed, voice, voices, Effect.verdicts, interrupted]

theorem voice_handle {c : Coordinator} (settled : c.Settled) (e : Event) :
    (c.handle e).1.voice + voices (c.handle e).2.verdicts = c.voice := by
  rcases settled with ⟨s, running⟩ | rest
  · have here : c.voice = if c.operation.interrupted.isNone then 1 else 0 := by
      simp [voice, running.stage]
    have taken := handle_uptake running e
    generalize c.handle e = result at taken
    cases taken with
    | passed | counted => rfl
    | closed =>
      rw [here]
      exact voice_follow _ _ _
  · rw [handle_of_atRest rest]
    rfl

@[simp] theorem voice_conclude (c : Coordinator) (verdict : Verdict) :
    (c.conclude verdict).1.voice = c.voice := by
  unfold voice
  rw [operation_conclude]

theorem packet_conclude_le (c : Coordinator) (verdict : Verdict) :
    (c.conclude verdict).2.1.toList.length ≤ voices [verdict] := by
  unfold conclude
  cases interrupted : verdict.interrupted with
  | true => simp
  | false =>
    have loud : voices [verdict] = 1 := by simp [voices, interrupted]
    rw [loud]
    dsimp only
    split <;> simp

/-- A verdict is told with the next sequence id, unless the client was told before or is gone. -/
theorem conclude_of_loud {c : Coordinator} {verdict : Verdict}
    (loud : verdict.interrupted = false) (reachable : c.session.isClosed = false) :
    (c.conclude verdict).2.1 = some (verdictPacket (c.session.packetId + 1) verdict) := by
  have same : c.session.clearTransaction.isClosed = false := reachable
  unfold conclude
  dsimp only
  rw [loud, same]
  rfl

end Coordinator

namespace Docket

variable {d : Docket} {s : Stage}

/-- How many packets the client may still be sent. -/
def voice (d : Docket) : Nat :=
  d.coordinator.voice + voices d.untold

theorem step_tell (c : Coordinator) (verdict : Verdict) (rest : List Verdict) :
    (Docket.mk c (verdict :: rest)).step .tell = (⟨(c.conclude verdict).1, rest⟩,
      { packet := (c.conclude verdict).2.1, continues := (c.conclude verdict).2.2 }) := rfl

/-- **Step.** What a step writes is taken from the voice. -/
theorem voice_step (settled : d.coordinator.Settled) (i : Input) :
    (d.step i).2.packet.toList.length + (d.step i).1.voice ≤ d.voice := by
  cases i with
  | event e =>
    have handed := Coordinator.voice_handle settled e
    simp only [step, file, voice, voices_append, Option.toList_none, List.length_nil]
    omega
  | interrupt reason =>
    rcases settled with ⟨s, running⟩ | rest
    · cases interrupted : d.coordinator.operation.interrupted with
      | some first =>
        have accepted := Coordinator.interrupt_of_interrupted running (by simp [interrupted]) reason
        simp [step, accepted]
      | none =>
        have accepted := Coordinator.interrupt_of_uninterrupted running interrupted reason
        have before : d.coordinator.voice = 1 := by
          simp [Coordinator.voice, running.stage, interrupted]
        simp only [step, accepted, voice, before]
        -- the voice is gone even if the client is, and nothing is written
        split <;> simp [Coordinator.voice]
    · simp [step, interrupt_of_atRest rest reason]
  | tell =>
    obtain ⟨c, untold⟩ := d
    cases untold with
    | nil => simp [step]
    | cons verdict rest =>
      have spent := Coordinator.packet_conclude_le c verdict
      have total : voices (verdict :: rest) = voices [verdict] + voices rest :=
        voices_append [verdict] rest
      rw [step_tell]
      simp only [voice, total, Coordinator.voice_conclude]
      omega
  | closeSession | clientClosed => simp [step, onSession, voice, Coordinator.voice]

def packets (d : Docket) (inputs : List Input) : List Bytes :=
  (d.moments inputs).filterMap fun m => m.report.packet

theorem packets_cons (d : Docket) (i : Input) (rest : List Input) :
    d.packets (i :: rest) = (d.step i).2.packet.toList ++ (d.step i).1.packets rest := by
  unfold packets
  rw [moments, List.filterMap_cons]
  cases written : (Moment.report ⟨d, i⟩).packet <;>
    rw [show (d.step i).2.packet = _ from written] <;> rfl

/-- **Run.** What a run writes is taken from the voice. -/
theorem voice_run (settled : d.coordinator.Settled) (inputs : List Input) :
    (d.packets inputs).length + (d.run inputs).voice ≤ d.voice := by
  induction inputs generalizing d with
  | nil => simp [packets, moments, run]
  | cons i rest ih =>
    have first := voice_step settled i
    have others := ih (settled_step settled i)
    rw [packets_cons, List.length_append, run]
    omega

theorem packets_of_voiceless (settled : d.coordinator.Settled) (voiceless : d.voice = 0)
    (inputs : List Input) : d.packets inputs = [] := by
  have bound := voice_run settled inputs
  exact List.length_eq_zero_iff.mp (by omega)

/-- After the conclusion only the telling of the verdict writes. -/
theorem packet_of_atRest (rest : d.coordinator.AtRest) {i : Input} (event : i ≠ .tell) :
    (d.step i).2.packet = none := by
  cases i with
  | interrupt reason => simp [step, interrupt_of_atRest rest reason]
  | tell => exact absurd rfl event
  | event | closeSession | clientClosed => rfl

theorem voice_begun {c begun : Coordinator} {effect : Effect}
    (h : c.begin s = (begun, .ok effect)) : (ofBegun begun effect).voice = 1 := by
  rcases begun_lands h with ⟨landed, rfl, running⟩ | ⟨rfl, rest⟩
  · have uninterrupted : begun.operation.interrupted = none := by
      rw [landed]
      exact Coordinator.interrupted_fresh c s
    simp [ofBegun, voice, Coordinator.voice, running.stage, uninterrupted, voices, Effect.verdicts]
  · simp [ofBegun, voice, Coordinator.voice_of_atRest rest, voices, Effect.verdicts]

end Docket

/-! ## Packets of verdicts -/

/-- One complete OK frame. -/
def IsOkFrame (frame : Bytes) : Prop :=
  ∃ p, IsFrame frame p ∧ p.isOk = true

namespace Coordinator

/-- A verdict is told as one frame, OK for success and ERR for failure. -/
theorem isFrame_verdictPacket (sequenceId : UInt8) {verdict : Verdict}
    (framed : ∀ packet, verdict.successPacket = some packet → IsOkFrame packet) :
    ∃ p, IsFrame (verdictPacket sequenceId verdict) p ∧ p.sequenceId = sequenceId ∧
      if verdict.conclusion = .success then p.isOk = true else p.isError = true := by
  obtain ⟨conclusion, packet, interrupted⟩ := verdict
  cases conclusion with
  | failure message => exact isFrame_serverError sequenceId ⟨unknownErrorCode, none, message⟩
  | success =>
    cases packet with
    | none => exact isFrame_okPacket sequenceId { statusFlags := autocommitFlag }
    | some packet =>
      obtain ⟨p, isFrame, isOk⟩ := framed packet rfl
      exact ⟨_, isFrame.setSequenceId sequenceId, rfl, isOk⟩

/-- A verdict is silent iff the operation was interrupted, and passes on no packet but the one that
the cohort kept. -/
theorem verdict_of_proceed {c : Coordinator} {s : Stage} {verdict : Verdict}
    (h : (c.proceed s).2 = .conclude verdict) :
    verdict.interrupted = c.operation.interrupted.isSome ∧
      ∀ packet, verdict.successPacket = some packet →
        c.operation.cohort.successPacket = some packet := by
  have kept : (c.result s).successPacket = c.operation.cohort.successPacket := by
    unfold result Operation.withForced
    split
    · split <;> rfl
    · rfl
  rcases proceed_concludes h with ⟨conclusion, next, rfl⟩ | ⟨t, next, rfl⟩
  · exact ⟨rfl, fun packet some => kept ▸ some⟩
  · exact ⟨rfl, fun packet some => absurd some (by simp)⟩

end Coordinator

namespace Docket

variable {d : Docket} {s : Stage}

/-- The packet that a cohort keeps is one that came with an OK. -/
theorem successPacket_absorb (running : d.coordinator.Running s) {i : Input} {packet : Bytes}
    (h : (d.absorb i).operation.cohort.successPacket = some packet) :
    d.coordinator.operation.cohort.successPacket = some packet ∨
      ∃ id, i = .event (.ok id packet) := by
  rw [cohort_absorb running] at h
  cases entered : d.coordinator.inputEntryOf i with
  | none => exact .inl (by simpa [entered] using h)
  | some entry =>
    rw [entered] at h
    cases entry with
    | error | closed | unreachable => exact .inl h
    | ok id answer =>
      -- only an OK brings a packet, and the first one stays
      have which : answer = some packet ∨
          d.coordinator.operation.cohort.successPacket = some packet := by
        simp only [Option.map_some, Option.getD_some, Cohort.book] at h
        split at h
        · cases answer with
          | none => exact .inr h
          | some answer => exact .inl h
        · exact .inr h
      rcases which with rfl | before
      · right
        cases i with
        | event e =>
          cases e with
          | ok other answer =>
            simp only [Coordinator.inputEntryOf, Coordinator.entryOf] at entered
            split at entered <;> simp_all
          | error other code message =>
            simp only [Coordinator.inputEntryOf, Coordinator.entryOf] at entered
            repeat' split at entered
            all_goals simp at entered
          | closed link reason =>
            simp only [Coordinator.inputEntryOf, Coordinator.entryOf] at entered
            split at entered <;> simp at entered
          | connectError other fault =>
            cases other <;> simp only [Coordinator.inputEntryOf, Coordinator.entryOf] at entered <;>
              split at entered <;> simp at entered
        | interrupt | tell | closeSession | clientClosed =>
          simp [Coordinator.inputEntryOf] at entered
      · exact .inl before

/-! ## Open sessions -/

end Docket

/-- Whether an input cuts the client off. -/
def Input.closes : Input → Bool
  | .closeSession => true
  | .clientClosed on => on
  | _ => false

namespace Docket

variable {d : Docket} {s : Stage}

/-- On an open session, what is neither an accepted interrupt nor the telling of a verdict writes
nothing and takes no sequence id. -/
theorem quiet_step (settled : d.coordinator.Settled)
    (reachable : d.coordinator.session.isClosed = false) {i : Input} (stays : i.closes = false)
    (unheard : i.reason? = none ∨ d.coordinator.AtRest) (told : i = .tell → d.untold = []) :
    (d.step i).2.packet = none ∧ (d.step i).1.coordinator.session.isClosed = false ∧
      (d.step i).1.coordinator.session.packetId = d.coordinator.session.packetId := by
  cases i with
  | event e =>
    obtain ⟨on, same⟩ := Coordinator.session_handle settled e
    refine ⟨rfl, ?_, ?_⟩
    · show (d.coordinator.handle e).1.session.isClosed = false
      rw [same]
      cases e <;> exact reachable
    · show (d.coordinator.handle e).1.session.packetId = _
      rw [same]
      cases e <;> rfl
  | interrupt reason =>
    -- an interrupt at rest is refused
    rcases unheard with none | rest
    · exact absurd none (by simp [Input.reason?])
    · rw [show d.step (.interrupt reason) = (d, {}) by simp [step, interrupt_of_atRest rest]]
      exact ⟨rfl, reachable, rfl⟩
  | tell =>
    rw [show d.step .tell = (d, {}) by simp [step, told rfl]]
    exact ⟨rfl, reachable, rfl⟩
  | closeSession => exact absurd stays (by simp [Input.closes])
  | clientClosed on =>
    obtain rfl : on = false := stays
    refine ⟨rfl, ?_, rfl⟩
    simp only [Session.isClosed, Bool.or_eq_false_iff] at reachable
    simp [step, onSession, Session.isClosed, reachable.1]

/-- A verdict that is left to be told, and told in the end, is told once. -/
theorem packets_of_verdict {verdict : Verdict} {inputs : List Input} (rest : d.coordinator.AtRest)
    (untold : d.untold = [verdict]) (loud : verdict.interrupted = false)
    (reachable : d.coordinator.session.isClosed = false)
    (stays : ∀ i ∈ inputs, i.closes = false) (told : (d.run inputs).untold = []) :
    d.packets inputs =
      [Coordinator.verdictPacket (d.coordinator.session.packetId + 1) verdict] := by
  -- on the inputs: the verdict waits until it is told, and everything else is silent
  induction inputs generalizing d with
  | nil => simp [run, untold] at told
  | cons i others ih =>
    rw [List.forall_mem_cons] at stays
    rw [packets_cons]
    by_cases tells : i = .tell
    · subst tells
      obtain ⟨c, _⟩ := d
      obtain rfl : _ = [verdict] := untold
      have restNext : (c.conclude verdict).1.AtRest :=
        (Coordinator.operation_conclude c verdict).trans rest
      rw [step_tell, Coordinator.conclude_of_loud loud reachable,
        packets_of_voiceless (.inr restNext)
          (by simp [voice, Coordinator.voice_of_atRest restNext, voices])]
      rfl
    · obtain ⟨silent, open', same⟩ :=
        quiet_step (.inr rest) reachable stays.1 (.inr rest) fun tell => absurd tell tells
      have kept : (d.step i).1.untold = [verdict] := by
        rw [untold_step fun tell => absurd tell tells, untold, (step_of_atRest rest i).1]
        rfl
      rw [silent, ih (step_of_atRest rest i).2 kept open' stays.2 told, same]
      rfl

/-- An interrupt is accepted in the run. -/
def Interrupted (d : Docket) (inputs : List Input) : Prop :=
  ∃ m ∈ d.moments inputs, m.stage.isSome = true ∧ m.input.reason?.isSome = true

/-- The run writes one packet, with this sequence id: an ERR packet if the operation is interrupted
in it or fails with this verdict, and an OK packet otherwise. -/
def TellsOnce (d : Docket) (inputs : List Input) (verdict : Verdict) (sequenceId : UInt8) : Prop :=
  ∃ frame p, d.packets inputs = [frame] ∧ IsFrame frame p ∧ p.sequenceId = sequenceId ∧
    (d.Interrupted inputs ∨ verdict.conclusion ≠ .success → p.isError = true) ∧
    (¬ d.Interrupted inputs → verdict.conclusion = .success → p.isOk = true)

theorem not_interrupted_of_atRest (rest : d.coordinator.AtRest) (inputs : List Input) :
    ¬ d.Interrupted inputs := by
  rintro ⟨m, inRun, inFlight, -⟩
  rw [stage_of_atRest rest inRun] at inFlight
  exact absurd inFlight (by simp)

theorem interrupted_cons {i : Input} (unheard : i.reason? = none) (rest : List Input) :
    d.Interrupted (i :: rest) ↔ (d.step i).1.Interrupted rest := by
  unfold Interrupted
  simp [moments, unheard]

/-- A verdict left to be told on an open session tells the client once. -/
theorem tellsOnce_of_verdict {verdict : Verdict} {inputs : List Input}
    (rest : d.coordinator.AtRest) (untold : d.untold = [verdict])
    (loud : verdict.interrupted = false)
    (framed : ∀ packet, verdict.successPacket = some packet → IsOkFrame packet)
    (reachable : d.coordinator.session.isClosed = false)
    (stays : ∀ i ∈ inputs, i.closes = false) (told : (d.run inputs).untold = []) :
    d.TellsOnce inputs verdict (d.coordinator.session.packetId + 1) := by
  obtain ⟨p, isFrame, numbered, kind⟩ :=
    Coordinator.isFrame_verdictPacket (d.coordinator.session.packetId + 1) framed
  refine ⟨_, p, packets_of_verdict rest untold loud reachable stays told, isFrame, numbered,
    ?_, ?_⟩
  · rintro (interrupted | failed)
    · exact absurd interrupted (not_interrupted_of_atRest rest inputs)
    · rwa [if_neg failed] at kind
  · intro _ succeeded
    rwa [if_pos succeeded] at kind

/-- A first interrupt on an open session tells the client, and nothing does so again. -/
theorem tellsOnce_of_interrupt {verdict : Verdict} {reason : String} {inputs : List Input}
    (running : d.coordinator.Running s)
    (uninterrupted : d.coordinator.operation.interrupted = none) (untold : d.untold = [])
    (reachable : d.coordinator.session.isClosed = false) :
    d.TellsOnce (.interrupt reason :: inputs) verdict (d.coordinator.session.packetId + 1) := by
  have accepted := Coordinator.interrupt_of_uninterrupted running uninterrupted reason
  rw [reachable] at accepted
  obtain ⟨p, isFrame, numbered, isError⟩ := isFrame_serverError
    (d.coordinator.session.packetId + 1)
    ⟨unknownErrorCode, none, (Fault.interrupted reason).message⟩
  have interrupted : d.Interrupted (.interrupt reason :: inputs) := by
    refine ⟨⟨d, .interrupt reason⟩, List.mem_cons_self, ?_, rfl⟩
    show d.coordinator.operation.stage.isSome = true
    rw [running.stage]
    rfl
  refine ⟨_, p, ?_, isFrame, numbered, fun _ => isError, fun not => absurd interrupted not⟩
  have written : (d.step (.interrupt reason)).2.packet =
      some (Coordinator.errorPacket (d.coordinator.session.packetId + 1)
        (Fault.interrupted reason).message) := by
    simp [step, accepted]
  -- what the operation comes to later is not sent
  have voiceless : (d.step (.interrupt reason)).1.voice = 0 := by
    simp [step, accepted, voice, Coordinator.voice, voices, untold]
  rw [packets_cons, written,
    packets_of_voiceless (settled_step (.inl ⟨s, running⟩) _) voiceless]
  rfl

theorem tellsOnce_of_running {verdict : Verdict} {inputs : List Input}
    (running : d.coordinator.Running s)
    (uninterrupted : d.coordinator.operation.interrupted = none) (untold : d.untold = [])
    (kept : ∀ packet, d.coordinator.operation.cohort.successPacket = some packet →
      IsOkFrame packet)
    (framed : ∀ id packet, .event (.ok id packet) ∈ inputs → IsOkFrame packet)
    (reachable : d.coordinator.session.isClosed = false)
    (stays : ∀ i ∈ inputs, i.closes = false) (reached : verdict ∈ d.verdicts inputs)
    (told : (d.run inputs).untold = []) :
    d.TellsOnce inputs verdict (d.coordinator.session.packetId + 1) := by
  -- the invariant is that the client has heard nothing and that the packet kept is an OK frame
  induction inputs generalizing d s with
  | nil => exact absurd reached List.not_mem_nil
  | cons i rest ih =>
    cases heard : i.reason? with
    | some reason =>
      obtain rfl : i = .interrupt reason := by
        cases i <;> simp_all [Input.reason?]
      exact tellsOnce_of_interrupt running uninterrupted untold reachable
    | none =>
      rw [List.forall_mem_cons] at stays
      have settled : d.coordinator.Settled := .inl ⟨s, running⟩
      obtain ⟨silent, reachableNext, same⟩ :=
        quiet_step settled reachable stays.1 (.inl heard) fun _ => untold
      -- the step itself writes nothing, so it is left to the rest of the run to tell once
      have goesOn : (d.step i).1.TellsOnce rest verdict
            ((d.step i).1.coordinator.session.packetId + 1) →
          d.TellsOnce (i :: rest) verdict (d.coordinator.session.packetId + 1) := by
        unfold TellsOnce
        rw [packets_cons, silent, interrupted_cons heard, same]
        exact id
      apply goesOn
      have unheard : (d.absorb i).operation.interrupted = none := by
        rw [interrupted_absorb running, uninterrupted, heard]
        rfl
      have keptNext : ∀ packet, (d.absorb i).operation.cohort.successPacket = some packet →
          IsOkFrame packet := by
        intro packet keeps
        rcases successPacket_absorb running keeps with before | ⟨id, rfl⟩
        · exact kept packet before
        · exact framed id packet List.mem_cons_self
      have framedNext : ∀ id packet, .event (.ok id packet) ∈ rest → IsOkFrame packet :=
        fun id packet later => framed id packet (List.mem_cons_of_mem i later)
      rw [verdicts_cons, List.mem_append] at reached
      have untoldNext := untold_step (i := i) fun _ => untold
      rcases step_turn running i with stays' | leaves
      · rw [stays'.effect] at reached untoldNext
        rw [untold] at untoldNext
        refine ih stays'.running ?_ untoldNext ?_ framedNext reachableNext stays.2
          (reached.resolve_left List.not_mem_nil) told
        · rw [stays'.after, unheard]
        · rw [stays'.after]
          exact keptNext
      · rcases leaves.lands running with ⟨t, -, after, effect, next⟩ | ⟨⟨v, effect⟩, rests, -⟩
        · rw [effect] at reached untoldNext
          rw [untold] at untoldNext
          refine ih next ?_ untoldNext ?_ framedNext reachableNext stays.2
            (reached.resolve_left List.not_mem_nil) told
          · rw [after]
            exact unheard
          · rw [after]
            exact fun packet keeps => absurd keeps (by simp [Coordinator.landed, Cohort.opened])
        · rw [effect, verdicts_of_atRest rests] at reached
          obtain rfl : verdict = v := by simpa [Effect.verdicts] using reached
          obtain ⟨loud, passes⟩ := Coordinator.verdict_of_proceed (leaves.effect ▸ effect)
          rw [unheard] at loud
          rw [effect, untold] at untoldNext
          exact tellsOnce_of_verdict rests untoldNext loud
            (fun packet some => keptNext packet (passes packet some)) reachableNext stays.2 told

end Docket

/-- Beginning an operation takes no sequence id of the client's. -/
theorem Coordinator.session_begin {c begun : Coordinator} {s : Stage} {effect : Effect}
    (h : c.begin s = (begun, .ok effect)) :
    begun.session.packetId = c.session.packetId ∧
      begun.session.isClosed = c.session.isClosed := by
  cases inFlight : c.operation.stage with
  | some current =>
    rw [begin_of_inFlight inFlight] at h
    exact absurd h (by simp)
  | none =>
    rw [begin_eq_follow inFlight, Prod.mk.injEq] at h
    obtain ⟨on, same⟩ := (c.fresh s).session_follow (.enter s) none
    rw [← h.1, same]
    unfold fresh
    split <;> exact ⟨rfl, rfl⟩

/-- **One packet.** Whatever happens while an operation runs and after it, the client is sent at
most one packet for it, and after the conclusion only the telling of the verdict sends any. If the
operation concludes and is told on a session that stays open, it is exactly one, with the next
sequence id: an ERR packet if the operation was interrupted or failed, and else an OK packet. -/
theorem one_packet {c begun : Coordinator} {s : Stage} {effect : Effect} {inputs : List Input}
    (h : c.begin s = (begun, .ok effect))
    (framed : ∀ id packet, Input.event (.ok id packet) ∈ inputs → IsOkFrame packet) :
    ((Docket.ofBegun begun effect).packets inputs).length ≤ 1 ∧
      (∀ m ∈ (Docket.ofBegun begun effect).moments inputs,
        m.stage = none → m.input ≠ .tell → m.report.packet = none) ∧
      ∀ verdict ∈ effect.verdicts ++ (Docket.ofBegun begun effect).verdicts inputs,
        ((Docket.ofBegun begun effect).run inputs).untold = [] →
        c.session.isClosed = false → (∀ i ∈ inputs, i.closes = false) →
        (Docket.ofBegun begun effect).TellsOnce inputs verdict (c.session.packetId + 1) := by
  have settled : (Docket.ofBegun begun effect).coordinator.Settled := by
    rcases Docket.begun_lands h with ⟨-, -, running⟩ | ⟨-, rest⟩
    · exact .inl ⟨s, running⟩
    · exact .inr rest
  refine ⟨?_, ?_, ?_⟩
  · -- at most one packet: the operation begins with one voice
    have bound := Docket.voice_run settled inputs
    rw [Docket.voice_begun h] at bound
    omega
  · -- after the conclusion: the coordinator is at rest
    intro m inRun concluded event
    obtain ⟨xs, ys, -, there⟩ := Docket.exists_of_mem_moments inRun
    have settledThere : m.docket.coordinator.Settled := there ▸ Docket.settled_run settled xs
    exact Docket.packet_of_atRest (settledThere.atRest concluded) event
  · intro verdict reached told reachable stays
    obtain ⟨numbered, sameClosed⟩ := Coordinator.session_begin h
    rw [reachable] at sameClosed
    rw [← numbered]
    rw [List.mem_append] at reached
    -- the operation is in flight now, or it had nobody to ask and is concluded
    rcases Docket.begun_lands h with ⟨landed, rfl, running⟩ | ⟨rfl, rest⟩
    · refine Docket.tellsOnce_of_running (d := Docket.ofBegun begun _) running ?_ rfl ?_ framed
        sameClosed stays (reached.resolve_left List.not_mem_nil) told
      · show begun.operation.interrupted = none
        rw [landed]
        exact Coordinator.interrupted_fresh c s
      · show ∀ packet, begun.operation.cohort.successPacket = some packet → IsOkFrame packet
        rw [landed]
        exact fun packet keeps => absurd keeps (by simp [Coordinator.landed, Cohort.opened])
    · rw [Docket.verdicts_of_atRest (d := Docket.ofBegun begun _) rest] at reached
      obtain rfl : verdict = _ := by simpa [Effect.verdicts] using reached
      exact Docket.tellsOnce_of_verdict (d := Docket.ofBegun begun _) rest rfl rfl
        (fun packet some => absurd some (by simp)) sameClosed stays told

theorem isOkFrame_sample : IsOkFrame Sample.okFrame :=
  ⟨⟨1, [0, 0, 0, 2, 0, 0, 0]⟩, ⟨rfl, rfl⟩, rfl⟩

open Sample in
/-- The case of two shards that carry a commit out, after which its verdict is told. -/
theorem one_packet_of_two :
    ∃ begun effect, (coordinator true).begin (.start .commit) = (begun, .ok effect) ∧
      (Docket.ofBegun begun effect).TellsOnce (votes ++ [ok shardA, ok shardB, .tell])
        ⟨.success, none, false⟩ 1 := by
  have framed : ∀ id packet,
      Input.event (.ok id packet) ∈ votes ++ [ok shardA, ok shardB, .tell] → IsOkFrame packet := by
    intro id packet h
    obtain rfl : packet = okFrame := by
      simp only [votes, ok, List.cons_append, List.nil_append, List.mem_cons, Input.event.injEq,
        Event.ok.injEq, List.not_mem_nil, reduceCtorEq] at h
      grind
    exact isOkFrame_sample
  have begins := Coordinator.begin_eq_follow (c := coordinator true) rfl (.start .commit)
  exact ⟨_, _, begins, (one_packet begins framed).2.2 _ (by decide +kernel) (by decide +kernel)
    rfl (by decide +kernel)⟩

end AtomicCommit
