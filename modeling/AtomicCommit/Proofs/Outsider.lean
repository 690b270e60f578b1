import AtomicCommit.Proofs.Scene

/-!
# Callbacks of outsiders

An *outsider* is a shard that is not bound to the session and owes no answer, for example one that
an earlier operation has released and whose link still has the coordinator as its listener.

* **step** — `handle_of_outside`: of what an outsider reports nothing is counted, and at most a
  departure is left behind, by a close while the decision is open.
* **two runs** — `Alike` relates two lives that differ by callbacks. `live_eq_of_alike` and
  `signs_eq_of_alike` say that unheeded ones make no difference to the session or to what others
  see of it.
* **the exception** — a close that an outsider reports while the decision is open turns a commit
  into a rollback.
-/

namespace AtomicCommit

open Wire

namespace Coordinator

variable {c : Coordinator} {link : Link} {notice : Notice} {e : Event}

/-- Not bound, and no answer owed. -/
structure Outside (c : Coordinator) (id : ParticipantId) : Prop where
  unbound : id ∉ c.session.participantIds
  owesNothing : id ∉ c.operation.cohort.pending

/-- A stage is in flight and the decision is open. -/
def deciding (c : Coordinator) : Bool :=
  (c.operation.stage.map Stage.precedesDecision).getD false

/-- A callback of an outsider, other than the first departure while the decision is open. -/
structure Unheeded (c : Coordinator) (link : Link) (notice : Notice) : Prop where
  outside : c.Outside link.id
  late : ∀ reason, notice = .closed reason →
    c.deciding = false ∨ c.operation.departed.isSome = true

/-! ## One callback -/

theorem entryOf_of_outside (outside : c.Outside link.id) (heard : notice.event? link = some e) :
    c.entryOf e = none :=
  entryOf_of_unowed (Notice.about_of_event heard) outside.owesNothing

theorem unbind_of_outside (outside : c.Outside link.id) (heard : notice.event? link = some e) :
    c.unbind e = c.session := by
  cases notice with
  | closed reason =>
    obtain rfl := Option.some.inj heard
    exact Session.detach_of_absent outside.unbound
  | ok | error | connectError | columnsEnd =>
    obtain rfl := Option.some.inj heard
    rfl
  | row | rowsEnd => simp [Notice.event?] at heard

/-- **Step.** Of an outsider's callback nothing stays but a departure. -/
theorem handle_of_outside (outside : c.Outside link.id) (heard : notice.event? link = some e) :
    c.handle e =
      ({ c with operation := { c.operation with departed := c.departure e } }, .idle) := by
  rw [handle_of_uncounted (entryOf_of_outside outside heard), pass,
    unbind_of_outside outside heard]

theorem departure_of_unheeded (unheeded : c.Unheeded link notice)
    (heard : notice.event? link = some e) : c.departure e = c.operation.departed := by
  cases notice with
  | closed reason =>
    obtain rfl := Option.some.inj heard
    rcases unheeded.late reason rfl with decided | departed
    · unfold deciding at decided
      simp [departure, decided]
    · obtain ⟨first, departed⟩ := Option.isSome_iff_exists.mp departed
      simp [departure, departed]
  | ok | error | connectError | columnsEnd =>
    obtain rfl := Option.some.inj heard
    rfl
  | row | rowsEnd => simp [Notice.event?] at heard

theorem handle_of_unheeded (unheeded : c.Unheeded link notice)
    (heard : notice.event? link = some e) : c.handle e = (c, .idle) := by
  rw [handle_of_outside unheeded.outside heard, departure_of_unheeded unheeded heard]

end Coordinator

namespace Docket

variable {d d' : Docket} {link : Link} {notice : Notice} {xs ys : List Act}

theorem act_of_unheeded (unheeded : d.coordinator.Unheeded link notice) {e : Event}
    (heard : notice.event? link = some e) :
    d.act (.input (.event e)) = d ∧ d.report (.input (.event e)) = {} := by
  have same := Coordinator.handle_of_unheeded unheeded heard
  constructor
  · show d.file (d.coordinator.handle e) = d
    rw [same]
    simp [file, Effect.verdicts]
  · show { effect := (d.coordinator.handle e).2 : Report } = {}
    rw [same]

theorem live_heard_of_unheeded (unheeded : d.coordinator.Unheeded link notice) :
    d.live (Act.heard link notice) = d := by
  cases heard : notice.event? link with
  | none => simp [Act.heard, heard, live]
  | some e =>
    have same := (act_of_unheeded unheeded heard).1
    simp [Act.heard, heard, live, same]

theorem signs_heard_of_unheeded (unheeded : d.coordinator.Unheeded link notice) :
    d.signs (Act.heard link notice) = [] := by
  cases heard : notice.event? link with
  | none => simp [Act.heard, heard, signs, scenes]
  | some e =>
    obtain ⟨same, nothing⟩ := act_of_unheeded unheeded heard
    have noSigns : Scene.signs ⟨d, .input (.event e)⟩ = [] := by
      simp [Scene.signs, Scene.after, Scene.report, Scene.stage, same, nothing, Effect.commands]
    simpa [Act.heard, heard, signs, scenes] using noSigns

/-! ## Two runs -/

/-- Two lives with the same acts in the same order, but for callbacks of which `P` holds when they
come. -/
inductive Alike (P : Coordinator → Link → Notice → Prop) :
    Docket → List Act → Docket → List Act → Prop where
  | nil {d d' : Docket} : Alike P d [] d' []
  | both {d d' : Docket} {xs ys : List Act} (a : Act) (rest : Alike P (d.act a) xs (d'.act a) ys) :
      Alike P d (a :: xs) d' (a :: ys)
  | left {d d' : Docket} {xs ys : List Act} {link : Link} {notice : Notice}
      (extra : P d.coordinator link notice)
      (rest : Alike P (d.live (Act.heard link notice)) xs d' ys) :
      Alike P d (Act.heard link notice ++ xs) d' ys
  | right {d d' : Docket} {xs ys : List Act} {link : Link} {notice : Notice}
      (extra : P d'.coordinator link notice)
      (rest : Alike P d xs (d'.live (Act.heard link notice)) ys) :
      Alike P d xs d' (Act.heard link notice ++ ys)

theorem signs_eq_of_alike (alike : Alike Coordinator.Unheeded d xs d' ys) (same : d = d') :
    d.signs xs = d'.signs ys := by
  -- what the induction carries is `same`: an unheeded callback leads back to where it came
  induction alike with
  | nil => rfl
  | both a rest ih =>
    subst same
    rw [signs_cons, signs_cons, ih rfl]
  | left unheeded rest ih =>
    have nothing := live_heard_of_unheeded unheeded
    rw [signs_append, signs_heard_of_unheeded unheeded, List.nil_append, ih (nothing.trans same)]
  | right unheeded rest ih =>
    have nothing := live_heard_of_unheeded unheeded
    rw [signs_append, signs_heard_of_unheeded unheeded, List.nil_append,
      ih (same.trans nothing.symm)]

theorem live_eq_of_alike (alike : Alike Coordinator.Unheeded d xs d' ys) (same : d = d') :
    d.live xs = d'.live ys := by
  induction alike with
  | nil => exact same
  | both a rest ih =>
    subst same
    exact ih rfl
  | left unheeded rest ih =>
    rw [live_append]
    exact ih ((live_heard_of_unheeded unheeded).trans same)
  | right unheeded rest ih =>
    rw [live_append]
    exact ih (same.trans (live_heard_of_unheeded unheeded).symm)

/-! ## The exception -/

/-- A close that is reported while the decision is open, by whomever, leaves no success. -/
theorem failure_of_closed (settled : d.coordinator.Settled)
    (deciding : d.coordinator.deciding = true) {reason : String} {inputs : List Input}
    {verdict : Verdict}
    (reached : verdict ∈ d.verdicts (.event (.closed link reason) :: inputs)) :
    verdict.conclusion ≠ .success := by
  intro success
  rcases settled with ⟨s, busy⟩ | rest
  · have precedes : s.precedesDecision = true := by
      simpa [Coordinator.deciding, busy.stage] using deciding
    have unspoiled := ((success_iff busy reached).mp success).2 _ List.mem_cons_self
    rw [spoils_of_busy busy] at unspoiled
    simp [Coordinator.spoiledBy, precedes, Input.closed?] at unspoiled
  · rw [verdicts_of_atRest rest] at reached
    exact absurd reached List.not_mem_nil

end Docket

/-- **Outsiders are unheeded.** After any life of a session, two lives that differ by callbacks of
outsiders look the same and end in the same session, as long as no outsider is the first to report
a close while the decision of an operation is open. Such a close, an outsider's as much as a
participant's, leaves the operation no success. -/
theorem outsiders_unheeded {id : UInt64} {issuer : String} {d : Docket} {history : List Act}
    (past : d = (Docket.born id issuer).live history) :
    (∀ xs ys, Docket.Alike Coordinator.Unheeded d xs d ys →
        d.signs xs = d.signs ys ∧ d.live xs = d.live ys) ∧
      ∀ (link : Link) (reason : String) (inputs : List Input), d.coordinator.deciding = true →
        ∀ verdict ∈ d.verdicts (.event (.closed link reason) :: inputs),
          verdict.conclusion ≠ .success := by
  have settled : d.coordinator.Settled := past ▸ Docket.settled_live (Docket.settled_born ..) _
  constructor
  · intro xs ys alike
    exact ⟨Docket.signs_eq_of_alike alike rfl, Docket.live_eq_of_alike alike rfl⟩
  · intro link reason inputs deciding verdict reached
    exact Docket.failure_of_closed settled deciding reached

namespace Sample

/-- A shard that the session has released. -/
def shardC : Link := ⟨2, ⟨"c"⟩, { host := "c.db", port := 3306 }⟩

/-- An XA commit of two shards in flight, after a transaction of a third. -/
def parted : Docket :=
  (Docket.born 7 "x").live [.attach shardC, .commit, .input (ok shardC), .input .tell,
    .attach shardA, .attach shardB, .setXa true, .commit]

def ended : List Act := [.input (ok shardA), .input (ok shardB)]

end Sample

open Sample in
/-- The case of a late answer of the released shard, and that of its close. -/
theorem outsiders_unheeded_of_parted :
    (parted.signs (Act.heard shardC (.ok okFrame) ++ ended) = parted.signs ended ∧
        parted.live (Act.heard shardC (.ok okFrame) ++ ended) = parted.live ended) ∧
      parted.verdicts (.event (.closed shardC "gone") :: votes) ≠ [] ∧
      ∀ verdict ∈ parted.verdicts (.event (.closed shardC "gone") :: votes),
        verdict.conclusion ≠ .success := by
  have unheeded := outsiders_unheeded (show parted = (Docket.born 7 "x").live _ from rfl)
  refine ⟨unheeded.1 _ _ ?_, by decide +kernel, unheeded.2 _ _ _ (by decide +kernel)⟩
  have late : parted.coordinator.Unheeded shardC (.ok okFrame) :=
    ⟨⟨by decide +kernel, by decide +kernel⟩, by simp⟩
  exact .left late (.both _ (.both _ .nil))

open Sample in
/-- **A foreign close.** The close of a released shard's link turns the commit of others into a
rollback. -/
theorem outsider_turns_commit :
    parted.coordinator.inFlight = true ∧
      Docket.Alike (fun c link _ => c.Outside link.id)
        parted (Act.heard shardC (.closed "gone") ++ ended) parted ended ∧
      parted.signs (Act.heard shardC (.closed "gone") ++ ended) ≠ parted.signs ended :=
  ⟨by decide +kernel,
    .left ⟨by decide +kernel, by decide +kernel⟩ (.both _ (.both _ .nil)), by decide +kernel⟩

end AtomicCommit
