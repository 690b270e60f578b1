import AtomicCommit.Proofs.Traffic

/-!
# Services retire

A service is made for one connection, which tells it of the close and has it no more then. So
whoever was told is told nothing again, and is found no frames.

* **invariant** — `Board.Tied`: connections have services that were made for them, and none of
  those that were told.
* **closes** — `orderly_close`, `orderly_reap`: whoever is told was the service of a connection that
  is closed now.
* **tasks and calls** — `orderly_perform`, `orderly_instruct`: whatever is done keeps the
  invariant, and only a step of a reading task finds frames.
-/

namespace AtomicCommit

open Wire Transport

namespace Transport.Hub

variable {h : Hub} {place crew : Nat} {service : Option Nat} {split : Split}

theorem frames_of_readInto {c : Connection} {b : Buffer}
    (found : (h.readInto place crew c b).2 = .frames service split) : c.service = service := by
  unfold readInto at found
  dsimp only at found
  split at found
  all_goals cases found
  rfl

theorem frames_of_readOn {c : Connection} {b : Buffer}
    (found : (h.readOn place crew c b).2 = .frames service split) : c.service = service := by
  unfold readOn at found
  split at found
  · cases found
  · exact frames_of_readInto found

/-- The frames of a read are for the service that the connection has then. -/
theorem frames_of_read (found : (h.read place crew).2 = .frames service split) :
    (h.ties[place]?).bind Tie.service = service := by
  unfold read at found
  split at found
  · cases found
  · rename_i c there
    rw [getElem?_ties, there]
    split at found
    · exact frames_of_readOn found
    · exact frames_of_readOn found
    · exact frames_of_readInto found
    · cases found
    · cases found

end Transport.Hub

namespace Network

/-! ## Boards -/

namespace Board

variable {b b' : Board} {a : Address} {told told' : Nat → Prop}

/-- Whom a connection tells of its close. -/
def service? (b : Board) (a : Address) : Option Nat :=
  (b.tie? a).bind Tie.service

/-- Where every service is, and the link of those that are backends. -/
def faces (b : Board) : List (Address × Option Link) :=
  b.posts.map fun p => (p.address, p.voice.map Prod.fst)

/-- The service was made for this connection. -/
def Houses (b : Board) (a : Address) (service : Nat) : Prop :=
  ∃ link, b.faces[service]? = some (a, link)

/-- Connections tell services that were made for them, those that were told are told no more, and
backends are where their links say. -/
structure Tied (b : Board) (told : Nat → Prop) : Prop where
  known : ∀ a service, b.service? a = some service → b.Houses a service
  told : ∀ service, told service → ∃ a, b.Houses a service ∧ b.service? a ≠ some service
  own : ∀ service a (link : Link), b.faces[service]? = some (a, some link) →
    link.handle = service

/-- No connection tells a service that was told. -/
theorem Tied.retired (tied : b.Tied told) {service : Nat} (was : told service) (a : Address) :
    b.service? a ≠ some service := by
  intro tells
  obtain ⟨home, ⟨link, there⟩, silent⟩ := tied.told service was
  obtain ⟨other, found⟩ := tied.known a service tells
  obtain ⟨rfl, -⟩ := Prod.mk.inj (Option.some.inj (there.symm.trans found))
  exact silent tells

theorem Houses.grow {service : Nat} (houses : b.Houses a service) (grows : b.faces <+: b'.faces) :
    b'.Houses a service := by
  obtain ⟨link, there⟩ := houses
  obtain ⟨behind, more⟩ := grows
  exact ⟨link, more ▸ getElem?_append_of_some there behind⟩

theorem Tied.mono (tied : b.Tied told) (fewer : ∀ service, told' service → told service) :
    b.Tied told' :=
  ⟨tied.known, fun service was => tied.told service (fewer service was), tied.own⟩

theorem Tied.of_same (tied : b.Tied told) (services : b'.service? = b.service?)
    (faces : b'.faces = b.faces) : b'.Tied told := by
  have houses : b'.Houses = b.Houses := by
    unfold Houses
    rw [faces]
  refine ⟨?_, ?_, ?_⟩
  · rw [services, houses]
    exact tied.known
  · rw [services, houses]
    exact tied.told
  · rw [faces]
    exact tied.own

/-! ### Changes that show -/

theorem service?_shut (b : Board) (a other : Address) :
    (b.shut a).service? other = if other = a then none else b.service? other := by
  unfold service?
  rw [tie?_shut]
  split
  · cases b.tie? a <;> rfl
  · rfl

/-- The service of a connection that closes is told. -/
theorem Tied.shut (tied : b.Tied told) (a : Address) :
    (b.shut a).Tied fun service => told service ∨ b.service? a = some service := by
  refine ⟨?_, ?_, tied.own⟩
  · intro other service tells
    rw [service?_shut] at tells
    split at tells
    · exact absurd tells (by simp)
    · exact tied.known other service tells
  · rintro service (was | tells)
    · obtain ⟨home, houses, silent⟩ := tied.told service was
      refine ⟨home, houses, ?_⟩
      rw [service?_shut]
      split
      · simp
      · exact silent
    · refine ⟨a, tied.known a service tells, ?_⟩
      rw [service?_shut, if_pos rfl]
      simp

theorem service?_extend (b : Board) (side : Side) : (b.extend side).service? = b.service? := by
  funext a
  unfold service? tie? extend
  dsimp only
  by_cases here : a.side = side
  · subst here
    rw [Function.update_self, List.getElem?_append]
    split
    · rfl
    · rename_i outside
      rw [List.getElem?_eq_none (Nat.le_of_not_lt outside), List.getElem?_singleton]
      split <;> rfl
  · rw [Function.update_of_ne here]

/-- The board with a new service, which a connection tells from now on. -/
def serve (b : Board) (a : Address) (voice : Option (Link × Listener)) : Board :=
  { b with
    ties := Function.update b.ties a.side
      ((b.ties a.side).modify a.place fun t => { t with service := some b.posts.length })
    posts := b.posts ++ [⟨a, false, voice⟩] }

theorem service?_serve (b : Board) (a other : Address) (voice : Option (Link × Listener)) :
    (b.serve a voice).service? other =
      if other = a then (b.tie? a).map fun _ => b.posts.length else b.service? other := by
  obtain ⟨side, place⟩ := a
  obtain ⟨side', place'⟩ := other
  unfold service? tie? serve
  dsimp only
  by_cases here : side' = side
  · subst here
    rw [Function.update_self, List.getElem?_modify]
    by_cases there : place = place'
    · subst there
      cases (b.ties side')[place]? <;> simp
    · simp [there, Ne.symm there]
  · rw [Function.update_of_ne here]
    simp [here]

theorem faces_serve (b : Board) (a : Address) (voice : Option (Link × Listener)) :
    (b.serve a voice).faces = b.faces ++ [(a, voice.map Prod.fst)] :=
  List.map_append

theorem grows_serve (b : Board) (a : Address) (voice : Option (Link × Listener)) :
    b.faces <+: (b.serve a voice).faces := by
  rw [faces_serve]
  exact List.prefix_append ..

theorem houses_serve (b : Board) (a : Address) (voice : Option (Link × Listener)) :
    (b.serve a voice).Houses a b.posts.length := by
  have length : b.posts.length = b.faces.length := (List.length_map ..).symm
  refine ⟨voice.map Prod.fst, ?_⟩
  rw [faces_serve, length]
  exact List.getElem?_concat_length

theorem Tied.serve (tied : b.Tied told) (a : Address) {voice : Option (Link × Listener)}
    (own : ∀ link listener, voice = some (link, listener) → link.handle = b.posts.length) :
    (b.serve a voice).Tied told := by
  have length : b.faces.length = b.posts.length := List.length_map ..
  have grows := b.grows_serve a voice
  refine ⟨?_, ?_, ?_⟩
  · intro other service tells
    rw [service?_serve] at tells
    split at tells
    · rename_i here
      obtain ⟨-, -, rfl⟩ := Option.map_eq_some_iff.mp tells
      exact here ▸ b.houses_serve a voice
    · exact (tied.known other service tells).grow grows
  · intro service was
    obtain ⟨home, ⟨link, there⟩, silent⟩ := tied.told service was
    refine ⟨home, Houses.grow ⟨link, there⟩ grows, ?_⟩
    rw [service?_serve]
    split
    · have bound := (List.getElem?_eq_some_iff.mp there).1
      cases b.tie? a with
      | none => simp
      | some t =>
        simp only [Option.map_some, ne_eq, Option.some.injEq]
        omega
    · exact silent
  · intro service home link there
    rw [faces_serve, List.getElem?_append] at there
    split at there
    · exact tied.own service home link there
    · rename_i outside
      obtain ⟨same, here⟩ : service - b.faces.length = 0 ∧ (a, voice.map Prod.fst) =
          (home, some link) := by
        rw [List.getElem?_singleton] at there
        split at there
        · exact ⟨‹_›, Option.some.inj there⟩
        · exact absurd there (by simp)
      obtain ⟨⟨former, listener⟩, spoke, rfl⟩ := Option.map_eq_some_iff.mp (Prod.mk.inj here).2
      rw [own _ _ spoke]
      omega

theorem faces_dismiss (b : Board) (service : Nat) : (b.dismiss service).faces = b.faces :=
  map_modify_of_same fun _ _ => rfl

theorem faces_listen (b : Board) (service : Nat) (listener : Listener) :
    (b.listen service listener).faces = b.faces := by
  apply map_modify_of_same
  intro p _
  cases p.voice <;> rfl

end Board

/-- A service is where it was made for. -/
theorem address_of_houses {n : Network} {a : Address} {service : Nat}
    (houses : n.board.Houses a service) :
    (n.services[service]?).map Service.address = some a := by
  obtain ⟨link, there⟩ := houses
  obtain ⟨p, found, same⟩ := Option.map_eq_some_iff.mp ((List.getElem?_map ..).symm.trans there)
  obtain ⟨s, here, rfl⟩ := Option.map_eq_some_iff.mp ((getElem?_posts ..).symm.trans found)
  rw [here]
  exact congrArg some (Prod.mk.inj same).1

/-! ## Tasks -/

/-- Whether a task is a step of a reading task. -/
def Task.turns : Task → Bool
  | .read .. | .resume .. | .settle .. => true
  | _ => false

/-- Whether a task is a part of reading, that is a step of a reading task or a frame found by it. -/
def Task.reads : Task → Bool
  | .deliver .. => true
  | task => task.turns

/-- Whether a task neither is a part of reading nor tells a service. -/
def Task.isPlain : Task → Bool
  | .notify .. => false
  | task => !task.reads

/-- What was done leaves services where they are, and whoever is told has lost its connection. -/
structure Tidy (n : Network) (out : Network × List Task) : Prop where
  tied : ∀ {told : Nat → Prop}, n.board.Tied told →
    out.1.board.Tied fun service => told service ∨ ∃ reason, .notify service reason ∈ out.2
  grows : n.board.faces <+: out.1.board.faces

/-- What was done is tidy, and no frames were found by it. -/
structure Orderly (n : Network) (out : Network × List Task) : Prop extends Tidy n out where
  calls : ∀ task ∈ out.2, task.reads = false

variable {n m : Network} {tasks more : List Task} {out : Network × List Task}

theorem reads_of_isPlain {task : Task} (plain : task.isPlain = true) : task.reads = false := by
  cases task <;> first | rfl | exact absurd plain (by simp [Task.isPlain, Task.reads, Task.turns])

theorem not_notify_mem (plain : ∀ task ∈ tasks, task.isPlain = true) (service : Nat)
    (reason : String) : .notify service reason ∉ tasks :=
  fun waits => absurd (plain _ waits) (by simp [Task.isPlain])

/-- Nothing changes but who listens, who is held, and what the coordinator is at. -/
theorem orderly_of_same {b : Board} (becomes : out.1.board = b)
    (services : b.service? = n.board.service?) (faces : b.faces = n.board.faces)
    (plain : ∀ task ∈ out.2, task.isPlain = true) : Orderly n out where
  tied tied := becomes ▸ (tied.of_same services faces).mono fun service was =>
    was.resolve_right fun ⟨reason, waits⟩ => not_notify_mem plain service reason waits
  grows := becomes ▸ faces ▸ List.prefix_rfl
  calls task waits := reads_of_isPlain (plain task waits)

theorem orderly_of_board (same : out.1.board = n.board)
    (plain : ∀ task ∈ out.2, task.isPlain = true) : Orderly n out :=
  orderly_of_same same rfl rfl plain

namespace Orderly

/-- What is done in order is in order if what the first part leads to is dropped. -/
theorem next (first : Orderly n (m, tasks)) (second : Orderly m out) : Orderly n out where
  tied tied := (second.tied (first.tied tied)).mono fun _ => Or.imp_left .inl
  grows := first.grows.trans second.grows
  calls := second.calls

theorem append (orderly : Orderly n (m, tasks)) (plain : ∀ task ∈ more, task.isPlain = true) :
    Orderly n (m, tasks ++ more) where
  tied tied := by
    apply (orderly.tied tied).mono
    rintro service (was | ⟨reason, waits⟩)
    · exact .inl was
    · refine .inr ⟨reason, (List.mem_append.mp waits).resolve_right ?_⟩
      exact not_notify_mem plain service reason
  grows := orderly.grows
  calls task waits := (List.mem_append.mp waits).elim (orderly.calls task)
    fun later => reads_of_isPlain (plain task later)

end Orderly

/-- A change of a service that stays where it is, and the same backend. -/
theorem orderly_updateService (n : Network) (service : Nat) {f : Service → Service}
    (same : ∀ s, (f s).address = s.address ∧
      (f s).role.voice.map Prod.fst = s.role.voice.map Prod.fst) :
    Orderly n (n.updateService service f, []) := by
  refine orderly_of_same rfl rfl ?_ (by simp)
  show ((n.services.modify service f).map Service.post).map _ = (n.services.map Service.post).map _
  rw [List.map_map, List.map_map]
  apply map_modify_of_same
  intro s _
  obtain ⟨address, link⟩ := same s
  exact Prod.ext address link

/-! ### Closes -/

/-- **Closes.** The service of a connection that closes is told, if anybody. -/
theorem orderly_close (n : Network) (a : Address) (reason : String) :
    Orderly n (n.close a reason) := by
  rcases n.close_cases a reason with ⟨-, same, none⟩ | ⟨service, tie, shut, tells⟩
  · exact orderly_of_board same (by simp [none])
  · have tells? : n.board.service? a = service := by
      unfold Board.service?
      rw [tie]
      rfl
    refine ⟨⟨?_, ?_⟩, ?_⟩
    · intro told tied
      rw [shut, tells]
      apply (tied.shut a).mono
      rintro other (was | ⟨why, waits⟩)
      · exact .inl was
      · obtain ⟨s, here, same⟩ := List.mem_map.mp waits
        obtain ⟨rfl, -⟩ := Task.notify.inj same
        refine .inr (tells?.trans ?_)
        exact (Option.filter_eq_some_iff.mp (Option.mem_toList.mp here)).1
    · rw [shut]
      exact List.prefix_rfl
    · intro task waits
      obtain ⟨other, rfl⟩ := notify_of_close waits
      rfl

theorem orderly_reap (n : Network) (service : Nat) : Orderly n (n.reap service) := by
  rcases n.reap_cases service with ⟨same, none⟩ | ⟨-, p, -, ⟨-, dismissed, none⟩ | ⟨-, closes⟩⟩
  · exact orderly_of_board same (by simp [none])
  · exact orderly_of_same dismissed rfl (Board.faces_dismiss ..) (by simp [none])
  · rw [closes]
    have gone := n.orderly_updateService service (f := fun s => { s with gone := true })
      fun _ => ⟨rfl, rfl⟩
    exact gone.next (orderly_close ..)

theorem orderly_reapAll (n : Network) (services : List Nat) :
    Orderly n (n.reapAll services, []) := by
  induction services generalizing n with
  | nil => exact orderly_of_board rfl (by simp)
  | cons service rest ih => exact (n.orderly_reap service).next (ih _)

theorem orderly_release (n : Network) (service : Nat) : Orderly n (n.release service) := by
  have released := n.orderly_updateService service (f := fun s => { s with holds := s.holds - 1 })
    fun _ => ⟨rfl, rfl⟩
  exact released.next (orderly_reap ..)

theorem orderly_forgo (n : Network) (service : Nat) : Orderly n (n.forgo service) := by
  have forgone := n.orderly_updateService service (f := fun s => { s with scripted := false })
    fun _ => ⟨rfl, rfl⟩
  exact forgone.next (orderly_reap ..)

/-! ### Calls of the coordinator -/

theorem plain_tasksOf (effect : Effect) : ∀ task ∈ tasksOf effect, task.isPlain = true := by
  intro task waits
  cases effect with
  | idle => exact absurd waits List.not_mem_nil
  | conclude verdict =>
    obtain rfl := List.mem_singleton.mp waits
    rfl
  | send commands =>
    obtain ⟨⟨link, command⟩, -, here⟩ := List.mem_flatMap.mp waits
    simp only [List.mem_cons, List.not_mem_nil, or_false] at here
    rcases here with rfl | rfl <;> rfl

theorem plain_reaps (links : List Link) :
    ∀ task ∈ links.map fun link => Task.reap link.handle, task.isPlain = true := by
  intro task waits
  obtain ⟨link, -, rfl⟩ := List.mem_map.mp waits
  rfl

theorem orderly_advance (n : Network) (c : Coordinator) (effect : Effect) :
    Orderly n (n.advance c effect) :=
  orderly_of_same (n.board_advance c effect) rfl rfl (plain_tasksOf effect)

theorem orderly_handle (n : Network) (event : Event) : Orderly n (n.handle event) := by
  have followed := n.orderly_advance (n.coordinator.handle event).1 (n.coordinator.handle event).2
  refine followed.append ?_
  cases n.unboundBy? event with
  | none => exact fun _ waits => absurd waits List.not_mem_nil
  | some link => exact plain_reaps [link]

theorem orderly_tell (n : Network) (link : Link) (listener : Listener) (notice : Notice) :
    Orderly n (n.tell link listener notice) := by
  unfold Network.tell
  split
  · exact orderly_of_board rfl (by simp)
  · split
    · exact orderly_handle ..
    · exact orderly_of_board rfl (by simp)
  · split
    · exact orderly_of_board rfl (by simp)
    · exact orderly_of_board rfl (by simp)

theorem orderly_command (n : Network) (link : Link) (command : Command) :
    Orderly n (n.command link command) := by
  rcases n.command_cases link command with ⟨-, same, -⟩ |
    ⟨s, after, -, board, ⟨same, -, -⟩ | ⟨fault, same, -⟩⟩
  · rw [same]
    exact orderly_of_board rfl (by simp)
  all_goals
    have listens : Orderly n (after, []) :=
      orderly_of_same board rfl (Board.faces_listen ..) (by simp)
    rw [same]
  · exact listens
  · exact listens.next (orderly_handle ..)

theorem orderly_conclude (n : Network) (verdict : Verdict) :
    Orderly n (n.conclude verdict, []) := by
  unfold conclude
  generalize n.coordinator.conclude verdict = concluded
  obtain ⟨coordinator, packet, continues⟩ := concluded
  dsimp only
  have known : Orderly n ({ n with coordinator := coordinator }, []) :=
    orderly_of_same rfl rfl rfl (by simp)
  exact (known.next (orderly_reapAll ..)).next
    (orderly_of_board (board_tellClient ..) (by simp))

/-! ### Services at work -/

theorem orderly_deliver (n : Network) (service : Nat) (frame : Bytes) :
    Orderly n (n.deliver service frame) := by
  unfold deliver
  split
  · exact orderly_of_board rfl (by simp)
  · rename_i s there
    split
    · rename_i key actions seen recorder
      refine orderly_of_board (n.board_updateRole there (by rw [recorder]; rfl)) ?_
      intro task waits
      obtain ⟨action, -, rfl⟩ := List.mem_map.mp waits
      rfl
    · rename_i link replies listener backend
      generalize replies.hear frame = out
      obtain ⟨replies', meaning⟩ := out
      -- The reply state changes first; what it means is told, and a close may follow the telling.
      have heard : Orderly n (n.updateService service fun s =>
          { s with role := .backend link replies' listener }, []) :=
        orderly_of_board (n.board_updateRole there (by rw [backend]; rfl)) (by simp)
      dsimp only
      split
      · exact heard
      · rename_i notice _
        have told := heard.next (orderly_tell _ link listener notice)
        split
        · exact told
        · exact told.append (by simp [Task.isPlain, Task.reads, Task.turns])
        · exact told

theorem orderly_notify (n : Network) (service : Nat) (reason : String) :
    Orderly n (n.notify service reason) := by
  unfold Network.notify
  split
  · exact orderly_of_board rfl (by simp)
  · split
    · exact orderly_of_board rfl (by simp)
    · exact orderly_tell ..

theorem orderly_act (n : Network) (a : Address) (action : Action) : Orderly n (n.act a action) := by
  cases action with
  | close reason => exact n.orderly_close a reason
  | write data =>
    have same := n.board_write a data
    unfold act
    dsimp only
    generalize n.write a data = out at same
    obtain ⟨after, result⟩ := out
    cases result with
    | ok => exact orderly_of_board same (by simp)
    | error fault => exact orderly_of_board same (by simp)

/-- **Tasks.** Whatever is no step of a reading task finds no frames, and tells only a service whose
connection it closes. -/
theorem orderly_perform (n : Network) {task : Task} (other : task.turns = false) :
    Orderly n (n.perform task) := by
  cases task with
  | read | resume | settle => exact absurd other (by simp [Task.turns])
  | send a crew =>
    refine orderly_of_board (n.board_send a crew) ?_
    show ∀ task ∈ (n.send a crew).2, _
    unfold Network.send
    dsimp only
    split <;> simp [Task.isPlain, Task.reads, Task.turns]
  | deliver service frame => exact n.orderly_deliver service frame
  | endReader a crew =>
    exact orderly_of_board (n.board_setHub_of_ties (Hub.counts_endReader ..).ties)
      (by simp [Network.perform])
  | endWriter a crew =>
    exact orderly_of_board (n.board_setHub_of_ties (Hub.counts_endWriter ..).ties)
      (by simp [Network.perform])
  | close a reason => exact n.orderly_close a reason
  | notify service reason => exact n.orderly_notify service reason
  | act a action => exact n.orderly_act a action
  | command link command => exact n.orderly_command link command
  | conclude verdict => exact n.orderly_conclude verdict
  | release service => exact n.orderly_release service
  | reap service => exact n.orderly_reap service

/-! ### Calls -/

theorem orderly_openLine (n : Network) (key : Key) (host : String) (port : UInt16)
    (maxPacketSize : Nat) (shrinks : Bool) :
    Orderly n (n.openLine key host port maxPacketSize shrinks, []) :=
  orderly_of_same (n.board_openLine ..) (Board.service?_extend ..) rfl (by simp)

/-- A connection gets a service that is new. -/
theorem orderly_serve (n : Network) (line : Line) {role : Role}
    (own : ∀ link listener, role.voice = some (link, listener) →
      link.handle = n.services.length) : Orderly n (n.serve line role, []) := by
  have board : (n.serve line role).board = n.board.serve line.address role.voice :=
    n.board_serve line role
  have length : n.board.posts.length = n.services.length := List.length_map ..
  refine ⟨⟨?_, ?_⟩, by simp⟩
  · intro told tied
    rw [board]
    exact (tied.serve line.address (length ▸ own)).mono fun service => by simp
  · rw [board]
    exact n.board.grows_serve ..

theorem orderly_start (n : Network) (a : Address) : Orderly n (n.start a, []) :=
  orderly_of_board (n.board_start a) (by simp)

theorem orderly_onSession (n : Network) (session : Session) : Orderly n (n.onSession session) :=
  orderly_of_same rfl rfl rfl (plain_reaps _)

theorem orderly_started (n : Network) (result : Coordinator × Except Fault Effect) :
    Orderly n ((n.started result).1, (n.started result).2.2) := by
  obtain ⟨coordinator, _ | effect⟩ := result
  · exact orderly_of_same rfl rfl rfl (by simp [started])
  · exact n.orderly_advance coordinator effect

theorem orderly_addBackend (n : Network) (name : String) (info : LinkInfo) (maxPacketSize : Nat)
    (shrinks : Bool) : Orderly n (n.addBackend name info maxPacketSize shrinks, []) := by
  let a : Address := ⟨.back, n.back.connections.length⟩
  let link : Link := ⟨n.services.length, ⟨name⟩, info⟩
  let line : Line := { key := ⟨.back, name⟩, address := a }
  let role : Role := .backend link .idle .nobody
  let opened := n.openLine ⟨.back, name⟩ info.host info.port maxPacketSize shrinks
  let plugged := (opened.serve line role).start a
  let bound : Network :=
    { plugged with coordinator.session := plugged.coordinator.session.attach link }
  -- One orderly step for each thing done, chained in the order in which they are done.
  have opens : Orderly n (opened, []) := n.orderly_openLine ..
  have serves : Orderly opened (opened.serve line role, []) := by
    apply orderly_serve
    rintro _ _ ⟨⟩
    rfl
  have starts : Orderly (opened.serve line role) (plugged, []) := orderly_start ..
  have binds : Orderly plugged (bound, []) := orderly_of_same rfl rfl rfl (by simp)
  have added (former : Option Nat) (here : (n.line? ⟨.back, name⟩).bind Line.service = former) :
      n.addBackend name info maxPacketSize shrinks =
        former.elim bound fun service => (bound.forgo service).1 := by
    subst here
    dsimp only [addBackend]
    cases (n.line? ⟨.back, name⟩).bind Line.service <;> rfl
  have new := ((opens.next serves).next starts).next binds
  rw [added _ rfl]
  cases (n.line? ⟨.back, name⟩).bind Line.service with
  | none => exact new
  | some service =>
    exact (new.next (bound.orderly_forgo service)).next (orderly_of_board rfl (by simp))

theorem orderly_instructLine (n : Network) (line : Line) (i : Instruction) :
    Orderly n ((n.instructLine line i).1, (n.instructLine line i).2.2) := by
  have nothing : Orderly n (n, []) := orderly_of_board rfl (by simp)
  cases i with
  | record key actions =>
    have recorder : ∀ m, Orderly m (m.serve line (.recorder line.key.name actions 0), []) :=
      fun m => m.orderly_serve line (by rintro _ _ ⟨⟩)
    simp only [instructLine]
    split
    · rename_i service _
      have gone := n.orderly_updateService service
        (f := fun s => { s with scripted := false, gone := true }) fun _ => ⟨rfl, rfl⟩
      exact gone.next (recorder _)
    · exact recorder n
  | start key =>
    exact (n.orderly_start line.address).next (orderly_of_board rfl (by simp [instructLine]))
  | write key data =>
    exact orderly_of_board (n.board_write line.address data) (by simp [instructLine])
  | close key reason => exact n.orderly_close line.address reason
  | allocate key size =>
    exact orderly_of_board (n.board_setHub_of_ties rfl) (by simp [instructLine])
  | recycle key =>
    simp only [instructLine]
    split
    · exact nothing
    · exact orderly_of_board (n.board_setHub_of_ties rfl) (by simp)
  | peer key act =>
    exact orderly_of_board (n.board_peer line.address act) (by simp [instructLine])
  | release key =>
    simp only [instructLine]
    split
    · exact nothing
    · exact n.orderly_forgo _
  | send key kind =>
    simp only [instructLine]
    split
    · exact nothing
    · exact orderly_of_board (n.board_sendCommand _ kind) (by simp)
  | listen key listener =>
    simp only [instructLine]
    split
    · exact nothing
    · refine n.orderly_updateService _ fun s => ⟨rfl, ?_⟩
      cases s.role <;> rfl
  | attach key =>
    simp only [instructLine]
    split
    · exact n.orderly_onSession _
    · exact nothing
  | drop | join => exact orderly_of_board rfl (by simp [instructLine])
  | «open» | lookup | interrupt | closeSession | setXa | commit | rollback | detach
  | clearTransaction => exact nothing

/-- **Calls.** Whatever is called, no frames are found, and only a service whose connection is
closed is told. -/
theorem orderly_instruct (n : Network) (i : Instruction) :
    Orderly n ((n.instruct i).1, (n.instruct i).2.2) := by
  have onLine : ∀ {key}, i.key? = some key →
      Orderly n ((n.instruct i).1, (n.instruct i).2.2) := by
    intro key about
    rcases n.instruct_cases about with nothing | ⟨line, same⟩
    · rw [nothing]
      exact orderly_of_board rfl (by simp)
    · rw [same]
      exact n.orderly_instructLine line i
  cases i with
  | «open» key host port maxPacketSize shrinks =>
    exact n.orderly_openLine key host port maxPacketSize shrinks
  | lookup => exact orderly_of_board rfl (by simp [instruct])
  | closeSession | setXa => exact orderly_of_same rfl rfl rfl (by simp [instruct])
  | commit | rollback => exact n.orderly_started _
  | interrupt reason =>
    simp only [instruct]
    split
    · exact orderly_of_board rfl (by simp)
    · rename_i coordinator packet _
      have known : Orderly n ({ n with coordinator := coordinator }, []) :=
        orderly_of_same rfl rfl rfl (by simp)
      exact known.next (orderly_of_board (board_tellClient ..) (by simp))
  | detach id => exact n.orderly_onSession _
  | clearTransaction => exact n.orderly_onSession _
  | record | start | write | close | allocate | recycle | drop | join | peer | release | send
  | listen | attach => exact onLine rfl

end Network

end AtomicCommit
