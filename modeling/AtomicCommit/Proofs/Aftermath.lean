import AtomicCommit.Proofs.Retirement
import AtomicCommit.Proofs.Utterance

/-!
# After the close

A reading task looks up the service of its connection once for all frames of a read, and hands them
over one after the other. So frames that it has in hand when the service is told of the close are
handed over after that.

`Crowd` is a network with threads, each of which works off what it has to do in order, and all of
which go on in any order.

* **tasks** — `Paced.perform`: the frames that a thread has in hand are the last ones of one read of
  the connection of their service.
* **steps** — `Crowd.Kept.balance_move`: a service that was told is handed only what waited.
* **runs** — `Crowd.Kept.balance` and `Crowd.dries`: and all that waited, once the threads are done.
* **scripts** — `Crowd.plays`: what `Network.play` does are moves.
-/

namespace AtomicCommit

open Wire Transport

namespace Network

variable {n : Network} {tasks more : List Task}

/-! ## Threads -/

/-- The frame that a task hands to a service. -/
def Task.frameFor? (service : Nat) : Task → Option Bytes
  | .deliver s frame => if s = service then some frame else none
  | _ => none

/-- The frames that are to be handed to a service. -/
def waiting (service : Nat) (tasks : List Task) : List Bytes :=
  tasks.filterMap (Task.frameFor? service)

theorem waiting_append (service : Nat) (tasks more : List Task) :
    waiting service (tasks ++ more) = waiting service tasks ++ waiting service more :=
  List.filterMap_append

theorem frameFor?_of_not_reads {task : Task} (call : task.reads = false) (service : Nat) :
    task.frameFor? service = none := by
  cases task <;> first | rfl | exact absurd call (by simp [Task.reads])

theorem waiting_of_calls (calls : ∀ task ∈ tasks, task.reads = false) (service : Nat) :
    waiting service tasks = [] :=
  List.filterMap_eq_nil_iff.mpr fun task waits => frameFor?_of_not_reads (calls task waits) service

/-- The frames of a read are handed to one service. -/
theorem waiting_deliver (service other : Nat) (frames : List Bytes) :
    waiting service (frames.map (.deliver other)) = if other = service then frames else [] := by
  induction frames with
  | nil => simp [waiting]
  | cons frame rest ih =>
    unfold waiting at *
    rw [List.map_cons, List.filterMap_cons, ih]
    unfold Task.frameFor?
    split <;> simp_all

/-- What reading comes to next, behind whatever the frame handed over last led to: the other frames
of the read, of which the first are gone, and then what follows them. The services of frames are
those of the connections that they were read from. -/
inductive Reading (home : Address → Nat → Prop) : List Task → Prop
  | nothing : Reading home []
  | read (a : Address) (crew : Nat) : Reading home [.read a crew]
  | resume (a : Address) (crew : Nat) : Reading home [.resume a crew]
  | dropped (a : Address) (crew : Nat) (split : Split) : Reading home [.settle a crew none split]
  | frames {a : Address} {service : Nat} (crew : Nat) {frames : List Bytes} {split : Split}
      (here : home a service) (last : frames <:+ split.frames) :
      Reading home (frames.map (.deliver service) ++ [.settle a crew (some service) split])

/-- Calls come before reading goes on. -/
inductive Paced (home : Address → Nat → Prop) : List Task → Prop
  | reading {tasks : List Task} (reading : Reading home tasks) : Paced home tasks
  | call {task : Task} {tasks : List Task} (call : task.reads = false) (rest : Paced home tasks) :
      Paced home (task :: tasks)

namespace Paced

variable {home home' : Address → Nat → Prop} {task : Task} {rest : List Task}

theorem mono (paced : Paced home tasks) (more : ∀ a service, home a service → home' a service) :
    Paced home' tasks := by
  induction paced with
  | call call rest ih => exact .call call ih
  | reading reading =>
    refine .reading ?_
    cases reading with
    | nothing => exact .nothing
    | read a crew => exact .read a crew
    | resume a crew => exact .resume a crew
    | dropped a crew split => exact .dropped a crew split
    | frames crew here last => exact .frames crew (more _ _ here) last

theorem append (calls : ∀ task ∈ tasks, task.reads = false) (rest : Paced home more) :
    Paced home (tasks ++ more) := by
  induction tasks with
  | nil => exact rest
  | cons task tasks ih =>
    exact .call (calls task List.mem_cons_self)
      (ih fun other waits => calls other (List.mem_cons_of_mem _ waits))

theorem of_calls (calls : ∀ task ∈ tasks, task.reads = false) : Paced home tasks :=
  List.append_nil tasks ▸ append calls (.reading .nothing)

/-- Behind a step of a reading task nothing waits, and behind anything else reading goes on. -/
theorem behind (paced : Paced home (task :: rest)) :
    Paced home rest ∧ (task.turns = true → rest = []) := by
  generalize same : task :: rest = tasks at paced
  cases paced with
  | call call rest =>
    obtain ⟨rfl, rfl⟩ := List.cons.inj same
    refine ⟨rest, fun turns => ?_⟩
    cases task <;> simp_all [Task.turns, Task.reads]
  | reading reading =>
    cases reading with
    | nothing => cases same
    | read | resume | dropped =>
      obtain ⟨rfl, rfl⟩ := List.cons.inj same
      exact ⟨.reading .nothing, fun _ => rfl⟩
    | @frames a service crew frames split here last =>
      cases frames with
      | nil =>
        obtain ⟨rfl, rfl⟩ := List.cons.inj same
        exact ⟨.reading .nothing, fun _ => rfl⟩
      | cons frame frames =>
        obtain ⟨rfl, rfl⟩ := List.cons.inj same
        refine ⟨.reading (.frames crew here ?_), fun turns => absurd turns (by simp [Task.turns])⟩
        exact (List.suffix_cons frame frames).trans last

/-- The frames that wait for a service are the last ones of one read of its connection. -/
theorem waiting (paced : Paced home tasks) (service : Nat) :
    waiting service tasks = [] ∨ ∃ a crew split, home a service ∧
      .settle a crew (some service) split ∈ tasks ∧ waiting service tasks <:+ split.frames := by
  -- only the reading that a thread is about to return to hands over frames
  induction paced with
  | @call task rest call paced ih =>
    have same : Network.waiting service (task :: rest) = Network.waiting service rest :=
      List.filterMap_cons_none (frameFor?_of_not_reads call service)
    rw [same]
    refine ih.imp_right ?_
    rintro ⟨a, crew, split, here, settles, last⟩
    exact ⟨a, crew, split, here, List.mem_cons_of_mem _ settles, last⟩
  | reading reading =>
    cases reading with
    | nothing | read | resume | dropped => exact .inl rfl
    | @frames a other crew frames split here last =>
      have found : Network.waiting service
          (frames.map (.deliver other) ++ [.settle a crew (some other) split]) =
            if other = service then frames else [] := by
        rw [waiting_append, waiting_deliver]
        exact List.append_nil _
      rw [found]
      by_cases same : other = service
      · subst same
        rw [if_pos rfl]
        exact .inr ⟨a, crew, split, here, List.mem_append_right _ (List.mem_singleton_self _), last⟩
      · exact .inl (if_neg same)

end Paced

/-- A turn of a reading task finds frames for the service of its connection, if any. -/
theorem paced_read (n : Network) (a : Address) (crew : Nat) :
    (∀ service reason, .notify service reason ∉ (n.read a crew).2) ∧
      Paced (fun a service => n.board.service? a = some service) (n.read a crew).2 := by
  have serves : ∀ {service split},
      ((n.hub a.side).read a.place crew).2 = .frames service split →
        n.board.service? a = service := Hub.frames_of_read
  unfold Network.read
  generalize (n.hub a.side).read a.place crew = out at serves
  obtain ⟨hub, turn⟩ := out
  dsimp only at serves ⊢
  split
  · exact ⟨by simp, .reading .nothing⟩
  · exact ⟨by simp, .of_calls (by simp [Task.reads, Task.turns])⟩
  · exact ⟨by simp, .of_calls (by simp [Task.reads, Task.turns])⟩
  · rename_i service split
    split
    · rename_i s alive
      obtain ⟨here, -⟩ := Option.filter_eq_some_iff.mp alive
      exact ⟨by simp, .reading (.frames crew ((serves rfl).trans here) List.suffix_rfl)⟩
    · exact ⟨by simp, .reading (.dropped a crew split)⟩

/-- Behind its frames a reading task lets go of their service, and stops or reads on. -/
theorem paced_settle (n : Network) (a : Address) (crew : Nat) (service : Option Nat)
    (split : Split) : (∀ s reason, .notify s reason ∉ (n.settle a crew service split).2) ∧
      Paced (fun a service => n.board.service? a = some service)
        (n.settle a crew service split).2 := by
  have released : ∀ task ∈ service.toList.map Task.release, task.reads = false := by
    intro task waits
    obtain ⟨s, -, rfl⟩ := List.mem_map.mp waits
    rfl
  unfold Network.settle
  dsimp only
  split
  · exact ⟨by simp, .append released (.of_calls (by simp [Task.reads, Task.turns]))⟩
  · exact ⟨by simp, .append released (.reading (.resume a crew))⟩

/-- A step of a reading task changes nothing that shows, tells nobody, and finds frames for the
service of its connection. -/
theorem perform_of_turns (n : Network) {task : Task} (turns : task.turns = true) :
    (n.perform task).1.board = n.board ∧
      (∀ service reason, .notify service reason ∉ (n.perform task).2) ∧
      Paced (fun a service => n.board.service? a = some service) (n.perform task).2 := by
  cases task with
  | send | deliver | endReader | endWriter | close | notify | act | command | conclude | release
  | reap => exact absurd turns (by simp [Task.turns])
  | resume a crew =>
    exact ⟨n.board_setHub_of_ties (Hub.counts_shrink ..).ties, by simp [Network.perform],
      .reading (.read a crew)⟩
  | settle a crew service split =>
    exact ⟨n.board_settle a crew service split, n.paced_settle a crew service split⟩
  | read a crew => exact ⟨n.board_read a crew, n.paced_read a crew⟩

theorem tidy_perform (n : Network) (task : Task) : Tidy n (n.perform task) := by
  cases turns : task.turns with
  | false => exact (n.orderly_perform turns).toTidy
  | true =>
    obtain ⟨same, silent, -⟩ := n.perform_of_turns turns
    refine ⟨?_, same ▸ List.prefix_rfl⟩
    intro told tied
    rw [same]
    exact tied.mono fun service was => was.resolve_right fun ⟨reason, tells⟩ => silent _ _ tells

theorem paced_perform (n : Network) (task : Task) :
    Paced (fun a service => n.board.service? a = some service) (n.perform task).2 := by
  cases turns : task.turns with
  | false => exact .of_calls (n.orderly_perform turns).calls
  | true => exact (n.perform_of_turns turns).2.2

/-- What a task leads to comes before what was behind it. -/
theorem Paced.perform {home : Address → Nat → Prop} {task : Task} {rest : List Task}
    (paced : Paced home (task :: rest)) (n : Network)
    (known : ∀ a service, n.board.service? a = some service → home a service) :
    Paced home ((n.perform task).2 ++ rest) := by
  cases turns : task.turns with
  | false => exact .append (n.orderly_perform turns).calls paced.behind.1
  | true =>
    rw [paced.behind.2 turns, List.append_nil]
    exact (n.paced_perform task).mono known

/-- A service that no connection has is found no frames. -/
theorem waiting_perform {service : Nat} (retired : ∀ a, n.board.service? a ≠ some service)
    (task : Task) : waiting service (n.perform task).2 = [] := by
  rcases (n.paced_perform task).waiting service with none | ⟨a, -, -, tells, -⟩
  · exact none
  · exact absurd tells (retired a)

/-! ## Crowds -/

/-- A network and its threads, each of which works off what it has to do in order. -/
structure Crowd where
  network : Network
  threads : List (List Task) := []

namespace Crowd

/-- What can go on in a crowd. -/
inductive Move where
  /-- A new thread makes a call, or a peer does something. -/
  | call (i : Instruction)
  | addBackend (name : String) (info : LinkInfo) (maxPacketSize : Nat) (shrinks : Bool)
  /-- The task of a connection at this place of the queue gets its turn, in a new thread. -/
  | turn (place : Nat)
  /-- A thread carries out what comes next. -/
  | go (thread : Nat)

/-- Make a move. -/
def move (c : Crowd) : Move → Crowd
  | .call i => ⟨(c.network.instruct i).1, c.threads ++ [(c.network.instruct i).2.2]⟩
  | .addBackend name info maxPacketSize shrinks =>
    { c with network := c.network.addBackend name info maxPacketSize shrinks }
  | .turn place =>
    match c.network.ready[place]? with
    | some job =>
      ⟨{ c.network with ready := c.network.ready.eraseIdx place }, c.threads ++ [[job.task]]⟩
    | none => c
  | .go thread =>
    match c.threads[thread]? with
    | some (task :: rest) =>
      ⟨(c.network.perform task).1, c.threads.set thread ((c.network.perform task).2 ++ rest)⟩
    | _ => c

def after (c : Crowd) (moves : List Move) : Crowd :=
  moves.foldl move c

/-- A thread carries out a task. -/
structure Deed where
  thread : Nat
  /-- The network that it finds. -/
  found : Network
  task : Task

/-- What a move carries out. -/
def deed? (c : Crowd) : Move → Option Deed
  | .go thread =>
    match c.threads[thread]? with
    | some (task :: _) => some ⟨thread, c.network, task⟩
    | _ => none
  | _ => none

/-- What moves carry out, in order. -/
def deeds (c : Crowd) : List Move → List Deed
  | [] => []
  | move :: rest => (c.deed? move).toList ++ (c.move move).deeds rest

/-- The frames that a thread hands to a service, in order. -/
def handed (thread service : Nat) (deeds : List Deed) : List Bytes :=
  deeds.filterMap fun deed =>
    if deed.thread = thread then deed.task.frameFor? service else none

def stack (c : Crowd) (thread : Nat) : List Task :=
  c.threads[thread]?.getD []

/-- A network without connections, and no threads yet. -/
def new (session : Session) (front back : String × Pool) : Crowd where
  network := {
    coordinator := { session := session }
    front := { name := front.1, pool := front.2 }
    back := { name := back.1, pool := back.2 } }

/-! ### Steps -/

/-- A thread is about to tell a service. -/
def Tells (c : Crowd) (service : Nat) : Prop :=
  ∃ tasks ∈ c.threads, ∃ reason, .notify service reason ∈ tasks

/-- No connection has a service any more that was told, or that a thread is about to tell, and what
threads have in hand was read from the connections of the services. -/
structure Kept (c : Crowd) (told : Nat → Prop) : Prop where
  tied : c.network.board.Tied fun service => told service ∨ c.Tells service
  paced : ∀ tasks ∈ c.threads, Paced c.network.board.Houses tasks

variable {c : Crowd} {told told' : Nat → Prop} {service : Nat}

theorem Kept.mono (kept : c.Kept told) (fewer : ∀ service, told' service → told service) :
    c.Kept told' :=
  ⟨kept.tied.mono fun service => Or.imp_left (fewer service), kept.paced⟩

/-- Something tidy is done in a thread. -/
theorem Kept.step (kept : c.Kept told) {c' : Crowd} {new : List Task}
    (tidy : Tidy c.network (c'.network, new))
    (tells : ∀ service, told' service ∨ c'.Tells service →
      (told service ∨ c.Tells service) ∨ ∃ reason, .notify service reason ∈ new)
    (paced : ∀ tasks ∈ c'.threads,
      tasks ∈ c.threads ∨ Paced c'.network.board.Houses tasks) : c'.Kept told' := by
  refine ⟨(tidy.tied kept.tied).mono tells, ?_⟩
  intro tasks there
  rcases paced tasks there with before | now
  · exact (kept.paced tasks before).mono fun a service houses => houses.grow tidy.grows
  · exact now

/-- Something is done that begins a thread. -/
theorem Kept.begins (kept : c.Kept told) {m : Network} {tasks : List Task}
    (tidy : Tidy c.network (m, tasks)) (paced : Paced m.board.Houses tasks) :
    Kept ⟨m, c.threads ++ [tasks]⟩ told := by
  refine kept.step tidy ?_ ?_
  · rintro service (was | ⟨stack, there, reason, waits⟩)
    · exact .inl (.inl was)
    · rcases List.mem_append.mp there with before | new
      · exact .inl (.inr ⟨stack, before, reason, waits⟩)
      · obtain rfl := List.mem_singleton.mp new
        exact .inr ⟨reason, waits⟩
  · intro stack there
    refine (List.mem_append.mp there).imp_right fun new => ?_
    obtain rfl := List.mem_singleton.mp new
    exact paced

/-- Whoever is told by a task was told. -/
theorem Kept.perform (kept : c.Kept told) {thread : Nat} {task : Task} {rest : List Task}
    (next : c.threads[thread]? = some (task :: rest)) : (c.move (.go thread)).Kept fun service =>
      told service ∨ ∃ reason, task = .notify service reason := by
  have moved : c.move (.go thread) = ⟨(c.network.perform task).1,
      c.threads.set thread ((c.network.perform task).2 ++ rest)⟩ := by
    simp only [move, next]
  have there := List.mem_of_getElem? next
  rw [moved]
  refine kept.step (c.network.tidy_perform task) ?_ ?_
  · -- a notice that waits now waited before, was this task, or was left by it
    rintro service ((was | ⟨reason, rfl⟩) | ⟨stack, here, reason, waits⟩)
    · exact .inl (.inl was)
    · exact .inl (.inr ⟨_, there, reason, List.mem_cons_self⟩)
    · rcases List.mem_or_eq_of_mem_set here with before | rfl
      · exact .inl (.inr ⟨stack, before, reason, waits⟩)
      · rcases List.mem_append.mp waits with new | later
        · exact .inr ⟨reason, new⟩
        · exact .inl (.inr ⟨_, there, reason, List.mem_cons_of_mem _ later⟩)
  · intro stack here
    refine (List.mem_or_eq_of_mem_set here).imp_right ?_
    rintro rfl
    have grows := (c.network.tidy_perform task).grows
    have paced : Paced (c.network.perform task).1.board.Houses (task :: rest) :=
      (kept.paced _ there).mono fun a service houses => houses.grow grows
    exact paced.perform c.network fun a service tells =>
      (kept.tied.known a service tells).grow grows

theorem Kept.move (kept : c.Kept told) (move : Move) : (c.move move).Kept told := by
  cases move with
  | call i =>
    have orderly := c.network.orderly_instruct i
    exact kept.begins orderly.toTidy (.of_calls orderly.calls)
  | addBackend name info maxPacketSize shrinks =>
    have tidy := (c.network.orderly_addBackend name info maxPacketSize shrinks).toTidy
    exact kept.step tidy (fun _ => .inl) fun _ => .inl
  | turn place =>
    simp only [Crowd.move]
    split
    · rename_i job _
      -- the turn of a connection's task hands over no notice
      have silent : ∀ service reason, .notify service reason ∉ [job.task] := by
        intro service reason
        unfold Job.task
        split <;> simp
      refine kept.begins ⟨fun tied => tied.mono ?_, List.prefix_rfl⟩ ?_
      · exact fun service was => was.resolve_right fun ⟨reason, tells⟩ => silent _ _ tells
      · unfold Job.task
        split
        · exact .reading (.read ..)
        · exact .of_calls (by simp [Task.reads, Task.turns])
    · exact kept
  | go thread =>
    cases next : c.threads[thread]? with
    | none =>
      simp only [Crowd.move, next]
      exact kept
    | some tasks =>
      cases tasks with
      | nil =>
        simp only [Crowd.move, next]
        exact kept
      | cons task rest => exact (kept.perform next).mono fun _ => .inl

/-! ### Runs -/

theorem Kept.after (kept : c.Kept told) (moves : List Move) : (c.after moves).Kept told := by
  induction moves generalizing c with
  | nil => exact kept
  | cons move rest ih => exact ih (kept.move move)

/-- The frames that a thread has in hand for a service are the last ones of one read of its
connection. -/
theorem Kept.in_hand (kept : c.Kept told) (service thread : Nat) :
    waiting service (c.stack thread) = [] ∨ ∃ a crew split,
      c.network.board.Houses a service ∧ .settle a crew (some service) split ∈ c.stack thread ∧
        waiting service (c.stack thread) <:+ split.frames := by
  unfold stack
  cases there : c.threads[thread]? with
  | none => exact .inl rfl
  | some tasks => exact (kept.paced tasks (List.mem_of_getElem? there)).waiting service

theorem kept_new (session : Session) (front back : String × Pool) :
    (new session front back).Kept fun _ => False := by
  have bare : ∀ a, (new session front back).network.board.service? a = none := by
    rintro ⟨side, place⟩
    cases side <;> rfl
  refine ⟨⟨?_, ?_, ?_⟩, ?_⟩
  · intro a service tells
    rw [bare] at tells
    exact absurd tells (by simp)
  · rintro service (never | ⟨tasks, there, reason, waits⟩)
    · exact never.elim
    · exact absurd there List.not_mem_nil
  · intro service a link there
    exact absurd there (by simp [Board.faces, board, new])
  · intro tasks there
    exact absurd there List.not_mem_nil

/-- A new thread has no frames in hand. -/
theorem waiting_stack_begins {tasks : List Task} (none : waiting service tasks = []) (m : Network)
    (thread : Nat) : waiting service (stack ⟨m, c.threads ++ [tasks]⟩ thread) =
      waiting service (c.stack thread) := by
  unfold stack
  dsimp only
  rw [List.getElem?_append]
  split
  · rfl
  · rename_i outside
    rw [List.getElem?_eq_none (Nat.le_of_not_lt outside), List.getElem?_singleton]
    split
    · exact none
    · rfl

/-- **Steps.** What a move hands to a service that was told waited before, in the same thread. -/
theorem Kept.balance_move (kept : c.Kept told) (was : told service) (move : Move) (thread : Nat) :
    handed thread service (c.deed? move).toList ++ waiting service ((c.move move).stack thread) =
      waiting service (c.stack thread) := by
  have retired := kept.tied.retired (.inl was)
  cases move with
  | call i =>
    exact waiting_stack_begins (waiting_of_calls (c.network.orderly_instruct i).calls service) ..
  | addBackend => rfl
  | turn place =>
    simp only [Crowd.move]
    split
    · rename_i job _
      have none : waiting service [job.task] = [] := by
        unfold Job.task
        split <;> rfl
      exact waiting_stack_begins none ..
    · rfl
  | go other =>
    simp only [Crowd.move, deed?]
    split
    · rename_i task rest next
      -- what the task leads to has no frame for a service that was told
      have found := c.network.waiting_perform retired task
      have bound := (List.getElem?_eq_some_iff.mp next).1
      unfold stack
      dsimp only
      rw [List.getElem?_set]
      by_cases same : other = thread
      · subst same
        rw [if_pos rfl, if_pos bound, next, Option.getD_some, Option.getD_some, waiting_append,
          found, List.nil_append]
        unfold handed waiting
        rw [List.filterMap_cons]
        cases frame : task.frameFor? service <;> simp [frame]
      · rw [if_neg same]
        unfold handed
        simp [same]
    · rfl

theorem handed_append (thread service : Nat) (xs ys : List Deed) :
    handed thread service (xs ++ ys) = handed thread service xs ++ handed thread service ys :=
  List.filterMap_append

/-- **Runs.** What is handed to a service that was told, followed by what still waits, is what
waited then. -/
theorem Kept.balance (kept : c.Kept told) (was : told service) (moves : List Move) (thread : Nat) :
    handed thread service (c.deeds moves) ++ waiting service ((c.after moves).stack thread) =
      waiting service (c.stack thread) := by
  induction moves generalizing c with
  | nil => rfl
  | cons move rest ih =>
    calc handed thread service (c.deeds (move :: rest)) ++ _
      _ = handed thread service (c.deed? move).toList ++
            (handed thread service ((c.move move).deeds rest) ++
              waiting service (((c.move move).after rest).stack thread)) := by
          rw [deeds, handed_append, List.append_assoc]
          rfl
      _ = handed thread service (c.deed? move).toList ++
            waiting service ((c.move move).stack thread) := by
          rw [ih (kept.move move)]
      _ = waiting service (c.stack thread) := kept.balance_move was move thread

theorem stack_go {thread : Nat} {task : Task} {rest : List Task}
    (next : c.threads[thread]? = some (task :: rest)) :
    (c.move (.go thread)).network = (c.network.perform task).1 ∧
      (c.move (.go thread)).stack thread = (c.network.perform task).2 ++ rest := by
  have bound := (List.getElem?_eq_some_iff.mp next).1
  unfold stack
  simp only [Crowd.move, next]
  rw [List.getElem?_set, if_pos rfl, if_pos bound]
  exact ⟨trivial, rfl⟩

/-- Left to itself, a thread works off all that it has to do. -/
theorem dries (c : Crowd) (thread : Nat) : ∃ moves, (c.after moves).stack thread = [] := by
  cases next : c.threads[thread]? with
  | none => exact ⟨[], by simp [Crowd.after, stack, next]⟩
  | some tasks =>
    cases tasks with
    | nil => exact ⟨[], by simp [Crowd.after, stack, next]⟩
    | cons task rest =>
      obtain ⟨network, left⟩ := stack_go next
      obtain ⟨moves, dry⟩ := dries (c.move (.go thread)) thread
      exact ⟨.go thread :: moves, dry⟩
  termination_by c.network.remaining (c.stack thread)
  decreasing_by
    have here : c.stack thread = task :: rest := by simp [stack, next]
    rw [network, left, here]
    exact less_perform c.network task rest

/-! ### Scripts -/

theorem after_append (c : Crowd) (xs ys : List Move) :
    c.after (xs ++ ys) = (c.after xs).after ys :=
  List.foldl_append

/-- What a network works off are moves: of the thread that begins with it, and then of one for each
turn. -/
theorem runs (n : Network) (tasks : List Task) (threads : List (List Task)) :
    ∃ moves ended, (∀ tasks ∈ ended, tasks = []) ∧
      Crowd.after ⟨n, threads ++ [tasks]⟩ moves = ⟨n.run tasks, threads ++ ended⟩ := by
  fun_induction Network.run n tasks generalizing threads with
  | case1 n task rest out ih =>
    obtain ⟨moves, ended, dry, ran⟩ := ih threads
    refine ⟨.go threads.length :: moves, ended, dry, ?_⟩
    have moved : Crowd.move ⟨n, threads ++ [task :: rest]⟩ (.go threads.length) =
        ⟨out.1, threads ++ [out.2 ++ rest]⟩ := by
      simp [Crowd.move, out]
    show Crowd.after (Crowd.move _ _) moves = _
    rw [moved, ran]
  | case2 n idle => exact ⟨[], [[]], by simp, rfl⟩
  | case3 n job ready waits ih =>
    obtain ⟨moves, ended, dry, ran⟩ := ih (threads ++ [[]])
    refine ⟨.turn 0 :: moves, [] :: ended, by simpa using dry, ?_⟩
    have moved : Crowd.move ⟨n, threads ++ [[]]⟩ (.turn 0) =
        ⟨{ n with ready := ready }, (threads ++ [[]]) ++ [[job.task]]⟩ := by
      simp [Crowd.move, waits]
    show Crowd.after (Crowd.move _ _) moves = _
    rw [moved, ran]
    simp

/-- What a script plays are moves, and no thread has anything left to do then. -/
theorem plays (n : Network) (i : Instruction) (threads : List (List Task)) :
    ∃ moves ended, (∀ tasks ∈ ended, tasks = []) ∧
      Crowd.after ⟨n, threads⟩ moves = ⟨(n.play i).1, threads ++ ended⟩ := by
  obtain ⟨moves, ended, dry, ran⟩ := runs (n.instruct i).1 (n.instruct i).2.2 threads
  exact ⟨.call i :: moves, ended, dry, ran⟩

/-- So is the session that a script finds, with its backends. -/
theorem opens (session : Session) (buffers : Pool) (maxPacketSize : Nat) (shrinks : Bool)
    (backends : List (String × LinkInfo)) :
    ∃ moves ended, (∀ tasks ∈ ended, tasks = []) ∧
      (new session ("frontend", buffers) ("backend", buffers)).after moves =
        ⟨.ofSession session buffers maxPacketSize shrinks backends, ended⟩ := by
  let add : String × LinkInfo → Move := fun b => .addBackend b.1 b.2 maxPacketSize shrinks
  have adds : ∀ (n : Network) (threads : List (List Task)),
      Crowd.after ⟨n, threads⟩ (backends.map add) =
        ⟨backends.foldl (fun n b => n.addBackend b.1 b.2 maxPacketSize shrinks) n, threads⟩ := by
    induction backends with
    | nil => exact fun _ _ => rfl
    | cons b others ih => exact fun n threads => ih (n.addBackend b.1 b.2 maxPacketSize shrinks) _
  let opened : Network := (new session ("frontend", buffers) ("backend", buffers)).network.openLine
    clientKey "client" 50000 maxPacketSize shrinks
  let connect : List Move :=
    [.call (.open clientKey "client" 50000 maxPacketSize shrinks), .call (.start clientKey)]
  have starts : (new session ("frontend", buffers) ("backend", buffers)).after connect =
      ⟨opened.start client, [[], []]⟩ := rfl
  obtain ⟨moves, ended, dry, ran⟩ := runs
    (backends.foldl (fun n b => n.addBackend b.1 b.2 maxPacketSize shrinks) (opened.start client))
    [] [[]]
  refine ⟨connect ++ (backends.map add ++ moves), [[]] ++ ended, by simpa using dry, ?_⟩
  rw [after_append, starts, after_append, adds]
  exact ran

end Crowd

/-! ## Replies -/

/-- Whatever is said on behalf of a link is said while a frame is handed to its backend, or tells of
the close. -/
theorem utters_cases (own : ∀ service a (link : Link),
      n.board.faces[service]? = some (a, some link) → link.handle = service) {task : Task}
    {link : Link} {listener : Listener} {notice : Notice}
    (said : n.utters? task = some (link, listener, notice)) :
    (∃ frame, task = .deliver link.handle frame) ∨ ∃ reason, notice = .closed reason := by
  cases task with
  | deliver service frame =>
    simp only [utters?] at said
    split at said
    · rename_i other replies _ backend
      obtain ⟨heard, -, same⟩ := Option.map_eq_some_iff.mp said
      obtain ⟨rfl, -⟩ := Prod.mk.inj same
      obtain ⟨s, there, role⟩ := Option.map_eq_some_iff.mp backend
      have face : n.board.faces[service]? = some (s.address, some other) := by
        simp [Board.faces, board, there, Service.post, role, Role.voice]
      -- a backend hears what is delivered under its own handle
      exact .inl ⟨frame, by rw [own _ _ _ face]⟩
    · cases said
  | notify service reason =>
    simp only [utters?] at said
    split at said
    · obtain ⟨-, same⟩ := Prod.mk.inj (Option.some.inj said)
      exact .inr ⟨reason, (Prod.mk.inj same).2.symm⟩
    · cases said
  | read | send | settle | resume | endReader | endWriter | close | act | command | conclude
  | release | reap => cases said

/-- The networks of deeds are those that a crowd comes to. -/
theorem Crowd.Kept.deeds {c : Crowd} {told : Nat → Prop} (kept : c.Kept told)
    {moves : List Crowd.Move} {deed : Crowd.Deed} (done : deed ∈ c.deeds moves) :
    deed.found.board.Tied told := by
  induction moves generalizing c with
  | nil => exact absurd done List.not_mem_nil
  | cons move rest ih =>
    rcases List.mem_append.mp done with now | later
    · have found : deed.found = c.network := by
        cases move with
        | call | addBackend | turn => exact absurd now List.not_mem_nil
        | go thread =>
          simp only [Crowd.deed?] at now
          split at now
          · obtain rfl := List.mem_singleton.mp now
            rfl
          · exact absurd now List.not_mem_nil
      rw [found]
      exact kept.tied.mono fun _ => .inl
    · exact ih (kept.move move) later

end Network

open Network in
/-- **After the close.** Services are given to connections, peers send and fail as they like,
anybody closes connections, also a service from inside of what it does with a frame, and threads go
on in any order. When a service is told that its connection closed, a thread may have frames of the
connection in hand, the last ones of one read. Then, whatever happens later, each thread hands over
to the service exactly those that it has in hand, in order, and no others: what it has handed over
since then, followed by what it still has in hand, is what it had. So nothing at all is handed to
the service after it was told iff no thread has a frame for it in hand at that moment, and a
listener is told of replies on behalf of its link only with those frames. -/
theorem only_frames_in_hand_follow_the_close (session : Session) (front back : String × Pool)
    (moves : List Crowd.Move) (thread service : Nat) (reason : String) (rest : List Task)
    (next : ((Crowd.new session front back).after moves).threads[thread]? =
      some (.notify service reason :: rest)) :
    let c := ((Crowd.new session front back).after moves).move (.go thread)
    (∀ later thread, Crowd.handed thread service (c.deeds later) ++
        waiting service ((c.after later).stack thread) = waiting service (c.stack thread)) ∧
      (∀ thread, waiting service (c.stack thread) = [] ∨ ∃ a crew split,
        (c.network.services[service]?).map Service.address = some a ∧
          .settle a crew (some service) split ∈ c.stack thread ∧
          waiting service (c.stack thread) <:+ split.frames) ∧
      ((∀ later thread, Crowd.handed thread service (c.deeds later) = []) ↔
        ∀ thread, waiting service (c.stack thread) = []) ∧
      ∀ later, ∀ deed ∈ c.deeds later, ∀ link listener notice,
        deed.found.utters? deed.task = some (link, listener, notice) → link.handle = service →
          (∃ frame, deed.task = .deliver service frame) ∨ ∃ reason, notice = .closed reason := by
  intro c
  have before := (Crowd.kept_new session front back).after moves
  have kept : c.Kept _ := before.perform next
  have was : False ∨ ∃ why, Task.notify service reason = .notify service why := .inr ⟨reason, rfl⟩
  have balance := kept.balance was
  refine ⟨balance, ?_, ⟨?_, ?_⟩, ?_⟩
  · intro thread
    refine (kept.in_hand service thread).imp_right ?_
    rintro ⟨a, crew, split, houses, settles, last⟩
    exact ⟨a, crew, split, address_of_houses houses, settles, last⟩
  · intro nothing thread
    -- the thread is left alone until it has nothing more to do
    obtain ⟨later, dry⟩ := c.dries thread
    rw [← balance later thread, nothing, dry]
    rfl
  · intro nothing later thread
    have sum := balance later thread
    rw [nothing] at sum
    exact (List.append_eq_nil_iff.mp sum).1
  · rintro later deed done link listener notice said rfl
    exact utters_cases (kept.deeds done).own said

namespace Network.Crowd.Sample

/-- A request for a local file, which breaks the protocol. -/
def request : Bytes := [1, 0, 0, 1, 0xfb]

def okFrame : Bytes := [7, 0, 0, 1, 0, 0, 0, 2, 0, 0, 0]

/-- A backend gets a request and an OK in one read. It closes its connection for the request, and is
about to hear of that. -/
def hastened : List Move :=
  [.addBackend "a" {} 1024 false, .call (.listen ⟨.back, "a"⟩ (.script true)),
    .call (.peer ⟨.back, "a"⟩ (.send (request ++ okFrame))), .turn 0, .go 2, .go 2, .go 2]

def session : Session := { id := 7, xidIssuer := "x" }

def hub (name : String) : String × Pool := (name, .new 1 64)

def crowd : Crowd := (new session (hub "front") (hub "back")).after hastened

/-- What the connection closes for. -/
def cause : Fault := .protocol .localFileRequest

/-- What follows once the backend was told. -/
def rest : List Task :=
  [.deliver 0 okFrame, .settle ⟨.back, 0⟩ 0 (some 0) ⟨[request, okFrame], [], .short⟩]

end Network.Crowd.Sample

open Network.Crowd.Sample in
/-- A backend that closes its connection over a frame is told of the close, and is then handed the
frame behind it: its listener hears an OK after the close. -/
theorem reply_follows_the_close :
    (crowd.deeds [.go 2, .go 2]).map Network.Crowd.Deed.task =
        [.notify 0 cause.message, .deliver 0 okFrame] ∧
      (crowd.after [.go 2, .go 2]).network.observed.reverse =
        [.heard ⟨"a"⟩ (.connectError cause), .heard ⟨"a"⟩ (.closed cause.message),
          .heard ⟨"a"⟩ (.ok okFrame)] := by
  decide +kernel

open Network.Crowd.Sample in
/-- The case of that backend: the OK, which was in hand, is all that can follow, and does. -/
theorem only_ok_follows_the_close :
    crowd.threads[2]? = some (.notify 0 cause.message :: rest) ∧
      (∀ later, Network.Crowd.handed 2 0 ((crowd.move (.go 2)).deeds later) ++
        Network.waiting 0 (((crowd.move (.go 2)).after later).stack 2) = [okFrame]) ∧
      ¬ ∀ later thread,
        Network.Crowd.handed thread 0 ((crowd.move (.go 2)).deeds later) = [] := by
  have next : crowd.threads[2]? = some (.notify 0 cause.message :: rest) := by decide +kernel
  have inHand : Network.waiting 0 ((crowd.move (.go 2)).stack 2) = [okFrame] := by decide +kernel
  obtain ⟨balance, -, nothing, -⟩ := only_frames_in_hand_follow_the_close session (hub "front")
    (hub "back") hastened 2 0 cause.message rest next
  refine ⟨next, fun later => (balance later 2).trans inHand, ?_⟩
  intro never
  exact absurd ((nothing.mp never 2).symm.trans inHand) (by simp)

end AtomicCommit
