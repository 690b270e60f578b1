import AtomicCommit.Proofs.Attendance

/-!
# Nobody is stranded

`Traffic` is a network of backends with the tasks that wait, which are carried out in any order, and
the commands that were sent since the stage in flight was entered. Its peers, its owner and its
tasks move as they like, except that who takes part, and who hears a backend, is not changed from
outside while an operation is in flight. An operation may begin while the end of the one before is
still to be carried out: then its participants are released with those of that one, and `released`
keeps record of it.

* **instructions** — `Attended.instruct`: whatever is called, nobody who owes an answer goes
  unattended.
* **runs** — `Traffic.Attended.after`, by induction on the moves.
* **scripts** — `Traffic.opens` and `Traffic.plays`: what `Network.ofSession` sets up and
  `Network.play` does are moves.
-/

namespace AtomicCommit

open Wire Transport

namespace Coordinator

theorem interrupt_keeps {c c' : Coordinator} {reason : String} {packet : Option Bytes}
    (called : c.interrupt reason = .ok (c', packet)) :
    (∃ interrupted, c'.operation = { c.operation with interrupted := interrupted }) ∧
      c'.session.participants = c.session.participants := by
  simp only [interrupt] at called
  repeat' split at called
  all_goals cases called
  all_goals exact ⟨⟨_, rfl⟩, rfl⟩

theorem Sound.interrupt {c c' : Coordinator} (sound : c.Sound) {reason : String}
    {packet : Option Bytes} (called : c.interrupt reason = .ok (c', packet)) : c'.Sound := by
  refine sound.of_leadsTo ⟨[], [.input (.interrupt reason)], ?_⟩
  simp only [Docket.live, Docket.act, Docket.step, called]

end Coordinator

namespace Network

variable {n : Network} {pool : List Task} {sent : List (Link × Command)} {released : Bool}

/-! ## Instructions -/

theorem quiet_openLine (wired : n.board.Wired) (key : Key) (host : String) (port : UInt16)
    (maxPacketSize : Nat) (shrinks : Bool) :
    Quiet n (n.openLine key host port maxPacketSize shrinks, []) := by
  have board := n.board_openLine key host port maxPacketSize shrinks
  refine ⟨?_, fun sound => sound.of_same (congrArg Board.operation board)
    (congrArg Board.participants board)⟩
  dsimp only
  rw [board]
  refine ⟨rfl, rfl, rfl, rfl, wired.extend _, fun _ _ listens => listens, ?_⟩
  rintro link - ⟨p, own, there, tie⟩
  exact .inl ⟨p, own, there, Board.tie?_extend tie _⟩

theorem quiet_forgo (wired : n.board.Wired) (service : Nat) : Quiet n (n.forgo service) := by
  have same : (n.updateService service fun s => { s with scripted := false }).board = n.board :=
    n.board_updateService_of_post fun _ _ => rfl
  exact (quiet_reap (same ▸ wired) service).of_board same

theorem quiet_interrupt (wired : n.board.Wired) (reason : String) :
    Quiet n ((n.instruct (.interrupt reason)).1, (n.instruct (.interrupt reason)).2.2) := by
  simp only [instruct]
  cases called : n.coordinator.interrupt reason with
  | error fault => exact quiet_of_board wired rfl
  | ok out =>
    obtain ⟨c, packet⟩ := out
    obtain ⟨⟨interrupted, operation⟩, participants⟩ := Coordinator.interrupt_keeps called
    have told := board_tellClient { n with coordinator := c } packet
    have board : (tellClient { n with coordinator := c } packet).board =
        { n.board with operation := c.operation } :=
      told.trans (congrArg (fun links =>
        { n.board with participants := links, operation := c.operation }) participants)
    refine ⟨?_, ?_⟩
    · dsimp only
      rw [board, operation]
      exact ⟨rfl, rfl, rfl, rfl, ⟨wired.backends, wired.bound⟩, fun _ _ listens => listens,
        fun _ _ isOpen => .inl isOpen⟩
    · intro sound
      exact (sound.interrupt called).of_same (congrArg Board.operation told)
        (congrArg Board.participants told)

/-- What begins an operation, changes who takes part or who hears a backend, or gives a connection
to something else than a backend. -/
def Instruction.isLoud : Instruction → Bool
  | .commit | .rollback | .attach _ | .detach _ | .clearTransaction | .listen .. => true
  | .record .. => true
  | _ => false

theorem board_sendCommand (n : Network) (s : Service) (kind : CommandKind) :
    (n.sendCommand s kind).1.board = n.board := by
  unfold sendCommand
  split
  · rfl
  · split
    · rfl
    · exact n.board_write ..

theorem quiet_instructLine (wired : n.board.Wired) (line : Line) {i : Instruction}
    (quiet : i.isLoud = false) :
    Quiet n ((n.instructLine line i).1, (n.instructLine line i).2.2) := by
  cases i with
  | commit | rollback | attach | detach | clearTransaction | listen | record =>
    exact absurd quiet (by simp [Instruction.isLoud])
  | start key => exact quiet_of_board wired (n.board_start line.address)
  | write key data => exact quiet_of_board wired (n.board_write line.address data)
  | close key reason => exact quiet_close wired line.address reason
  | allocate key size => exact quiet_of_board wired (n.board_setHub_of_ties rfl)
  | recycle key =>
    simp only [instructLine]
    split
    · exact quiet_of_board wired rfl
    · exact quiet_of_board wired (n.board_setHub_of_ties rfl)
  | peer key act => exact quiet_of_board wired (n.board_peer line.address act)
  | release key =>
    simp only [instructLine]
    split
    · exact quiet_of_board wired rfl
    · exact quiet_forgo wired _
  | send key kind =>
    simp only [instructLine]
    split
    · exact quiet_of_board wired rfl
    · exact quiet_of_board wired (n.board_sendCommand _ kind)
  | drop | join | «open» | lookup | interrupt | closeSession | setXa =>
    exact quiet_of_board wired rfl

/-- An instruction about a key is carried out on its line, if it has one. -/
theorem instruct_cases (n : Network) {i : Instruction} {key : Key} (about : i.key? = some key) :
    n.instruct i = (n, .done, []) ∨ ∃ line, n.instruct i = n.instructLine line i := by
  have onLine (found : Option Line) (here : n.line? key = found) :
      n.instruct i = found.elim (n, .done, []) fun line => n.instructLine line i := by
    have aimed : i.key?.bind n.line? = found := by
      rw [about]
      exact here
    cases i with
    | «open» | lookup | commit | rollback | interrupt | closeSession | setXa | detach
    | clearTransaction => exact absurd about (by simp [Instruction.key?])
    | record | start | write | close | allocate | recycle | drop | join | peer | release | send
    | listen | attach =>
      cases found <;> simp only [instruct, aimed, Option.elim_none, Option.elim_some]
  rw [onLine _ rfl]
  cases n.line? key with
  | none => exact .inl rfl
  | some line => exact .inr ⟨line, rfl⟩

theorem quiet_instruct (wired : n.board.Wired) {i : Instruction} (quiet : i.isLoud = false) :
    Quiet n ((n.instruct i).1, (n.instruct i).2.2) := by
  have onLine : ∀ {key}, i.key? = some key → Quiet n ((n.instruct i).1, (n.instruct i).2.2) := by
    intro key about
    rcases n.instruct_cases about with nothing | ⟨line, same⟩
    · rw [nothing]
      exact quiet_of_board wired rfl
    · rw [same]
      exact quiet_instructLine wired line quiet
  cases i with
  | commit | rollback | attach | detach | clearTransaction | listen | record =>
    exact absurd quiet (by simp [Instruction.isLoud])
  | «open» key host port maxPacketSize shrinks =>
    exact quiet_openLine wired key host port maxPacketSize shrinks
  | lookup | closeSession | setXa => exact quiet_of_board wired rfl
  | interrupt reason => exact quiet_interrupt wired reason
  | start | write | close | allocate | recycle | drop | join | peer | release | send =>
    exact onLine rfl

/-! ### At rest -/

theorem mem_attach {s : Session} {link other : Link}
    (bound : other ∈ (s.attach link).participants) : other = link ∨ other ∈ s.participants := by
  rw [Docket.participants_attach] at bound
  split at bound
  · obtain ⟨former, before, rfl⟩ := List.mem_map.mp bound
    split
    · exact .inl rfl
    · exact .inr before
  · rcases List.mem_append.mp bound with before | new
    · exact .inr before
    · exact .inl (List.mem_singleton.mp new)

/-- At rest the owner of the session binds and unbinds backends. -/
theorem Attended.onSession (attended : Attended n pool sent released none)
    (rest : n.coordinator.operation.stage = none) {session : Session} {pool' : List Task}
    {sent' : List (Link × Command)}
    (leads : n.coordinator.LeadsTo { n.coordinator with session := session })
    (backends : ∀ link ∈ session.participants, ∃ p listener,
      n.board.posts[link.handle]? = some p ∧ p.voice = some (link, listener)) :
    Attended (n.onSession session).1 pool' sent' released none :=
  attended_of_rest (attended.sound.of_leadsTo leads) (attended.wired.bind backends) rest

theorem Attended.attach (attended : Attended n pool sent released none)
    (rest : n.coordinator.operation.stage = none) {link : Link} {listener : Listener} {p : Post}
    (there : n.board.posts[link.handle]? = some p) (backend : p.voice = some (link, listener))
    {pool' : List Task} {sent' : List (Link × Command)} :
    Attended (n.onSession (n.coordinator.session.attach link)).1 pool' sent' released none := by
  refine attended.onSession rest ⟨[], [.attach link], rfl⟩ ?_
  intro other bound
  rcases mem_attach bound with rfl | before
  · exact ⟨p, listener, there, backend⟩
  · exact attended.wired.bound other before

/-- A backend is added at rest, and the network stays at rest. -/
theorem Attended.addBackend (attended : Attended n pool sent released none)
    (rest : n.coordinator.operation.stage = none) (name : String) (info : LinkInfo)
    (maxPacketSize : Nat) (shrinks : Bool) :
    Attended (n.addBackend name info maxPacketSize shrinks) pool sent released none ∧
      (n.addBackend name info maxPacketSize shrinks).coordinator.operation.stage = none := by
  let key : Key := ⟨.back, name⟩
  let link : Link := ⟨n.services.length, ⟨name⟩, info⟩
  let opened := n.openLine key info.host info.port maxPacketSize shrinks
  let served := opened.serve { key := key, address := ⟨.back, n.back.connections.length⟩ }
    (.backend link .idle .nobody)
  let plugged := served.start ⟨.back, n.back.connections.length⟩
  have board : plugged.board = n.board.plug link :=
    (served.board_start _).trans (n.board_plug rfl _ _ _ _ link)
  have fits : link.handle = n.board.posts.length := (List.length_map Service.post).symm
  have operation : plugged.coordinator.operation = n.coordinator.operation :=
    congrArg Board.operation board
  have idle : plugged.coordinator.operation.stage = none := operation ▸ rest
  have wired : plugged.board.Wired := board ▸ attended.wired.plug fits
  have sound : plugged.coordinator.Sound :=
    attended.sound.of_same operation (congrArg Board.participants board)
  have there : plugged.board.posts[link.handle]? =
      some ⟨⟨.back, (n.board.ties .back).length⟩, false, some (link, .nobody)⟩ := by
    rw [board, fits]
    exact List.getElem?_concat_length
  have unbound : Attended plugged pool sent released none := attended_of_rest sound wired idle
  have bound : Attended (plugged.onSession (plugged.coordinator.session.attach link)).1 pool sent
      released none := unbound.attach idle there rfl
  -- A name that was in use before belongs to a service which is let go last.
  have added (former : Option Nat) (here : (n.line? key).bind Line.service = former) :
      n.addBackend name info maxPacketSize shrinks =
        former.elim (plugged.onSession (plugged.coordinator.session.attach link)).1 fun service =>
          ((plugged.onSession (plugged.coordinator.session.attach link)).1.forgo service).1 := by
    subst here
    dsimp only [Network.addBackend]
    cases (n.line? ⟨.back, name⟩).bind Line.service <;> rfl
  rw [added _ rfl]
  cases (n.line? key).bind Line.service with
  | none => exact ⟨bound, idle⟩
  | some service =>
    have quiet := quiet_forgo bound.wired service
    have still := quiet.tends.stage.trans idle
    exact ⟨attended_of_rest (quiet.sound bound.sound) quiet.tends.wired still, still⟩

/-! ### Beginnings -/

/-- An operation begins, or is refused. -/
theorem Attended.started (attended : Attended n pool sent released none)
    (fresh : n.coordinator.operation.stage = none → released = false) (s : Stage) :
    Attended (n.started (n.coordinator.begin s)).1 ((n.started (n.coordinator.begin s)).2.2 ++ pool)
      (carried n (n.started (n.coordinator.begin s)).1 sent []) released none := by
  -- A begin while another operation is in flight is refused and leaves everything as it was.
  rcases attended.sound.settled with ⟨current, busy⟩ | rest
  · rw [Coordinator.begin_of_inFlight busy.stage]
    exact attended.still rfl
  · have idle : n.coordinator.operation.stage = none := by
      rw [show n.coordinator.operation = {} from rest]
    have participants := Coordinator.participants_begin n.coordinator s
    have sound : ((Docket.mk n.coordinator []).begun (n.coordinator.begin s)).coordinator.Sound :=
      attended.sound.of_leadsTo ⟨[], [.begin s], rfl⟩
    generalize called : n.coordinator.begin s = result at participants sound
    obtain ⟨c, _ | effect⟩ := result
    · rw [Coordinator.begin_eq_follow idle] at called
      exact absurd (congrArg Prod.snd called) (by simp)
    · have fewer : c.session.participants ⊆ n.coordinator.session.participants :=
        fun link bound => participants ▸ bound
      show Attended (n.advance c effect).1 ((n.advance c effect).2 ++ pool) _ released none
      rcases Docket.begun_lands called with ⟨landed, rfl, -⟩ | ⟨-, rests⟩
      · apply attended_of_enters sound attended.wired ?_ fewer
        · simp [fresh idle]
        · exact fun task waits => List.mem_append_left _ waits
        · rw [landed]
          exact Coordinator.enters_landed _ s
      · have same := coordinator_advance n c effect
        apply attended_of_rest
        · rw [same]
          exact sound
        · exact wired_advance attended.wired fewer _
        · rw [same, show c.operation = {} from rests]

/-! ### Calls -/

/-- Whether a call is made. Who takes part, and who hears a backend, changes at rest, and every
service is a backend. -/
def admits (n : Network) : Instruction → Bool
  | .attach _ | .detach _ | .clearTransaction | .listen .. => !n.coordinator.inFlight
  | .record .. => false
  | _ => true

theorem stage_of_admits {n : Network} (idle : (!n.coordinator.inFlight) = true) :
    n.coordinator.operation.stage = none :=
  stage_of_not_inFlight (by simpa using idle)

theorem Attended.attachKey (attended : Attended n pool sent released none)
    (rest : n.coordinator.operation.stage = none) (key : Key) :
    Attended (n.instruct (.attach key)).1 ((n.instruct (.attach key)).2.2 ++ pool)
      (carried n (n.instruct (.attach key)).1 sent []) released none := by
  rcases n.instruct_cases (i := .attach key) rfl with nothing | ⟨line, same⟩
  · rw [nothing]
    exact attended.still rfl
  · rw [same]
    simp only [instructLine]
    split
    · rename_i link replies listener role
      obtain ⟨s, found, role⟩ := Option.map_eq_some_iff.mp role
      obtain ⟨service, -, there⟩ := Option.bind_eq_some_iff.mp found
      have voice : s.post.voice = some (link, listener) := congrArg Role.voice role
      obtain ⟨handle, -⟩ := attended.wired.backends _ _ _ _ (post_of_service there) voice
      exact attended.attach rest (handle ▸ post_of_service there) voice
    · exact attended.still rfl

theorem Attended.listenKey (attended : Attended n pool sent released none)
    (rest : n.coordinator.operation.stage = none) (key : Key) (listener : Listener) :
    Attended (n.instruct (.listen key listener)).1
      ((n.instruct (.listen key listener)).2.2 ++ pool)
      (carried n (n.instruct (.listen key listener)).1 sent []) released none := by
  rcases n.instruct_cases (i := .listen key listener) rfl with nothing | ⟨line, same⟩
  · rw [nothing]
    exact attended.still rfl
  · rw [same]
    simp only [instructLine]
    split
    · exact attended.still rfl
    · rename_i service _
      apply attended_of_rest
      · exact attended.sound
      · rw [n.board_listen service listener]
        exact attended.wired.listen service listener
      · exact rest

/-- **Calls.** Whatever is called, nobody who owes an answer goes unattended. -/
theorem Attended.instruct (attended : Attended n pool sent released none)
    (fresh : n.coordinator.operation.stage = none → released = false) {i : Instruction}
    (admitted : n.admits i = true) :
    Attended (n.instruct i).1 ((n.instruct i).2.2 ++ pool) (carried n (n.instruct i).1 sent [])
      released none := by
  -- Most calls say nothing to the coordinator and are covered by `Quiet`.
  have calm : i.isLoud = false → Attended (n.instruct i).1 ((n.instruct i).2.2 ++ pool)
      (carried n (n.instruct i).1 sent []) released none := by
    intro quiet
    have calls := quiet_instruct attended.wired quiet
    rw [carried_of_same calls.tends.stage]
    exact attended.quiet calls
  cases i with
  | commit => exact attended.started fresh _
  | rollback => exact attended.started fresh _
  | record => exact absurd admitted (by simp [admits])
  | detach id =>
    apply attended.onSession (stage_of_admits admitted) ⟨[], [.detach id], rfl⟩
    intro link bound
    exact attended.wired.bound link (List.eraseP_sublist.subset bound)
  | clearTransaction =>
    apply attended.onSession (stage_of_admits admitted) ⟨[], [.clearTransaction], rfl⟩
    exact fun link bound => absurd bound List.not_mem_nil
  | attach key => exact attended.attachKey (stage_of_admits admitted) key
  | listen key listener => exact attended.listenKey (stage_of_admits admitted) key listener
  | «open» | start | write | close | allocate | recycle | lookup | drop | join | peer | release
  | send | interrupt | closeSession | setXa => exact calm rfl

/-! ## Traffic -/

/-- A network, the tasks that wait, the commands sent since the stage in flight was entered, and
whether the transaction of an operation before was released since the one in flight began. -/
structure Traffic where
  network : Network
  pool : List Task := []
  sent : List (Link × Command) := []
  released : Bool := false

/-- What can go on in a network. -/
inductive Move where
  /-- A call from outside, or something that a peer does. -/
  | call (i : Instruction)
  | addBackend (name : String) (info : LinkInfo) (maxPacketSize : Nat) (shrinks : Bool)
  /-- The task of a connection at this place of the queue gets its turn. -/
  | turn (place : Nat)
  /-- The task at this place of the pool is carried out. -/
  | perform (place : Nat)

namespace Traffic

/-- Make a call, which leads to tasks. -/
def call (t : Traffic) (i : Instruction) : Traffic where
  network := (t.network.instruct i).1
  pool := (t.network.instruct i).2.2 ++ t.pool
  sent := carried t.network (t.network.instruct i).1 t.sent []
  released := t.released && t.network.coordinator.inFlight

/-- Carry out a task, and put what it leads to between the tasks around it. -/
def perform (t : Traffic) (before : List Task) (task : Task) (behind : List Task) : Traffic where
  network := (t.network.perform task).1
  pool := before ++ (t.network.perform task).2 ++ behind
  sent := carried t.network (t.network.perform task).1 t.sent (t.network.dispatched task)
  released := t.released || t.network.releases task

/-- Make a move. A call that is not admitted, and a backend added in flight, come to nothing. -/
def move (t : Traffic) : Move → Traffic
  | .call i => if t.network.admits i then t.call i else t
  | .addBackend name info maxPacketSize shrinks =>
    if t.network.coordinator.inFlight then t
    else { t with network := t.network.addBackend name info maxPacketSize shrinks }
  | .turn place =>
    match t.network.ready[place]? with
    | some job =>
      { t with
        network := { t.network with ready := t.network.ready.eraseIdx place }
        pool := job.task :: t.pool }
    | none => t
  | .perform place =>
    match t.pool[place]? with
    | some task => t.perform (t.pool.take place) task (t.pool.drop (place + 1))
    | none => t

def after (t : Traffic) (moves : List Move) : Traffic :=
  moves.foldl move t

/-- A new session whose client is connected. -/
def new (id : UInt64) (issuer : String) (buffers : Pool) (maxPacketSize : Nat) (shrinks : Bool) :
    Traffic where
  network :=
    let n : Network := {
      coordinator := { session := { id := id, xidIssuer := issuer } }
      front := { name := "frontend", pool := buffers }
      back := { name := "backend", pool := buffers } }
    (n.openLine clientKey "client" 50000 maxPacketSize shrinks).start client

variable {t : Traffic}

/-- Nobody who owes an answer goes unattended. -/
def Attended (t : Traffic) : Prop :=
  Network.Attended t.network t.pool t.sent t.released none

theorem attended_new (id : UInt64) (issuer : String) (buffers : Pool) (maxPacketSize : Nat)
    (shrinks : Bool) : (new id issuer buffers maxPacketSize shrinks).Attended := by
  let n : Network := {
    coordinator := { session := { id := id, xidIssuer := issuer } }
    front := { name := "frontend", pool := buffers }
    back := { name := "backend", pool := buffers } }
  have sound : n.coordinator.Sound := ⟨.inr rfl, List.nodup_nil, List.nodup_nil⟩
  have wired : n.board.Wired := by
    constructor
    · intro service p link listener there
      exact absurd there (by simp [n, board])
    · exact fun link bound => absurd bound List.not_mem_nil
  have unconnected : Network.Attended n [] [] false none := attended_of_rest sound wired rfl
  have opened : Network.Attended
      (n.openLine clientKey "client" 50000 maxPacketSize shrinks) [] [] false none :=
    unconnected.quiet (quiet_openLine wired ..)
  exact opened.of_board (board_start ..)

/-- A task between others is carried out as if it were the first. -/
theorem Attended.perform (attended : t.Attended) {before behind : List Task} {task : Task}
    (around : t.pool = before ++ task :: behind) : (t.perform before task behind).Attended := by
  have first : Network.Attended t.network (task :: (before ++ behind)) t.sent t.released none := by
    apply Network.Attended.more attended
    intro other waits
    rw [around] at waits
    simp only [List.mem_cons, List.mem_append] at waits ⊢
    exact or_left_comm.mp waits
  apply first.perform.more
  intro other waits
  show other ∈ before ++ (t.network.perform task).2 ++ behind
  simp only [List.mem_append] at waits ⊢
  rwa [or_left_comm, ← or_assoc] at waits

/-- Whatever was released, nothing has been released since when nothing is in flight. -/
theorem Attended.call (attended : t.Attended) {i : Instruction}
    (admitted : t.network.admits i = true) : (t.call i).Attended := by
  have reckoned : Network.Attended t.network t.pool t.sent
      (t.released && t.network.coordinator.inFlight) none := by
    cases inFlight : t.network.coordinator.inFlight with
    | false => exact attended_of_rest attended.sound attended.wired (stage_of_not_inFlight inFlight)
    | true =>
      rw [Bool.and_true]
      exact attended
  apply reckoned.instruct ?_ admitted
  intro rest
  simp [Coordinator.inFlight, rest]

theorem Attended.move (attended : t.Attended) (move : Move) : (t.move move).Attended := by
  cases move with
  | call i =>
    simp only [Traffic.move]
    split
    · rename_i admitted
      exact attended.call admitted
    · exact attended
  | addBackend name info maxPacketSize shrinks =>
    simp only [Traffic.move]
    split
    · exact attended
    · rename_i idle
      have rest : t.network.coordinator.operation.stage = none :=
        stage_of_not_inFlight (by simpa using idle)
      exact (Network.Attended.addBackend attended rest name info maxPacketSize shrinks).1
  | turn place =>
    simp only [Traffic.move]
    split
    · rename_i job _
      -- Taking a job off the ready list touches neither the session nor who listens.
      have later : Network.Attended { t.network with ready := t.network.ready.eraseIdx place }
          t.pool t.sent t.released none := Network.Attended.of_board attended rfl
      exact later.more fun task waits => List.mem_cons_of_mem _ waits
    · exact attended
  | perform place =>
    simp only [Traffic.move]
    split
    · rename_i task taken
      obtain ⟨bound, rfl⟩ := List.getElem?_eq_some_iff.mp taken
      apply Attended.perform attended
      rw [← List.drop_eq_getElem_cons, List.take_append_drop]
    · exact attended

/-- **Runs.** Whatever goes on in whatever order, nobody who owes an answer goes unattended. -/
theorem Attended.after (attended : t.Attended) (moves : List Move) : (t.after moves).Attended := by
  induction moves generalizing t with
  | nil => exact attended
  | cons move rest ih => exact ih (attended.move move)

/-! ## Scripts -/

theorem after_append (t : Traffic) (xs ys : List Move) :
    t.after (xs ++ ys) = (t.after xs).after ys :=
  List.foldl_append

/-- What a network works off are moves. -/
theorem runs (n : Network) (tasks pool : List Task) (sent : List (Link × Command))
    (released : Bool) :
    ∃ moves sent' released', Traffic.after ⟨n, tasks ++ pool, sent, released⟩ moves =
      ⟨n.run tasks, pool, sent', released'⟩ := by
  fun_induction Network.run n tasks generalizing sent released with
  | case1 n task rest out ih =>
    obtain ⟨moves, sent', released', ran⟩ :=
      ih (carried n out.1 sent (n.dispatched task)) (released || n.releases task)
    refine ⟨.perform 0 :: moves, sent', released', ?_⟩
    show Traffic.after ⟨out.1, [] ++ out.2 ++ (rest ++ pool), _, _⟩ moves = _
    rw [List.nil_append, ← List.append_assoc, ran]
  | case2 n idle => exact ⟨[], sent, released, rfl⟩
  | case3 n job ready waits ih =>
    obtain ⟨moves, sent', released', ran⟩ := ih sent released
    refine ⟨.turn 0 :: moves, sent', released', ?_⟩
    have taken : Traffic.move ⟨n, pool, sent, released⟩ (.turn 0) =
        ⟨{ n with ready := ready }, [job.task] ++ pool, sent, released⟩ := by
      simp [Traffic.move, waits]
    show Traffic.after (Traffic.move ⟨n, pool, sent, released⟩ (.turn 0)) moves = _
    rw [taken, ran]

/-- What a script plays are moves, and when it is over no task waits. -/
theorem plays (t : Traffic) (idle : t.pool = []) {i : Instruction}
    (admitted : t.network.admits i = true) :
    ∃ moves sent' released', t.after moves = ⟨(t.network.play i).1, [], sent', released'⟩ := by
  obtain ⟨moves, sent', released', ran⟩ :=
    runs (t.call i).network (t.network.instruct i).2.2 [] (t.call i).sent (t.call i).released
  refine ⟨.call i :: moves, sent', released', ?_⟩
  have called : t.move (.call i) = t.call i := if_pos admitted
  have pool : (t.call i).pool = (t.network.instruct i).2.2 ++ [] :=
    congrArg ((t.network.instruct i).2.2 ++ ·) idle
  show Traffic.after (t.move (.call i)) moves = _
  rw [called]
  rw [← pool] at ran
  exact ran

/-- So is the session that a script finds, with its backends. -/
theorem opens (id : UInt64) (issuer : String) (buffers : Pool) (maxPacketSize : Nat)
    (shrinks : Bool) (backends : List (String × LinkInfo)) :
    ∃ moves sent' released', (new id issuer buffers maxPacketSize shrinks).after moves =
      ⟨.ofSession { id := id, xidIssuer := issuer } buffers maxPacketSize shrinks backends, [],
        sent', released'⟩ := by
  let add : String × LinkInfo → Move := fun b => .addBackend b.1 b.2 maxPacketSize shrinks
  have adds : ∀ (backends : List (String × LinkInfo)) {n : Network},
      Traffic.Attended ⟨n, [], [], false⟩ → n.coordinator.operation.stage = none →
        Traffic.after ⟨n, [], [], false⟩ (backends.map add) =
          ⟨backends.foldl (fun n b => n.addBackend b.1 b.2 maxPacketSize shrinks) n, [], [],
            false⟩ := by
    intro backends
    -- Between the backends nothing waits and nobody is asked, so each is added at rest.
    induction backends with
    | nil => exact fun _ _ => rfl
    | cons b others ih =>
      intro n attended rest
      obtain ⟨attendedThen, restThen⟩ :=
        Network.Attended.addBackend attended rest b.1 b.2 maxPacketSize shrinks
      have added : Traffic.move ⟨n, [], [], false⟩ (add b) =
          ⟨n.addBackend b.1 b.2 maxPacketSize shrinks, [], [], false⟩ :=
        if_neg (by simp [Coordinator.inFlight, rest])
      show Traffic.after (Traffic.move ⟨n, [], [], false⟩ _) _ = _
      rw [added]
      exact ih attendedThen restThen
  have start := attended_new id issuer buffers maxPacketSize shrinks
  have started : (new id issuer buffers maxPacketSize shrinks).network.board = _ :=
    board_start ..
  have idle : (new id issuer buffers maxPacketSize shrinks).network.coordinator.operation.stage =
      none := congrArg (fun b : Board => b.operation.stage) started
  obtain ⟨moves, sent', released', ran⟩ := runs (backends.foldl
    (fun n b => n.addBackend b.1 b.2 maxPacketSize shrinks)
    (new id issuer buffers maxPacketSize shrinks).network) [] [] [] false
  refine ⟨backends.map add ++ moves, sent', released', ?_⟩
  rw [after_append]
  exact (congrArg (fun t : Traffic => t.after moves) (adds backends start idle)).trans ran

end Traffic

end Network

namespace Network.Traffic.Sample

def other : Link := ⟨1, ⟨"b"⟩, {}⟩

/-- A commit has come to its verdict, and the next one begins before the first has released its only
participant. Then everything is carried out and every connection gets its turns. -/
def overtaken : List Move :=
  [.addBackend "a" {} 1024 false, .call (.release ⟨.back, "a"⟩), .call .commit, .perform 0,
    .perform 0, .turn 2, .perform 0,
    .call (.peer ⟨.back, "a"⟩ (.send [7, 0, 0, 1, 0, 0, 0, 2, 0, 0, 0])), .turn 3, .perform 0,
    .perform 0, .call .commit] ++
  List.replicate 8 (.perform 0) ++ List.replicate 3 (.turn 0) ++ List.replicate 12 (.perform 0)

end Network.Traffic.Sample

end AtomicCommit
