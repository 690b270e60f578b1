import AtomicCommit.Proofs.Counting
import AtomicCommit.Simulation.Network.Run

/-!
# Wiring

Who hears of a close depends on little of a network: which connections are closed and which service
each of them tells, who listens to which backend, and what the coordinator has in flight. A `Board`
shows that much.

* **frames** — `board_write`, `board_read`, `board_send` and so on: almost everything leaves the
  board as it is.
* **closes** — `close_cases`, `reap_cases`: a close is seen on the board, and is told to the service
  of its connection.
* **invariant** — `Board.Wired`: the service of an open connection to a backend is that backend.
-/

namespace AtomicCommit

open Wire Transport

/-! ## Connections -/

namespace Transport

/-- What a connection has to do with its service. -/
structure Tie where
  closed : Bool
  /-- Whom the connection tells of its close. -/
  service : Option Nat
  deriving DecidableEq, Repr

def Connection.tie (c : Connection) : Tie := ⟨c.isClosed, c.service⟩

def Entry.tie (e : Entry) : Tie := ⟨e.closeReason.isSome, e.service⟩

namespace Hub

def ties (h : Hub) : List Tie := h.connections.map Connection.tie

variable (h : Hub) (place crew : Nat)

theorem ties_eq : h.ties = h.entries.map Entry.tie := by
  rw [entries, List.map_map]
  rfl

theorem getElem?_ties : h.ties[place]? = (h.connections[place]?).map Connection.tie :=
  List.getElem?_map ..

/-- Whoever only counts bytes leaves the ties alone. -/
theorem Counts.ties {h k : Hub} (counts : h.Counts k) : k.ties = h.ties := by
  rw [ties_eq, ties_eq]
  cases counts with
  | still entries => rw [entries]
  | bytes read written found entries =>
    rw [entries]
    exact map_modify_of_same fun _ _ => rfl

/-- A connection is given a service. -/
theorem ties_serve (service : Nat) :
    (h.update place fun c => { c with service := some service }).ties =
      h.ties.modify place fun t => { t with service := some service } :=
  map_modify fun _ _ => rfl

/-- A write fails iff its connection is closed. -/
theorem write_of_tie {service : Option Nat} {closed : Bool}
    (there : h.ties[place]? = some ⟨closed, service⟩) (data : Bytes) :
    (h.write place data).2.isOk = !closed := by
  rw [getElem?_ties] at there
  obtain ⟨c, found, tie⟩ := Option.map_eq_some_iff.mp there
  obtain rfl : c.isClosed = closed := congrArg Tie.closed tie
  unfold write
  rw [found]
  dsimp only
  cases c.isClosed <;> rfl

theorem close_of_open {service : Option Nat} (there : h.ties[place]? = some ⟨false, service⟩)
    (reason : String) : (h.close place reason).1.ties = h.ties.set place ⟨true, none⟩ ∧
      ∃ woken, (h.close place reason).2 = .first service woken := by
  rw [getElem?_ties] at there
  obtain ⟨c, found, tie⟩ := Option.map_eq_some_iff.mp there
  have isOpen : c.isClosed = false := congrArg Tie.closed tie
  obtain rfl : c.service = service := congrArg Tie.service tie
  have closes : (c.close reason).tie = ⟨true, none⟩ := by
    unfold Connection.close
    dsimp only
    split <;> split <;> rfl
  unfold close
  rw [found]
  dsimp only
  rw [if_neg (by simp [isOpen])]
  refine ⟨?_, _, rfl⟩
  apply List.ext_getElem?
  intro other
  rw [getElem?_ties, List.getElem?_set, show (Hub.update _ _ _).connections[other]? = _ from
    List.getElem?_modify ..]
  by_cases here : place = other
  · subst here
    have bound : place < h.ties.length := by
      simpa [ties] using (List.getElem?_eq_some_iff.mp found).1
    simp [found, closes, bound]
  · simp [here, getElem?_ties]

theorem close_of_shut (shut : ∀ service, h.ties[place]? ≠ some ⟨false, service⟩)
    (reason : String) :
    (h.close place reason).1.ties = h.ties ∧ (h.close place reason).2 = .again := by
  unfold close
  cases found : h.connections[place]? with
  | none => exact ⟨rfl, rfl⟩
  | some c =>
    have closed : c.isClosed = true := by
      rw [← Bool.not_eq_false]
      intro isOpen
      apply shut c.service
      rw [getElem?_ties, found, ← isOpen]
      rfl
    dsimp only
    rw [if_pos closed]
    refine ⟨Counts.ties ?_, rfl⟩
    exact counts_aside rfl (fun _ => rfl) rfl rfl ⟨rfl, rfl⟩

theorem ties_open (host : String) (port : UInt16) (maxPacketSize : Nat) (shrinks : Bool) :
    (h.open host port maxPacketSize shrinks).ties = h.ties ++ [⟨false, none⟩] := by
  simp [Hub.open, ties, Connection.tie, Connection.isClosed]

end Hub

end Transport

/-! ## Boards -/

namespace Network

/-- A service, as it matters to a close. -/
structure Post where
  address : Address
  /-- Nobody holds it any more. -/
  gone : Bool
  /-- The link of a backend, and who listens to it. -/
  voice : Option (Link × Listener)
  deriving DecidableEq, Repr

/-- The link of a backend, and who listens to it. -/
def Role.voice : Role → Option (Link × Listener)
  | .recorder .. => none
  | .backend link _ listener => some (link, listener)

def Service.post (s : Service) : Post := ⟨s.address, s.gone, s.role.voice⟩

/-- What of a network decides who hears of a close, and what that comes to. -/
structure Board where
  ties : Side → List Tie
  posts : List Post
  participants : List Link
  operation : Operation

def Board.tie? (b : Board) (a : Address) : Option Tie := (b.ties a.side)[a.place]?

def board (n : Network) : Board where
  ties side := (n.hub side).ties
  posts := n.services.map Service.post
  participants := n.coordinator.session.participants
  operation := n.coordinator.operation

variable (n : Network) (a : Address)

theorem getElem?_posts (service : Nat) :
    n.board.posts[service]? = (n.services[service]?).map Service.post :=
  List.getElem?_map ..

/-! ### Frames -/

@[simp] theorem hub_setHub (side : Side) (hub : Hub) : (n.setHub side hub).hub side = hub := by
  cases side <;> rfl

theorem hub_setHub_of_ne {side other : Side} (different : other ≠ side) (hub : Hub) :
    (n.setHub side hub).hub other = n.hub other := by
  cases side <;> cases other <;> first | rfl | exact absurd rfl different

@[simp] theorem services_setHub (side : Side) (hub : Hub) :
    (n.setHub side hub).services = n.services := by
  cases side <;> rfl

@[simp] theorem coordinator_setHub (side : Side) (hub : Hub) :
    (n.setHub side hub).coordinator = n.coordinator := by
  cases side <;> rfl

/-- The board after a hub changes. -/
theorem board_setHub (side : Side) (hub : Hub) : (n.setHub side hub).board =
    { n.board with ties := Function.update n.board.ties side hub.ties } := by
  have ties : (fun other => ((n.setHub side hub).hub other).ties) =
      Function.update (fun other => (n.hub other).ties) side hub.ties := by
    funext other
    by_cases here : other = side
    · subst here
      rw [hub_setHub, Function.update_self]
    · rw [hub_setHub_of_ne n here, Function.update_of_ne here]
  unfold board
  rw [ties, services_setHub, coordinator_setHub]

theorem board_setHub_of_ties {side : Side} {hub : Hub} (same : hub.ties = (n.hub side).ties) :
    (n.setHub side hub).board = n.board := by
  rw [board_setHub, same]
  exact congrArg (fun ties => { n.board with ties := ties })
    (Function.update_eq_self side n.board.ties)

theorem board_updateService_of_post {service : Nat} {f : Service → Service}
    (same : ∀ s, n.services[service]? = some s → (f s).post = s.post) :
    (n.updateService service f).board = n.board :=
  congrArg (fun posts => { n.board with posts := posts }) (map_modify_of_same same)

/-- A service changes its role, but not who listens to it. -/
theorem board_updateRole {service : Nat} {s : Service} {role : Role}
    (there : n.services[service]? = some s) (same : role.voice = s.role.voice) :
    (n.updateService service fun s => { s with role := role }).board = n.board := by
  apply board_updateService_of_post
  intro s' found
  obtain rfl := Option.some.inj (there.symm.trans found)
  exact congrArg (Post.mk s.address s.gone) same

theorem board_wake (job : Job) : (n.wake job).board = n.board := by
  unfold wake
  split <;> rfl

theorem board_wakeAll (workers : List Worker) : (n.wakeAll a workers).board = n.board := by
  unfold wakeAll
  induction workers generalizing n with
  | nil => rfl
  | cons worker rest ih => exact (ih _).trans (n.board_wake ⟨a, worker⟩)

theorem board_write (data : Bytes) : (n.write a data).1.board = n.board := by
  have same := n.board_setHub_of_ties ((n.hub a.side).counts_write a.place data).ties
  unfold write
  generalize (n.hub a.side).write a.place data = out at same
  obtain ⟨hub, result⟩ := out
  cases result with
  | error fault => exact same
  | ok woken =>
    cases woken with
    | none => exact same
    | some crew => exact (board_wake ..).trans same

theorem board_tellClient (packet : Option Bytes) : (n.tellClient packet).board = n.board := by
  cases packet with
  | none => rfl
  | some packet =>
    simp only [tellClient, writeClient]
    split
    · rfl
    · exact n.board_write client packet

theorem board_hold (service : Nat) : (n.hold service).board = n.board :=
  n.board_updateService_of_post fun _ _ => rfl

theorem board_holdAll (effect : Effect) : (n.holdAll effect).board = n.board := by
  cases effect with
  | idle | conclude => rfl
  | send commands =>
    simp only [holdAll]
    induction commands generalizing n with
    | nil => rfl
    | cons p rest ih => exact (ih _).trans (n.board_hold p.1.handle)

theorem board_read (crew : Nat) : (n.read a crew).1.board = n.board := by
  have same := n.board_setHub_of_ties ((n.hub a.side).counts_read a.place crew).ties
  unfold Network.read
  generalize (n.hub a.side).read a.place crew = out at same
  obtain ⟨hub, turn⟩ := out
  dsimp only
  split
  · exact same
  · exact same
  · exact same
  · split
    · exact (board_hold ..).trans same
    · exact same

theorem board_settle (crew : Nat) (service : Option Nat) (split : Split) :
    (n.settle a crew service split).1.board = n.board :=
  n.board_setHub_of_ties ((n.hub a.side).counts_settle a.place crew split).ties

theorem board_send (crew : Nat) : (n.send a crew).1.board = n.board := by
  have same := n.board_setHub_of_ties ((n.hub a.side).counts_send a.place crew).ties
  unfold Network.send
  generalize (n.hub a.side).send a.place crew = out at same
  obtain ⟨hub, progress⟩ := out
  cases progress <;> exact same

theorem board_start : (n.start a).board = n.board :=
  (board_wakeAll ..).trans (n.board_setHub_of_ties ((n.hub a.side).counts_start a.place).ties)

theorem board_peer (act : Peer.Act) : (n.peer a act).board = n.board :=
  (board_wakeAll ..).trans (n.board_setHub_of_ties ((n.hub a.side).counts_act a.place act).ties)

/-! ### Closes -/

/-- The board once a connection is closed. -/
def Board.shut (b : Board) (a : Address) : Board :=
  { b with ties := Function.update b.ties a.side ((b.ties a.side).set a.place ⟨true, none⟩) }

theorem Board.tie?_shut (b : Board) (a other : Address) : (b.shut a).tie? other =
    if other = a then (b.tie? a).map fun _ => ⟨true, none⟩ else b.tie? other := by
  obtain ⟨side, place⟩ := a
  obtain ⟨side', place'⟩ := other
  unfold shut tie?
  dsimp only
  by_cases here : side' = side
  · subst here
    rw [Function.update_self, List.getElem?_set]
    by_cases there : place = place'
    · subst there
      cases bound : (b.ties side')[place]? with
      | none =>
        have outside := List.getElem?_eq_none_iff.mp bound
        simp [outside]
      | some t =>
        have inside := (List.getElem?_eq_some_iff.mp bound).1
        simp [inside]
    · simp [there, Ne.symm there]
  · rw [Function.update_of_ne here]
    simp [here]

theorem services_wake (job : Job) : (n.wake job).services = n.services := by
  unfold wake
  split <;> rfl

theorem services_wakeAll (workers : List Worker) :
    (n.wakeAll a workers).services = n.services := by
  unfold wakeAll
  induction workers generalizing n with
  | nil => rfl
  | cons worker rest ih => exact (ih _).trans (n.services_wake ⟨a, worker⟩)

theorem isAlive_of_services {n n' : Network} (same : n'.services = n.services) :
    n'.isAlive = n.isAlive := by
  funext service
  unfold isAlive
  rw [same]

/-- **Closes.** The first close of a connection shows on the board, and its service is told if it is
there. Any other does nothing that shows. -/
theorem close_cases (reason : String) :
    ((∀ service, n.board.tie? a ≠ some ⟨false, service⟩) ∧
        (n.close a reason).1.board = n.board ∧ (n.close a reason).2 = []) ∨
      ∃ service, n.board.tie? a = some ⟨false, service⟩ ∧
        (n.close a reason).1.board = n.board.shut a ∧
        (n.close a reason).2 = (service.filter n.isAlive).toList.map fun s => .notify s reason := by
  by_cases there : ∃ service, (n.hub a.side).ties[a.place]? = some ⟨false, service⟩
  · obtain ⟨service, there⟩ := there
    refine .inr ⟨service, there, ?_⟩
    obtain ⟨ties, woken, closes⟩ := Hub.close_of_open _ _ there reason
    unfold close
    generalize (n.hub a.side).close a.place reason = out at ties closes
    obtain ⟨hub, closing⟩ := out
    dsimp only at ties closes
    subst closes
    have shut : ((n.setHub a.side hub).wakeAll a woken).board = n.board.shut a := by
      rw [board_wakeAll, board_setHub, ties]
      rfl
    have services : ((n.setHub a.side hub).wakeAll a woken).services = n.services := by
      rw [services_wakeAll, services_setHub]
    dsimp only
    split
    · exact ⟨shut, congrArg (fun alive => (service.filter alive).toList.map _)
        (isAlive_of_services services)⟩
    · exact ⟨shut, congrArg (fun alive => (service.filter alive).toList.map _)
        (isAlive_of_services services)⟩
  · have shut : ∀ service, n.board.tie? a ≠ some ⟨false, service⟩ :=
      fun service here => there ⟨service, here⟩
    obtain ⟨ties, again⟩ := Hub.close_of_shut (n.hub a.side) a.place shut reason
    refine .inl ⟨shut, ?_⟩
    unfold close
    generalize (n.hub a.side).close a.place reason = out at ties again
    obtain ⟨hub, closing⟩ := out
    dsimp only at ties again
    subst again
    exact ⟨n.board_setHub_of_ties ties, rfl⟩

/-- The board once nobody holds a service any more. -/
def Board.dismiss (b : Board) (service : Nat) : Board :=
  { b with posts := b.posts.modify service fun p => { p with gone := true } }

theorem board_dismiss (service : Nat) :
    (n.updateService service fun s => { s with gone := true }).board = n.board.dismiss service := by
  have posts : (n.services.modify service fun s => { s with gone := true }).map Service.post =
      (n.services.map Service.post).modify service fun p => { p with gone := true } :=
    map_modify fun _ _ => rfl
  exact congrArg (fun posts => { n.board with posts := posts }) posts

/-- **Letting go.** A service that nobody holds goes, and the connection of a backend with it. -/
theorem reap_cases (service : Nat) :
    ((n.reap service).1.board = n.board ∧ (n.reap service).2 = []) ∨
      (∀ link ∈ n.board.participants, link.handle ≠ service) ∧
        ∃ p, n.board.posts[service]? = some p ∧
          ((p.voice = none ∧ (n.reap service).1.board = n.board.dismiss service ∧
              (n.reap service).2 = []) ∨
            (∃ link listener, p.voice = some (link, listener)) ∧ n.reap service =
              (n.updateService service fun s => { s with gone := true }).close
                p.address "backend released") := by
  unfold reap
  cases found : n.services[service]? with
  | none => exact .inl ⟨rfl, rfl⟩
  | some s =>
    dsimp only
    by_cases kept : (s.gone || n.isHeld service s) = true
    · rw [if_pos kept]
      exact .inl ⟨rfl, rfl⟩
    · rw [if_neg kept]
      refine .inr ⟨?_, s.post, by rw [getElem?_posts, found]; rfl, ?_⟩
      · rintro link bound rfl
        apply kept
        have holds : n.coordinator.session.participants.any (·.handle == link.handle) = true :=
          List.any_eq_true.mpr ⟨link, bound, by simp⟩
        simp [isHeld, holds]
      · cases role : s.role with
        | recorder key actions seen =>
          exact .inl ⟨congrArg Role.voice role, n.board_dismiss service, rfl⟩
        | backend link replies listener =>
          exact .inr ⟨⟨link, listener, congrArg Role.voice role⟩, rfl⟩

/-! ### Listeners and new backends -/

/-- The board once a backend has another listener. -/
def Board.listen (b : Board) (service : Nat) (listener : Listener) : Board :=
  { b with posts := b.posts.modify service fun p =>
      { p with voice := p.voice.map fun v => (v.1, listener) } }

theorem board_listen (service : Nat) (listener : Listener) :
    (n.updateService service fun s => { s with role := s.role.listen listener }).board =
      n.board.listen service listener := by
  have voices : ∀ role : Role, (role.listen listener).voice =
      role.voice.map fun v => (v.1, listener) := by
    intro role
    cases role <;> rfl
  have posts : (n.services.modify service fun s =>
      { s with role := s.role.listen listener }).map Service.post =
        (n.services.map Service.post).modify service fun p =>
          { p with voice := p.voice.map fun v => (v.1, listener) } := by
    apply map_modify
    intro s _
    unfold Service.post
    rw [voices]
  exact congrArg (fun posts => { n.board with posts := posts }) posts

/-- The board with a new connection, which has no service. -/
def Board.extend (b : Board) (side : Side) : Board :=
  { b with ties := Function.update b.ties side (b.ties side ++ [⟨false, none⟩]) }

theorem board_openLine (key : Key) (host : String) (port : UInt16) (maxPacketSize : Nat)
    (shrinks : Bool) :
    (n.openLine key host port maxPacketSize shrinks).board = n.board.extend key.side := by
  have same : (n.openLine key host port maxPacketSize shrinks).board =
      (n.setHub key.side ((n.hub key.side).open host port maxPacketSize shrinks)).board := rfl
  rw [same, board_setHub, Hub.ties_open]
  rfl

/-- The board with a new connection to a backend. -/
def Board.plug (b : Board) (link : Link) : Board :=
  { b with
    ties := Function.update b.ties .back (b.ties .back ++ [⟨false, some b.posts.length⟩])
    posts := b.posts ++ [⟨⟨.back, (b.ties .back).length⟩, false, some (link, .nobody)⟩] }

theorem board_serve (line : Line) (role : Role) : (n.serve line role).board =
    { n.board with
      ties := Function.update n.board.ties line.address.side
        ((n.board.ties line.address.side).modify line.address.place fun t =>
          { t with service := some n.board.posts.length })
      posts := n.board.posts ++ [⟨line.address, false, role.voice⟩] } := by
  let listed : Network :=
    { n with services := n.services ++ [{ address := line.address, role := role }] }
  have length : n.services.length = n.board.posts.length := List.length_map .. |>.symm
  have same : (n.serve line role).board = (listed.setHub line.address.side
      ((n.hub line.address.side).update line.address.place fun c =>
        { c with service := some n.services.length })).board := rfl
  have posts : listed.board =
      { n.board with posts := n.board.posts ++ [⟨line.address, false, role.voice⟩] } := by
    have mapped : listed.services.map Service.post =
        n.services.map Service.post ++ [⟨line.address, false, role.voice⟩] := List.map_append
    exact congrArg (fun posts => { n.board with posts := posts }) mapped
  rw [same, board_setHub, posts, Hub.ties_serve, length]
  rfl

/-- A backend is put on a new connection. -/
theorem board_plug {key : Key} (side : key.side = .back) (host : String) (port : UInt16)
    (maxPacketSize : Nat) (shrinks : Bool) (link : Link) :
    ((n.openLine key host port maxPacketSize shrinks).serve
        { key := key, address := ⟨.back, n.back.connections.length⟩ }
        (.backend link .idle .nobody)).board = n.board.plug link := by
  have place : n.back.connections.length = (n.board.ties .back).length :=
    (List.length_map Connection.tie).symm
  have behind : ∀ (ts : List Tie) (service : Nat), (ts ++ [(⟨false, none⟩ : Tie)]).modify
      ts.length (fun t => { t with service := some service }) = ts ++ [⟨false, some service⟩] := by
    intro ts service
    rw [List.modify_eq_take_cons_drop (by simp)]
    simp
  rw [board_serve, board_openLine, side, place]
  simp only [Board.extend, Board.plug, Function.update_self, Function.update_idem, behind]
  rfl

/-! ## Wired boards -/

namespace Board

/-- The backends of a board are where their links say, every open connection to a backend tells that
backend of its close, and every link bound is one to a backend. -/
structure Wired (b : Board) : Prop where
  backends : ∀ service p link listener, b.posts[service]? = some p →
    p.voice = some (link, listener) → link.handle = service ∧ ∃ t, b.tie? p.address = some t ∧
      (t.closed = false → t.service = some service ∧ p.gone = false)
  bound : ∀ link ∈ b.participants, ∃ p listener, b.posts[link.handle]? = some p ∧
    p.voice = some (link, listener)

def Listens (b : Board) (service : Nat) (link : Link) : Prop :=
  ∃ p, b.posts[service]? = some p ∧ p.voice = some (link, .coordinator)

def IsOpen (b : Board) (service : Nat) : Prop :=
  ∃ p own, b.posts[service]? = some p ∧ b.tie? p.address = some ⟨false, own⟩

variable {b : Board} {a : Address} {service : Nat}

theorem Wired.shut (wired : b.Wired) (a : Address) : (b.shut a).Wired := by
  refine ⟨?_, wired.bound⟩
  intro service p link listener there backend
  obtain ⟨same, t, tie, tells⟩ := wired.backends service p link listener there backend
  refine ⟨same, ?_⟩
  rw [tie?_shut]
  by_cases here : p.address = a
  · rw [if_pos here, ← here, tie]
    exact ⟨_, rfl, by simp⟩
  · rw [if_neg here]
    exact ⟨t, tie, tells⟩

/-- Only one backend has an open connection. -/
theorem Wired.unique (wired : b.Wired) {own : Option Nat}
    (tie : b.tie? a = some ⟨false, own⟩) {p : Post} {link : Link} {listener : Listener}
    (there : b.posts[service]? = some p) (backend : p.voice = some (link, listener))
    (here : p.address = a) : own = some service ∧ p.gone = false := by
  obtain ⟨-, t, found, tells⟩ := wired.backends service p link listener there backend
  rw [here, tie] at found
  obtain rfl := Option.some.inj found
  exact tells rfl

theorem Wired.bind (wired : b.Wired) {links : List Link}
    (bound : ∀ link ∈ links, ∃ p listener, b.posts[link.handle]? = some p ∧
      p.voice = some (link, listener)) : { b with participants := links }.Wired :=
  ⟨wired.backends, bound⟩

theorem getElem?_listen (b : Board) (service other : Nat) (listener : Listener) :
    (b.listen service listener).posts[other]? = (b.posts[other]?).map fun p =>
      if service = other then { p with voice := p.voice.map fun v => (v.1, listener) } else p := by
  unfold listen
  rw [List.getElem?_modify]
  rfl

/-- To whom a backend speaks does not matter to where it is. -/
theorem Wired.listen (wired : b.Wired) (service : Nat) (listener : Listener) :
    (b.listen service listener).Wired := by
  -- Whoever had a voice keeps it and its link; at most the listener is another.
  have speaks : ∀ {other : Nat} {p : Post} {link : Link} {l : Listener},
      b.posts[other]? = some p → p.voice = some (link, l) →
      ∃ (q : Post) (l' : Listener), (b.listen service listener).posts[other]? = some q ∧
        q.voice = some (link, l') := by
    intro other p link l there voice
    rw [getElem?_listen, there]
    by_cases here : service = other
    · exact ⟨_, listener, rfl, by simp [here, voice]⟩
    · exact ⟨_, l, rfl, by simp [here, voice]⟩
  constructor
  · intro other q link l there voice
    rw [getElem?_listen] at there
    obtain ⟨p, before, rfl⟩ := Option.map_eq_some_iff.mp there
    by_cases here : service = other
    · rw [if_pos here] at voice ⊢
      obtain ⟨⟨own, former⟩, spoke, same⟩ := Option.map_eq_some_iff.mp voice
      obtain ⟨rfl, rfl⟩ := Prod.mk.inj same
      exact wired.backends other p own former before spoke
    · rw [if_neg here] at voice ⊢
      exact wired.backends other p link l before voice
  · intro link bound
    obtain ⟨p, l, there, voice⟩ := wired.bound link bound
    exact speaks there voice

theorem getElem?_append_of_some {α : Type} {l : List α} {place : Nat} {x : α}
    (there : l[place]? = some x) (behind : List α) : (l ++ behind)[place]? = some x := by
  rw [List.getElem?_append_left (List.getElem?_eq_some_iff.mp there).1]
  exact there

theorem tie?_extend {t : Tie} (tie : b.tie? a = some t) (side : Side) :
    (b.extend side).tie? a = some t := by
  unfold tie? extend at *
  dsimp only
  by_cases here : a.side = side
  · subst here
    rw [Function.update_self]
    exact getElem?_append_of_some tie _
  · rw [Function.update_of_ne here]
    exact tie

theorem Wired.extend (wired : b.Wired) (side : Side) : (b.extend side).Wired := by
  refine ⟨?_, wired.bound⟩
  intro service p link listener there backend
  obtain ⟨same, t, tie, tells⟩ := wired.backends service p link listener there backend
  exact ⟨same, t, tie?_extend tie side, tells⟩

theorem Wired.plug (wired : b.Wired) {link : Link} (fits : link.handle = b.posts.length) :
    (b.plug link).Wired := by
  have tie?_plug : ∀ {a t}, b.tie? a = some t → (b.plug link).tie? a = some t := by
    intro a t tie
    unfold tie? Board.plug at *
    dsimp only
    by_cases here : a.side = .back
    · rw [here] at tie ⊢
      rw [Function.update_self]
      exact getElem?_append_of_some tie _
    · rw [Function.update_of_ne here]
      exact tie
  constructor
  · intro service p own listener there backend
    -- Posts that were there keep their number; the new one is the last.
    by_cases old : service < b.posts.length
    · have before : b.posts[service]? = some p := by
        rw [← there]
        exact (List.getElem?_append_left old).symm
      obtain ⟨same, t, tie, tells⟩ := wired.backends service p own listener before backend
      exact ⟨same, t, tie?_plug tie, tells⟩
    · have last : service = b.posts.length := by
        have bound := (List.getElem?_eq_some_iff.mp there).1
        simp [Board.plug] at bound
        omega
      subst last
      have here : (b.plug link).posts[b.posts.length]? =
          some ⟨⟨.back, (b.ties .back).length⟩, false, some (link, .nobody)⟩ :=
        List.getElem?_concat_length ..
      obtain rfl := Option.some.inj (there.symm.trans here)
      obtain ⟨rfl, rfl⟩ := Prod.mk.inj (Option.some.inj backend)
      refine ⟨fits, ⟨false, some b.posts.length⟩, ?_, fun _ => ⟨rfl, rfl⟩⟩
      unfold tie? Board.plug
      dsimp only
      rw [Function.update_self]
      exact List.getElem?_concat_length ..
  · intro other bound
    obtain ⟨p, listener, there, backend⟩ := wired.bound other bound
    exact ⟨p, listener, getElem?_append_of_some there _, backend⟩

theorem getElem?_dismiss (b : Board) (service other : Nat) : (b.dismiss service).posts[other]? =
    (b.posts[other]?).map fun p => { p with gone := p.gone || service = other } := by
  unfold dismiss
  rw [List.getElem?_modify]
  cases b.posts[other]? with
  | none => rfl
  | some p => by_cases here : service = other <;> simp [here]

theorem getElem?_dismiss_of {other : Nat} {p : Post} (there : b.posts[other]? = some p) :
    (b.dismiss service).posts[other]? = some { p with gone := p.gone || service = other } := by
  rw [getElem?_dismiss, there]
  rfl

theorem Wired.dismiss (wired : b.Wired) {p : Post} (there : b.posts[service]? = some p)
    (quiet : p.voice = none ∨ ∀ own, b.tie? p.address ≠ some ⟨false, own⟩) :
    (b.dismiss service).Wired := by
  constructor
  · intro other q link listener found backend
    rw [getElem?_dismiss] at found
    obtain ⟨q, before, rfl⟩ := Option.map_eq_some_iff.mp found
    obtain ⟨same, t, tie, tells⟩ := wired.backends other q link listener before backend
    refine ⟨same, t, tie, ?_⟩
    intro isOpen
    obtain ⟨own, kept⟩ := tells isOpen
    refine ⟨own, ?_⟩
    by_cases here : service = other
    · subst here
      obtain rfl := Option.some.inj (there.symm.trans before)
      -- The dismissed post would have to be told of a close: it had no voice, or its tie is shut.
      rcases quiet with silent | shut
      · rw [silent] at backend
        exact absurd backend (by simp)
      · obtain ⟨closed, own⟩ := t
        obtain rfl : closed = false := isOpen
        exact absurd tie (shut _)
    · simp [kept, here]
  · intro link bound
    obtain ⟨q, listener, before, backend⟩ := wired.bound link bound
    exact ⟨_, listener, getElem?_dismiss_of before, backend⟩

/-! ### Steps that leave the operation alone -/

/-- From `b` to `b'` nothing happens to stage, cohort and those bound, who is listened to stays so,
and the close of an open connection is told to its backend. -/
structure Tends (b b' : Board) (tasks : List Task) : Prop where
  participants : b'.participants = b.participants
  stage : b'.operation.stage = b.operation.stage
  xid : b'.operation.xid = b.operation.xid
  cohort : b'.operation.cohort = b.operation.cohort
  wired : b'.Wired
  listens : ∀ service link, b.Listens service link → b'.Listens service link
  opens : ∀ link ∈ b.participants, b.IsOpen link.handle →
    b'.IsOpen link.handle ∨ ∃ reason, .notify link.handle reason ∈ tasks

theorem Wired.tends_refl (wired : b.Wired) (tasks : List Task) : b.Tends b tasks :=
  ⟨rfl, rfl, rfl, rfl, wired, fun _ _ listens => listens, fun _ _ isOpen => .inl isOpen⟩

theorem Wired.tends_of_eq (wired : b.Wired) {b' : Board} (same : b' = b) (tasks : List Task) :
    b.Tends b' tasks :=
  same ▸ wired.tends_refl tasks

theorem isOpen_dismiss {other : Nat} (isOpen : b.IsOpen other) :
    (b.dismiss service).IsOpen other := by
  obtain ⟨p, own, there, tie⟩ := isOpen
  exact ⟨_, own, getElem?_dismiss_of there, tie⟩

theorem listens_dismiss {other : Nat} {link : Link} (listens : b.Listens other link) :
    (b.dismiss service).Listens other link := by
  obtain ⟨p, there, voice⟩ := listens
  exact ⟨_, getElem?_dismiss_of there, voice⟩

theorem isOpen_shut {p : Post} (there : b.posts[service]? = some p) (elsewhere : p.address ≠ a)
    (isOpen : b.IsOpen service) : (b.shut a).IsOpen service := by
  obtain ⟨q, own, found, tie⟩ := isOpen
  obtain rfl := Option.some.inj (there.symm.trans found)
  refine ⟨p, own, there, ?_⟩
  rw [tie?_shut, if_neg elsewhere]
  exact tie

/-! ### Listening -/

theorem listens_listen {link : Link} {other : Nat} (listens : b.Listens other link) :
    (b.listen service .coordinator).Listens other link := by
  obtain ⟨p, there, voice⟩ := listens
  refine ⟨_, by rw [getElem?_listen, there]; rfl, ?_⟩
  dsimp only
  split
  · simp [voice]
  · exact voice

theorem Wired.listens_of_bound (wired : b.Wired) {link : Link} (bound : link ∈ b.participants) :
    (b.listen link.handle .coordinator).Listens link.handle link := by
  obtain ⟨p, listener, there, voice⟩ := wired.bound link bound
  refine ⟨_, by rw [getElem?_listen, there]; rfl, ?_⟩
  simp [voice]

theorem isOpen_listen {other : Nat} (listener : Listener) (isOpen : b.IsOpen other) :
    (b.listen service listener).IsOpen other := by
  obtain ⟨p, own, there, tie⟩ := isOpen
  refine ⟨_, own, by rw [getElem?_listen, there]; rfl, ?_⟩
  split <;> exact tie

end Board

variable {n : Network}

theorem isAlive_of_post {service : Nat} {p : Post} (there : n.board.posts[service]? = some p) :
    n.isAlive service = !p.gone := by
  rw [getElem?_posts] at there
  obtain ⟨s, found, rfl⟩ := Option.map_eq_some_iff.mp there
  unfold isAlive
  rw [found]
  rfl

theorem tends_close (wired : n.board.Wired) (a : Address) (reason : String) :
    n.board.Tends (n.close a reason).1.board (n.close a reason).2 := by
  rcases n.close_cases a reason with ⟨-, same, -⟩ | ⟨service, tie, shut, tells⟩
  · exact wired.tends_of_eq same _
  · rw [shut, tells]
    refine ⟨rfl, rfl, rfl, rfl, wired.shut a, fun _ _ listens => listens, ?_⟩
    intro link bound isOpen
    obtain ⟨p, listener, there, backend⟩ := wired.bound link bound
    by_cases here : p.address = a
    · obtain ⟨rfl, kept⟩ := wired.unique tie there backend here
      refine .inr ⟨reason, ?_⟩
      have alive : n.isAlive link.handle = true := by
        rw [isAlive_of_post there, kept]
        rfl
      simp [alive]
    · exact .inl (Board.isOpen_shut there here isOpen)

theorem tends_reap (wired : n.board.Wired) (service : Nat) :
    n.board.Tends (n.reap service).1.board (n.reap service).2 := by
  rcases n.reap_cases service with ⟨same, -⟩ | ⟨unbound, p, there, went⟩
  · exact wired.tends_of_eq same _
  · rcases went with ⟨recorder, dismissed, -⟩ | ⟨⟨own, listener, backend⟩, closes⟩
    · rw [dismissed]
      exact ⟨rfl, rfl, rfl, rfl, wired.dismiss there (.inl recorder),
        fun _ _ => Board.listens_dismiss, fun _ _ isOpen => .inl (Board.isOpen_dismiss isOpen)⟩
    · rw [closes]
      have dismissed := n.board_dismiss service
      rcases close_cases (n.updateService service fun s => { s with gone := true }) p.address
        "backend released" with ⟨shut, same, -⟩ | ⟨service', tie, shut, -⟩
      · rw [same, dismissed]
        rw [dismissed] at shut
        exact ⟨rfl, rfl, rfl, rfl, wired.dismiss there (.inr shut),
          fun _ _ => Board.listens_dismiss, fun _ _ isOpen => .inl (Board.isOpen_dismiss isOpen)⟩
      · rw [dismissed] at tie
        rw [shut, dismissed]
        have gone : ∀ own, (n.board.shut p.address).tie? p.address ≠ some ⟨false, own⟩ := by
          intro own
          rw [Board.tie?_shut, if_pos rfl]
          cases n.board.tie? p.address <;> simp
        refine ⟨rfl, rfl, rfl, rfl, (wired.shut p.address).dismiss there (.inr gone),
          fun _ _ => Board.listens_dismiss, ?_⟩
        intro link bound isOpen
        obtain ⟨q, other, found, boundBackend⟩ := wired.bound link bound
        refine .inl (Board.isOpen_dismiss (b := n.board.shut p.address)
          (Board.isOpen_shut found ?_ isOpen))
        -- two backends with one open connection would be one
        intro together
        obtain ⟨rfl, -⟩ := wired.unique tie there backend rfl
        obtain ⟨same, -⟩ := wired.unique tie found boundBackend together
        exact unbound link bound (Option.some.inj same).symm

/-- To the coordinator a close, and letting a service go, is nothing. -/
theorem close_spares (n : Network) (a : Address) (reason : String) :
    (n.close a reason).1.coordinator.operation = n.coordinator.operation ∧
      (n.close a reason).1.coordinator.session.participants =
        n.coordinator.session.participants := by
  rcases n.close_cases a reason with ⟨-, same, -⟩ | ⟨service, -, same, -⟩
  · exact ⟨congrArg Board.operation same, congrArg Board.participants same⟩
  · exact ⟨congrArg Board.operation same, congrArg Board.participants same⟩

theorem reap_spares (n : Network) (service : Nat) :
    (n.reap service).1.coordinator.operation = n.coordinator.operation ∧
      (n.reap service).1.coordinator.session.participants = n.coordinator.session.participants := by
  rcases n.reap_cases service with ⟨same, -⟩ | ⟨-, p, -, ⟨-, same, -⟩ | ⟨-, closes⟩⟩
  · exact ⟨congrArg Board.operation same, congrArg Board.participants same⟩
  · exact ⟨congrArg Board.operation same, congrArg Board.participants same⟩
  · rw [closes]
    exact close_spares (n.updateService service fun s => { s with gone := true }) p.address _

theorem wired_reapAll (wired : n.board.Wired) (services : List Nat) :
    (n.reapAll services).board.Wired := by
  induction services generalizing n with
  | nil => exact wired
  | cons service rest ih => exact ih (tends_reap wired service).wired

theorem reapAll_spares (n : Network) (services : List Nat) :
    (n.reapAll services).coordinator.operation = n.coordinator.operation ∧
      (n.reapAll services).coordinator.session.participants =
        n.coordinator.session.participants := by
  induction services generalizing n with
  | nil => exact ⟨rfl, rfl⟩
  | cons service rest ih =>
    obtain ⟨operation, participants⟩ := ih (n.reap service).1
    obtain ⟨kept, bound⟩ := n.reap_spares service
    exact ⟨operation.trans kept, participants.trans bound⟩

/-- A close leads to nothing but that somebody is told. -/
theorem notify_of_close {n : Network} {a : Address} {reason : String} {task : Task}
    (waits : task ∈ (n.close a reason).2) : ∃ service, task = .notify service reason := by
  rcases n.close_cases a reason with ⟨-, -, none⟩ | ⟨service, -, -, tells⟩
  · rw [none] at waits
    exact absurd waits List.not_mem_nil
  · rw [tells] at waits
    obtain ⟨s, -, rfl⟩ := List.mem_map.mp waits
    exact ⟨s, rfl⟩

/-- A write to an open connection is taken, and one to a closed connection is refused. -/
theorem isOk_write {n : Network} {a : Address} {t : Tie} (tie : n.board.tie? a = some t)
    (data : Bytes) : (n.write a data).2.isOk = !t.closed := by
  have hub : ((n.hub a.side).write a.place data).2.isOk = !t.closed :=
    Hub.write_of_tie _ _ tie data
  rw [← hub]
  unfold write
  generalize (n.hub a.side).write a.place data = out
  obtain ⟨h, result⟩ := out
  cases result with
  | error fault => rfl
  | ok woken => cases woken <;> rfl

/-! ## What a board shows -/

/-- The service is the backend of this link, and passes what it hears on to the coordinator. -/
def Reports (n : Network) (service : Nat) (link : Link) : Prop :=
  ∃ s replies, n.services[service]? = some s ∧ s.role = .backend link replies .coordinator

theorem reports_of_listens {service : Nat} {link : Link} (listens : n.board.Listens service link) :
    n.Reports service link := by
  obtain ⟨p, there, voice⟩ := listens
  rw [getElem?_posts] at there
  obtain ⟨s, found, rfl⟩ := Option.map_eq_some_iff.mp there
  cases role : s.role with
  | recorder key actions seen =>
    rw [show s.post.voice = s.role.voice from rfl, role] at voice
    exact absurd voice (by simp [Role.voice])
  | backend own replies listener =>
    rw [show s.post.voice = s.role.voice from rfl, role] at voice
    obtain ⟨rfl, rfl⟩ := Prod.mk.inj (Option.some.inj voice)
    exact ⟨s, replies, found, role⟩

end Network

end AtomicCommit
