import AtomicCommit.Notice
import AtomicCommit.Transport.Hub

/-!
# Networks: services over streams

A network runs a script against connections whose peers are played by the script. Connections
belong to one of two hubs: the front one to clients, the back one to backends. The frames of a
connection go to its service, a recorder or a backend, and a backend tells its listener, which
may be the coordinator of the network's session.

A service lives as long as somebody holds it: the script, the session that it is bound to, a
command on its way to it, or a reading task that has frames for it. When the last lets go of a
backend, its connection is closed.

Tasks of connections are woken into a queue and take turns from its front. What one turn leads to
is worked off before the next one, the latest call first. This module holds the state and
`Network.perform`, which carries out one task and returns the tasks that it leads to. Working them
off is the matter of `Network.run`.
-/

namespace AtomicCommit

open Wire Transport

namespace Network

/-! ## Places -/

/-- One of the two hubs. -/
inductive Side where
  | front
  | back
  deriving DecidableEq, Repr

/-- A connection. -/
structure Address where
  side : Side
  place : Nat
  deriving DecidableEq, Repr

/-- The connection to the session's client. -/
def client : Address := ⟨.front, 0⟩

/-- A task of a connection that has a turn coming. -/
structure Job where
  address : Address
  worker : Worker
  deriving DecidableEq, Repr

/-! ## Services -/

/-- What a recorder does besides recording. -/
inductive Action where
  | close (reason : String)
  | write (data : Bytes)
  deriving DecidableEq, Repr

/-- Who hears what a backend says. -/
inductive Listener where
  | nobody
  | coordinator
  /-- The script, without the notices of result sets unless `full`. -/
  | script (full : Bool)
  deriving DecidableEq, Repr

/-- What a service does with frames. -/
inductive Role where
  /-- Records them. Each action is due with the frame of its number, from 1 on. -/
  | recorder (key : String) (actions : List (Nat × Action)) (seen : Nat)
  /-- Takes them for replies. -/
  | backend (link : Link) (replies : Reply.State) (listener : Listener)
  deriving DecidableEq, Repr

/-- Give a backend another listener. -/
def Role.listen (role : Role) (listener : Listener) : Role :=
  match role with
  | .backend link replies _ => .backend link replies listener
  | .recorder .. => role

/-- What takes the frames of a connection. -/
structure Service where
  address : Address
  role : Role
  /-- Whether the script holds it. -/
  scripted : Bool := true
  /-- How many commands and reading tasks hold it. -/
  holds : Nat := 0
  /-- Nobody holds it any more. -/
  gone : Bool := false
  deriving DecidableEq, Repr

/-- The name of a connection in the script. Each hub has names of its own. -/
structure Key where
  side : Side
  name : String
  deriving DecidableEq, Repr

/-- What a key of the script stands for. -/
structure Line where
  key : Key
  address : Address
  service : Option Nat := none
  /-- Whether the script holds the connection. -/
  held : Bool := true
  /-- Whether the script waited for the end of the crew that was started last. -/
  joined : Bool := false
  /-- Buffers that the script took from the pool behind the connection, latest first. -/
  taken : List Buffer := []
  deriving DecidableEq, Repr

/-! ## Scripts -/

/-- One step of a script. -/
inductive Instruction where
  /-- A new connection under a key. -/
  | «open» (key : Key) (host : String) (port : UInt16) (maxPacketSize : Nat) (shrinks : Bool)
  /-- Give a connection a recorder. -/
  | record (key : Key) (actions : List (Nat × Action))
  /-- Start a crew of tasks of a connection. -/
  | start (key : Key)
  | write (key : Key) (data : Bytes)
  | close (key : Key) (reason : String)
  /-- Take a buffer from the pool behind a connection. -/
  | allocate (key : Key) (size : Nat)
  /-- Return the buffer taken last there. -/
  | recycle (key : Key)
  /-- Ask for the host of a registered connection. -/
  | lookup (id : Nat)
  /-- Let go of a connection. -/
  | drop (key : Key)
  /-- Wait for the end of the crew that was started last. -/
  | join (key : Key)
  /-- Let the peer of a connection do something. -/
  | peer (key : Key) (act : Peer.Act)
  /-- Let go of a service. -/
  | release (key : Key)
  /-- Send a command past the coordinator. -/
  | send (key : Key) (kind : CommandKind)
  | listen (key : Key) (listener : Listener)
  | commit
  | rollback
  | interrupt (reason : String)
  | closeSession
  | setXa (on : Bool)
  /-- Bind a backend to the session. -/
  | attach (key : Key)
  | detach (id : ParticipantId)
  | clearTransaction
  deriving DecidableEq, Repr

/-- What an instruction returns. -/
inductive Answer where
  | done
  | fault (fault : Fault)
  | flag (on : Bool)
  | host (name : Option String)
  | buffer (buffer : Buffer)
  deriving DecidableEq, Repr

/-- What can be observed from outside besides the connections. -/
inductive Observation where
  /-- A recorder got a frame. -/
  | frame (key : String) (data : Bytes)
  /-- A recorder was told of the close of its connection. -/
  | closed (key reason : String)
  /-- A recorder wrote, or failed to. -/
  | wrote (fault : Option Fault)
  /-- The script listened. -/
  | heard (id : ParticipantId) (notice : Notice)
  deriving DecidableEq, Repr

end Network

/-! ## State -/

/-- A session, its backends, and the connections under them. -/
structure Network where
  coordinator : Coordinator
  front : Hub
  back : Hub
  /-- Every service there ever was; its place is its handle, and that of a backend's link. -/
  services : List Network.Service := []
  lines : List Network.Line := []
  /-- Tasks that have a turn coming, in order. -/
  ready : List Network.Job := []
  /-- What was observed since the last report, latest first. -/
  observed : List Network.Observation := []
  deriving DecidableEq, Repr

namespace Network

/-- What is to be done before the next turn. -/
inductive Task where
  /-- A turn of a reading task. -/
  | read (address : Address) (crew : Nat)
  /-- A turn of a writing task. -/
  | send (address : Address) (crew : Nat)
  /-- Hand a frame to a service. -/
  | deliver (service : Nat) (frame : Bytes)
  /-- Go on behind the frames of a turn. The service that got them is let go. -/
  | settle (address : Address) (crew : Nat) (service : Option Nat) (split : Split)
  /-- Read on. -/
  | resume (address : Address) (crew : Nat)
  | endReader (address : Address) (crew : Nat)
  | endWriter (address : Address) (crew : Nat)
  | close (address : Address) (reason : String)
  /-- Tell a service that its connection closed. -/
  | notify (service : Nat) (reason : String)
  | act (address : Address) (action : Action)
  /-- Send a command of the coordinator. -/
  | command (link : Link) (command : Command)
  | conclude (verdict : Verdict)
  /-- Give up one hold of a service. -/
  | release (service : Nat)
  /-- See whether anybody still holds a service. -/
  | reap (service : Nat)
  deriving DecidableEq, Repr

def Job.task (job : Job) : Task :=
  if job.worker.reads then .read job.address job.worker.crew
  else .send job.address job.worker.crew

def hub (n : Network) : Side → Hub
  | .front => n.front
  | .back => n.back

def setHub (n : Network) (side : Side) (hub : Hub) : Network :=
  match side with
  | .front => { n with front := hub }
  | .back => { n with back := hub }

def connection? (n : Network) (a : Address) : Option Connection :=
  (n.hub a.side).connections[a.place]?

def updateService (n : Network) (service : Nat) (f : Service → Service) : Network :=
  { n with services := n.services.modify service f }

def observe (n : Network) (observation : Observation) : Network :=
  { n with observed := observation :: n.observed }

/-- Give a task a turn, unless it has one coming. -/
def wake (n : Network) (job : Job) : Network :=
  if n.ready.contains job then n else { n with ready := n.ready ++ [job] }

/-- Give tasks of a connection a turn each, in order. -/
def wakeAll (n : Network) (a : Address) (workers : List Worker) : Network :=
  workers.foldl (fun n worker => n.wake ⟨a, worker⟩) n

/-! ## Connections -/

/-- Whether a service can be told anything. -/
def isAlive (n : Network) (service : Nat) : Bool :=
  match n.services[service]? with
  | some s => !s.gone
  | none => false

/-- Close a connection. -/
def close (n : Network) (a : Address) (reason : String) : Network × List Task :=
  let (hub, closing) := (n.hub a.side).close a.place reason
  let n := n.setHub a.side hub
  match closing with
  | .again => (n, [])
  | .first service woken =>
    let n := n.wakeAll a woken
    let n := if a = client then { n with coordinator.session.clientClosed := true } else n
    (n, (service.filter n.isAlive).toList.map fun s => .notify s reason)

/-- Queue bytes on a connection. -/
def write (n : Network) (a : Address) (data : Bytes) : Network × Except Fault Unit :=
  let (hub, result) := (n.hub a.side).write a.place data
  let n := n.setHub a.side hub
  match result with
  | .error fault => (n, .error fault)
  | .ok none => (n, .ok ())
  | .ok (some crew) => (n.wake ⟨a, crew, false⟩, .ok ())

/-- Write a packet to the client, unless the session is closed. -/
def writeClient (n : Network) (packet : Bytes) : Network :=
  if n.coordinator.session.isClosed then n else (n.write client packet).1

/-- Write the packet that a call left for the client, if it left one. -/
def tellClient (n : Network) : Option Bytes → Network
  | some packet => n.writeClient packet
  | none => n

/-! ## Holding services -/

def hold (n : Network) (service : Nat) : Network :=
  n.updateService service fun s => { s with holds := s.holds + 1 }

/-- Whether the script, the session or a task holds a service. -/
def isHeld (n : Network) (service : Nat) (s : Service) : Bool :=
  s.scripted || 0 < s.holds || n.coordinator.session.participants.any (·.handle == service)

/-- Let a service go if nobody holds it. The connection of a backend is closed with it. -/
def reap (n : Network) (service : Nat) : Network × List Task :=
  match n.services[service]? with
  | none => (n, [])
  | some s =>
    if s.gone || n.isHeld service s then (n, [])
    else
      let n := n.updateService service fun s => { s with gone := true }
      match s.role with
      | .recorder .. => (n, [])
      | .backend .. => n.close s.address "backend released"

/-- Give up one hold of a service. -/
def release (n : Network) (service : Nat) : Network × List Task :=
  (n.updateService service fun s => { s with holds := s.holds - 1 }).reap service

/-! ## The coordinator -/

/-- The tasks that an effect of the coordinator stands for. A command holds its backend. -/
def tasksOf : Effect → List Task
  | .idle => []
  | .send commands => commands.flatMap fun (link, command) =>
    [.command link command, .release link.handle]
  | .conclude verdict => [.conclude verdict]

/-- Let the commands of an effect hold their backends. -/
def holdAll (n : Network) : Effect → Network
  | .send commands => commands.foldl (fun n (link, _) => n.hold link.handle) n
  | _ => n

/-- Put in what became of the coordinator. -/
def advance (n : Network) (coordinator : Coordinator) (effect : Effect) : Network × List Task :=
  (holdAll { n with coordinator := coordinator } effect, tasksOf effect)

/-- The backend that an event unbinds from the session. -/
def unboundBy? (n : Network) : Event → Option Link
  | .closed link _ => n.coordinator.session.participants.find? (·.id == link.id)
  | _ => none

/-- Pass an event to the coordinator. A backend that the event unbinds is let go last. -/
def handle (n : Network) (event : Event) : Network × List Task :=
  let (coordinator, effect) := n.coordinator.handle event
  let (after, tasks) := n.advance coordinator effect
  (after, tasks ++ ((n.unboundBy? event).map fun link => .reap link.handle).toList)

/-- Send a command of the coordinator, which listens from now on. -/
def command (n : Network) (link : Link) (command : Command) : Network × List Task :=
  match n.services[link.handle]? with
  | none => (n, [])
  | some s =>
    let n := n.updateService link.handle fun s => { s with role := s.role.listen .coordinator }
    match n.write s.address (command.append []) with
    | (n, .ok ()) => (n, [])
    | (n, .error fault) => n.handle (.error link.id none fault.message)

/-- Let backends go, in order. Nobody is told of the connections that are closed with them. -/
def reapAll (n : Network) (services : List Nat) : Network :=
  services.foldl (fun n service => (n.reap service).1) n

/-- Release the transaction and tell the client. -/
def conclude (n : Network) (verdict : Verdict) : Network :=
  let bound := n.coordinator.session.participants
  let (coordinator, packet, _) := n.coordinator.conclude verdict
  -- backends go before the client is told
  (reapAll { n with coordinator := coordinator } (bound.map Link.handle)).tellClient packet

/-! ## Services at work -/

/-- Tell the listener of a backend. -/
def tell (n : Network) (link : Link) (listener : Listener) (notice : Notice) :
    Network × List Task :=
  match listener with
  | .nobody => (n, [])
  | .coordinator =>
    match notice.event? link with
    | some event => n.handle event
    | none => (n, [])
  | .script full =>
    (if full || !notice.isResultSet then n.observe (.heard link.id notice) else n, [])

/-- Whether a recorder's action is due with the frame of a number. -/
def isDue (number : Nat) (action : Nat × Action) : Bool :=
  action.1 == number

/-- Hand a frame to a service. A backend closes its connection for a frame that it cannot read,
if anybody listens. -/
def deliver (n : Network) (service : Nat) (frame : Bytes) : Network × List Task :=
  match n.services[service]? with
  | none => (n, [])
  | some s =>
    match s.role with
    | .recorder key actions seen =>
      let (due, later) := actions.partition (isDue (seen + 1))
      let n := n.updateService service fun s =>
        { s with role := .recorder key later (seen + 1) }
      (n.observe (.frame key frame), due.map fun (_, action) => .act s.address action)
    | .backend link replies listener =>
      -- the place in the reply moves on even if nobody listens
      let (replies, meaning) := replies.hear frame
      let n := n.updateService service fun s => { s with role := .backend link replies listener }
      match Notice.ofFrame? frame meaning with
      | none => (n, [])
      | some notice =>
        let (n, tasks) := n.tell link listener notice
        match notice, listener with
        | _, .nobody => (n, tasks)
        | .connectError fault, _ => (n, tasks ++ [.close s.address fault.message])
        | _, _ => (n, tasks)

/-- Tell a service that its connection closed. -/
def notify (n : Network) (service : Nat) (reason : String) : Network × List Task :=
  match n.services[service]? with
  | none => (n, [])
  | some s =>
    match s.role with
    | .recorder key _ _ => (n.observe (.closed key reason), [])
    | .backend link _ listener => n.tell link listener (.closed reason)

/-- Do what a recorder does besides recording. -/
def act (n : Network) (a : Address) : Action → Network × List Task
  | .close reason => n.close a reason
  | .write data =>
    match n.write a data with
    | (n, .ok ()) => (n.observe (.wrote none), [])
    | (n, .error fault) => (n.observe (.wrote (some fault)), [])

/-! ## Turns -/

/-- A turn of a reading task. While its frames are handed over, it holds the service. -/
def read (n : Network) (a : Address) (crew : Nat) : Network × List Task :=
  let (hub, turn) := (n.hub a.side).read a.place crew
  let n := n.setHub a.side hub
  match turn with
  | .wait => (n, [])
  | .leave => (n, [.endReader a crew])
  | .fail reason => (n, [.close a reason, .endReader a crew])
  | .frames service split =>
    match service.filter n.isAlive with
    | some s => (n.hold s, split.frames.map (.deliver s) ++ [.settle a crew (some s) split])
    | none => (n, [.settle a crew none split])

/-- Go on behind the frames of a turn. -/
def settle (n : Network) (a : Address) (crew : Nat) (service : Option Nat) (split : Split) :
    Network × List Task :=
  let (hub, reason) := (n.hub a.side).settle a.place crew split
  let after := match reason with
    | some reason => [.close a reason, .endReader a crew]
    | none => [.resume a crew]
  -- the service goes first: if nobody else holds it, its connection is closed by that
  (n.setHub a.side hub, service.toList.map .release ++ after)

/-- A turn of a writing task. -/
def send (n : Network) (a : Address) (crew : Nat) : Network × List Task :=
  let (hub, progress) := (n.hub a.side).send a.place crew
  let n := n.setHub a.side hub
  match progress with
  | .wait => (n, [])
  | .again => (n, [.send a crew])
  | .leave => (n, [.close a Hub.writerStopped, .endWriter a crew])
  | .fail reason => (n, [.close a reason, .close a Hub.writerStopped, .endWriter a crew])

/-- Carry out one task. -/
def perform (n : Network) : Task → Network × List Task
  | .read a crew => n.read a crew
  | .send a crew => n.send a crew
  | .deliver service frame => n.deliver service frame
  | .settle a crew service split => n.settle a crew service split
  | .resume a crew => (n.setHub a.side ((n.hub a.side).shrink a.place crew), [.read a crew])
  | .endReader a crew => (n.setHub a.side ((n.hub a.side).endReader a.place crew), [])
  | .endWriter a crew => (n.setHub a.side ((n.hub a.side).endWriter a.place crew), [])
  | .close a reason => n.close a reason
  | .notify service reason => n.notify service reason
  | .act a action => n.act a action
  | .command link command => n.command link command
  | .conclude verdict => (n.conclude verdict, [])
  | .release service => n.release service
  | .reap service => n.reap service

/-! ## Instructions -/

/-- What a key stands for. -/
def line? (n : Network) (key : Key) : Option Line :=
  n.lines.find? (·.key == key)

def updateLine (n : Network) (key : Key) (f : Line → Line) : Network :=
  { n with lines := n.lines.map fun line => if line.key == key then f line else line }

/-- Open a connection under a key, which stands for nothing else from now on. -/
def openLine (n : Network) (key : Key) (host : String) (port : UInt16) (maxPacketSize : Nat)
    (shrinks : Bool) : Network :=
  let hub := n.hub key.side
  let line : Line := { key := key, address := ⟨key.side, hub.connections.length⟩ }
  { n.setHub key.side (hub.open host port maxPacketSize shrinks) with
    lines := line :: n.lines.filter (·.key != key) }

/-- Give the connection of a line a service. -/
def serve (n : Network) (line : Line) (role : Role) : Network :=
  let service := n.services.length
  let a := line.address
  let s : Service := { address := a, role := role }
  let n := { n with services := n.services ++ [s] }
  let n := n.setHub a.side
    ((n.hub a.side).update a.place fun c => { c with service := some service })
  n.updateLine line.key fun line => { line with service := some service }

/-- Let the script give up a service. -/
def forgo (n : Network) (service : Nat) : Network × List Task :=
  (n.updateService service fun s => { s with scripted := false }).reap service

def start (n : Network) (a : Address) : Network :=
  let (hub, crew) := (n.hub a.side).start a.place
  (n.setHub a.side hub).wakeAll a [⟨crew, true⟩, ⟨crew, false⟩]

/-- Open and start a connection to a backend, and bind the backend to the session. An earlier
backend of that name is unbound by it, and the script lets it go too. -/
def addBackend (n : Network) (name : String) (info : LinkInfo) (maxPacketSize : Nat)
    (shrinks : Bool) : Network :=
  let key : Key := ⟨.back, name⟩
  let former := (n.line? key).bind Line.service
  let a : Address := ⟨.back, n.back.connections.length⟩
  let link : Link := ⟨n.services.length, ⟨name⟩, info⟩
  let n := n.openLine key info.host info.port maxPacketSize shrinks
  let n := (n.serve { key := key, address := a } (.backend link .idle .nobody)).start a
  let n := { n with coordinator.session := n.coordinator.session.attach link }
  match former with
  | some service => (n.forgo service).1
  | none => n

/-- Whether a connection is held by the script or by its own tasks. -/
def isReachable (n : Network) (a : Address) (c : Connection) : Bool :=
  c.isManned || n.lines.any fun line => line.address == a && line.held

/-- The host of a connection of the back hub, if it is registered and there. -/
def lookup (n : Network) (id : Nat) : Option String :=
  match n.back.connections[id - 1]? with
  | none => none
  | some c =>
    if n.back.registered.contains id && n.isReachable ⟨.back, id - 1⟩ c then some c.host
    else none

/-- Let the peer of a connection do something. The tasks that wait for it get a turn. -/
def peer (n : Network) (a : Address) (act : Peer.Act) : Network :=
  let woken := (n.connection? a).map (·.concernedBy act)
  let n := n.setHub a.side
    ((n.hub a.side).update a.place fun c => { c with peer := c.peer.act act })
  n.wakeAll a (woken.getD [])

/-- The script's own transaction, in whose branches it sends commands itself. -/
def scriptXid : Xid := .ofSession "x" 1 1

/-- Send a command past the coordinator. -/
def sendCommand (n : Network) (s : Service) (kind : CommandKind) : Network × Except Fault Unit :=
  match s.role with
  | .recorder .. => (n, .ok ())
  | .backend link _ _ =>
    match Command.ofKind kind (some scriptXid) link.id.shard with
    | .error e => (n, .error (.invalidUsage e))
    | .ok command => n.write s.address (command.append [])

/-- What a call of the coordinator returns and leaves to be done. -/
def started (n : Network) (result : Coordinator × Except Fault Effect) :
    Network × Answer × List Task :=
  match result with
  | (coordinator, .ok effect) =>
    let (n, tasks) := n.advance coordinator effect
    (n, .done, tasks)
  | (coordinator, .error fault) => ({ n with coordinator := coordinator }, .fault fault, [])

/-- Change the session. Backends that are unbound by it are let go. -/
def onSession (n : Network) (session : Session) : Network × List Task :=
  let unbound := n.coordinator.session.participants.filter fun link =>
    !session.participants.contains link
  ({ n with coordinator.session := session }, unbound.map fun link => .reap link.handle)

def Answer.ofResult : Except Fault Unit → Answer
  | .ok () => .done
  | .error cause => .fault cause

/-- Carry out an instruction on the line of a key. -/
def instructLine (n : Network) (line : Line) : Instruction → Network × Answer × List Task
  | .record _ actions =>
    let n := match line.service with
      | some service => n.updateService service fun s => { s with scripted := false, gone := true }
      | none => n
    (n.serve line (.recorder line.key.name actions 0), .done, [])
  | .start _ =>
    ((n.start line.address).updateLine line.key fun line => { line with joined := false },
      .done, [])
  | .write _ data =>
    let (n, result) := n.write line.address data
    (n, .ofResult result, [])
  | .close _ reason =>
    let (n, tasks) := n.close line.address reason
    (n, .done, tasks)
  | .allocate _ size =>
    let hub := n.hub line.address.side
    let (buffer, pool) := hub.pool.allocate size
    let n := n.setHub line.address.side { hub with pool := pool }
    (n.updateLine line.key fun line => { line with taken := buffer :: line.taken },
      .buffer buffer, [])
  | .recycle _ =>
    match line.taken with
    | [] => (n, .done, [])
    | buffer :: taken =>
      let hub := n.hub line.address.side
      let n := n.setHub line.address.side { hub with pool := hub.pool.recycle buffer }
      (n.updateLine line.key fun line => { line with taken := taken }, .done, [])
  | .drop _ => (n.updateLine line.key fun line => { line with held := false }, .done, [])
  | .join _ => (n.updateLine line.key fun line => { line with joined := true }, .done, [])
  | .peer _ act => (n.peer line.address act, .done, [])
  | .release _ =>
    match line.service with
    | none => (n, .done, [])
    | some service =>
      let (n, tasks) := n.forgo service
      (n, .done, tasks)
  | .send _ kind =>
    match line.service.bind (n.services[·]?) with
    | none => (n, .done, [])
    | some s =>
      let (n, result) := n.sendCommand s kind
      (n, .ofResult result, [])
  | .listen _ listener =>
    match line.service with
    | none => (n, .done, [])
    | some service =>
      (n.updateService service fun s => { s with role := s.role.listen listener }, .done, [])
  | .attach _ =>
    match (line.service.bind (n.services[·]?)).map Service.role with
    | some (.backend link _ _) =>
      let (n, tasks) := n.onSession (n.coordinator.session.attach link)
      (n, .done, tasks)
    | _ => (n, .done, [])
  | _ => (n, .done, [])

/-- The key that an instruction is about. -/
def Instruction.key? : Instruction → Option Key
  | .record key _ | .start key | .write key _ | .close key _ | .allocate key _ | .recycle key
  | .drop key | .join key | .peer key _ | .release key | .send key _ | .listen key _
  | .attach key => some key
  | _ => none

/-- Carry out one instruction: what it returns and what is left to do before it returns. -/
def instruct (n : Network) (instruction : Instruction) : Network × Answer × List Task :=
  match instruction with
  | .open key host port maxPacketSize shrinks =>
    (n.openLine key host port maxPacketSize shrinks, .done, [])
  | .lookup id => (n, .host (n.lookup id), [])
  | .commit => n.started n.coordinator.beginCommit
  | .rollback => n.started n.coordinator.beginRollback
  | .interrupt reason =>
    match n.coordinator.interrupt reason with
    | .error fault => (n, .fault fault, [])
    | .ok (coordinator, packet) =>
      (tellClient { n with coordinator := coordinator } packet, .done, [])
  | .closeSession => ({ n with coordinator.session.closed := true }, .done, [])
  | .setXa on => ({ n with coordinator.session.xa := on }, .done, [])
  | .detach id =>
    let (found, session) := n.coordinator.session.detach id
    let (n, tasks) := n.onSession session
    (n, .flag found.isSome, tasks)
  | .clearTransaction =>
    let (n, tasks) := n.onSession n.coordinator.session.clearTransaction
    (n, .done, tasks)
  | instruction =>
    match instruction.key?.bind n.line? with
    | some line => n.instructLine line instruction
    | none => (n, .done, [])

end Network

end AtomicCommit
