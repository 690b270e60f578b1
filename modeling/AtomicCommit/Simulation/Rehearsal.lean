import AtomicCommit.Notice

/-!
# Rehearsals: a session with stand-in backends

A rehearsal runs a script against one session whose backends are stand-ins. A stand-in records
every command, can be told to refuse it, and can answer it before the call that sent it returns,
so answers arrive while the coordinator is still sending. The hook for the next statement runs
further instructions in the same way.

This module holds the script, the state and `Rehearsal.perform`, which carries out one task and
returns the tasks that it leads to. Working them off is the matter of `Rehearsal.run`.
-/

namespace AtomicCommit

open Wire

/-! ## Scripts -/

/-- What a stand-in does about one command it is sent. -/
inductive Reaction where
  /-- Refuse it. -/
  | refuse (text : String)
  /-- Take it and keep silent. -/
  | nothing
  /-- Take it and answer at once. -/
  | answer (notice : Notice)
  deriving DecidableEq, Repr

/-- One step of a script. Stand-ins are addressed by a key. -/
inductive Instruction where
  /-- Let a stand-in say something through the handler it was given. -/
  | say (key : String) (notice : Notice)
  | commit
  | rollback
  | interrupt (reason : String)
  | beginStage (stage : Stage)
  | ok (id : ParticipantId) (packet : Bytes)
  | error (id : ParticipantId) (code : Option UInt16) (message : String)
  | closed (key reason : String)
  | connectError (id : Option ParticipantId) (fault : Fault)
  /-- Refuse every command from now on, or none. -/
  | refuseAll (key : String) (text : Option String)
  /-- Queue reactions to the next commands. -/
  | react (key : String) (reactions : List Reaction)
  | clientClosed (on : Bool)
  | clientFails (on : Bool)
  /-- A new stand-in under a key. -/
  | attach (key : String) (id : ParticipantId) (info : LinkInfo)
  | reattach (key : String)
  | detach (id : ParticipantId)
  | setXa (on : Bool)
  | setPacketId (n : UInt8)
  | setMultiStatement (on : Bool)
  | savepoint (name : String)
  | clearSavepoints
  | clearTransaction
  | markDiscarding
  | closeSession
  | setInterruptReason (reason : String)
  | writeClient (data : Bytes)
  | nextPacketId
  | nextXaSequence
  | sessionId
  | nextStatement
  /-- Let go of the session; the coordinator stays. -/
  | dropSession
  /-- What the next statements do. -/
  | setHook (scripts : List (List Instruction))

/-- What an instruction returns. -/
inductive Answer where
  | done
  /-- Something was to be said by a stand-in that has no handler. -/
  | noHandler
  | fault (fault : Fault)
  | flag (on : Bool)
  | number (n : Nat)
  | word (n : UInt64)
  deriving DecidableEq, Repr

/-- What can be observed from outside. -/
inductive Observation where
  | sent (key sql : String) (refused : Bool)
  | client (packet : Bytes)
  | clientFailed (length : Nat)
  | nextStatement
  /-- An instruction of the hook returned. -/
  | hook (answer : Answer)
  deriving DecidableEq, Repr

/-! ## State -/

/-- A backend played by the script. -/
structure StandIn where
  key : String
  link : Link
  refusal : Option String := none
  reactions : List Reaction := []
  /-- Whether it was given a handler. -/
  handled : Bool := false
  deriving DecidableEq, Repr

/-- A script's session with everything around it. -/
structure Rehearsal where
  coordinator : Coordinator
  /-- Whether the script still holds the session. -/
  held : Bool := true
  /-- Whether the session is no more: calls under way keep it until they return. -/
  gone : Bool := false
  /-- Every stand-in there ever was; its place is the handle of its link. -/
  cast : List StandIn := []
  /-- Which handle a key stands for now. -/
  keys : List (String × Nat) := []
  clientFails : Bool := false
  /-- The scripts of the next statements, if a hook is set. -/
  hook : Option (List (List Instruction)) := none
  /-- What was observed since the last report, latest first. -/
  observed : List Observation := []

/-- What a call still has to do. -/
inductive Rehearsal.Task where
  /-- Send a command. -/
  | send (link : Link) (command : Command)
  /-- Take in what a stand-in says. -/
  | hear (link : Link) (notice : Notice)
  | conclude (verdict : Verdict)
  | nextStatement
  /-- Carry out an instruction of the hook. -/
  | instruct (instruction : Instruction)
  | note (observation : Observation)

namespace Rehearsal

/-- A session with its first stand-ins attached. -/
def attachAll (r : Rehearsal) (links : List (String × ParticipantId × LinkInfo)) : Rehearsal :=
  links.foldl (fun r (key, id, info) =>
    let link : Link := ⟨r.cast.length, id, info⟩
    { r with
      cast := r.cast ++ [{ key := key, link := link }]
      keys := (key, link.handle) :: r.keys
      coordinator.session := r.coordinator.session.attach link }) r

def find? (r : Rehearsal) (key : String) : Option StandIn :=
  (r.keys.lookup key).bind fun handle => r.cast[handle]?

def update (r : Rehearsal) (handle : Nat) (f : StandIn → StandIn) : Rehearsal :=
  { r with cast := r.cast.modify handle f }

def onSession (r : Rehearsal) (f : Session → Session) : Rehearsal :=
  { r with coordinator.session := f r.coordinator.session }

def observe (r : Rehearsal) (observation : Observation) : Rehearsal :=
  { r with observed := observation :: r.observed }

/-- Write a packet to the client, unless the session is closed. -/
def writeClient (r : Rehearsal) (packet : Bytes) : Rehearsal :=
  if r.coordinator.session.isClosed then r
  else if r.clientFails then r.observe (.clientFailed packet.length)
  else r.observe (.client packet)

/-! ## Tasks -/

/-- The tasks that an effect of the coordinator stands for. -/
def tasksOf : Effect → List Task
  | .idle => []
  | .send commands => commands.map fun (link, command) => .send link command
  | .conclude verdict => [.conclude verdict]

/-- Pass an event to the coordinator. Without a session it is dropped. -/
def handle (r : Rehearsal) (event : Event) : Rehearsal × List Task :=
  if r.gone then (r, [])
  else
    let (coordinator, effect) := r.coordinator.handle event
    ({ r with coordinator := coordinator }, tasksOf effect)

/-- Let the coordinator hear a notice. -/
def hear (r : Rehearsal) (link : Link) (notice : Notice) : Rehearsal × List Task :=
  match notice.event? link with
  | some event => r.handle event
  | none => (r, [])

/-- Send a command to a stand-in. It takes the next of its reactions, and refuses the command if
that says so or if it refuses everything. -/
def send (r : Rehearsal) (link : Link) (command : Command) : Rehearsal × List Task :=
  match r.cast[link.handle]? with
  | none => (r, [])
  | some standIn =>
    let reaction := standIn.reactions.head?.getD .nothing
    let r := r.update link.handle fun s =>
      { s with handled := true, reactions := s.reactions.tail }
    let refusal := match reaction with
      | .refuse text => some text
      | _ => standIn.refusal
    let r := r.observe (.sent standIn.key command.sql refusal.isSome)
    match refusal, reaction with
    | some text, _ => r.handle (.error link.id none (Fault.connectionClosed text).message)
    | none, .answer notice => (r, [.hear link notice])
    | none, _ => (r, [])

/-- Release the transaction and tell the client. -/
def conclude (r : Rehearsal) (verdict : Verdict) : Rehearsal × List Task :=
  let (coordinator, packet, continues) := r.coordinator.conclude verdict
  let r := { r with coordinator := coordinator }
  let r := match packet with
    | some packet => r.writeClient packet
    | none => r
  (r, if continues then [.nextStatement] else [])

/-- Run the next script of the hook. -/
def runHook (r : Rehearsal) : Rehearsal × List Task :=
  match r.hook with
  | none => (r, [])
  | some [] => (r.observe .nextStatement, [])
  | some (script :: rest) =>
    ({ r with hook := some rest }.observe .nextStatement, script.map .instruct)

/-! ## Instructions -/

/-- What a call of the coordinator returns and leaves to be done. -/
def started (r : Rehearsal) (result : Coordinator × Except Fault Effect) :
    Rehearsal × Answer × List Task :=
  match result with
  | (coordinator, .ok effect) => ({ r with coordinator := coordinator }, .done, tasksOf effect)
  | (coordinator, .error fault) => ({ r with coordinator := coordinator }, .fault fault, [])

/-- Call the coordinator, which refuses without a session. -/
def call (r : Rehearsal) (f : Coordinator → Coordinator × Except Fault Effect) :
    Rehearsal × Answer × List Task :=
  if r.gone then (r, .fault (.invalidState .sessionGone), []) else r.started (f r.coordinator)

/-- Carry out one instruction: what it returns and what is left to do before it returns. -/
def instruct (r : Rehearsal) : Instruction → Rehearsal × Answer × List Task
  | .say key notice =>
    match r.find? key with
    | some standIn =>
      if standIn.handled then
        let (r, tasks) := r.hear standIn.link notice
        (r, .done, tasks)
      else (r, .noHandler, [])
    | none => (r, .noHandler, [])
  | .commit => r.call Coordinator.beginCommit
  | .rollback => r.call Coordinator.beginRollback
  | .interrupt reason =>
    if r.gone then (r, .fault (.invalidState .sessionGone), [])
    else
      match r.coordinator.interrupt reason with
      | .error fault => (r, .fault fault, [])
      | .ok (coordinator, packet) =>
        let r := { r with coordinator := coordinator }
        (match packet with
          | some packet => r.writeClient packet
          | none => r, .done, [])
  | .beginStage stage => r.call fun c => c.begin stage
  | .ok id packet =>
    let (r, tasks) := r.handle (.ok id packet)
    (r, .done, tasks)
  | .error id code message =>
    let (r, tasks) := r.handle (.error id code message)
    (r, .done, tasks)
  | .closed key reason =>
    match r.find? key with
    | some standIn =>
      let (r, tasks) := r.handle (.closed standIn.link reason)
      (r, .done, tasks)
    | none => (r, .done, [])
  | .connectError id fault =>
    let (r, tasks) := r.handle (.connectError id fault)
    (r, .done, tasks)
  | .refuseAll key text =>
    (match r.find? key with
      | some standIn => r.update standIn.link.handle fun s => { s with refusal := text }
      | none => r, .done, [])
  | .react key reactions =>
    (match r.find? key with
      | some standIn => r.update standIn.link.handle fun s =>
        { s with reactions := s.reactions ++ reactions }
      | none => r, .done, [])
  | .clientClosed on => (r.onSession fun s => { s with clientClosed := on }, .done, [])
  | .clientFails on => ({ r with clientFails := on }, .done, [])
  | .attach key id info => (r.attachAll [(key, id, info)], .done, [])
  | .reattach key =>
    (match r.find? key with
      | some standIn => r.onSession fun s => s.attach standIn.link
      | none => r, .done, [])
  | .detach id =>
    let (found, session) := r.coordinator.session.detach id
    ({ r with coordinator.session := session }, .flag found.isSome, [])
  | .setXa on => (r.onSession fun s => { s with xa := on }, .done, [])
  | .setPacketId n => (r.onSession fun s => { s with packetId := n }, .done, [])
  | .setMultiStatement on => (r.onSession fun s => { s with multiStatement := on }, .done, [])
  | .savepoint name =>
    (r.onSession fun s => { s with savepoints := s.savepoints ++ [name] }, .done, [])
  | .clearSavepoints => (r.onSession fun s => { s with savepoints := [] }, .done, [])
  | .clearTransaction => (r.onSession Session.clearTransaction, .done, [])
  | .markDiscarding => (r.onSession Session.markDiscarding, .done, [])
  | .closeSession => (r.onSession fun s => { s with closed := true }, .done, [])
  | .setInterruptReason reason =>
    (r.onSession fun s => { s with interruptReason := some reason }, .done, [])
  | .writeClient data => (r.writeClient data, .done, [])
  | .nextPacketId =>
    let (n, session) := r.coordinator.session.nextPacketId
    ({ r with coordinator.session := session }, .number n.toNat, [])
  | .nextXaSequence =>
    let (n, session) := r.coordinator.session.nextXaSequence
    ({ r with coordinator.session := session }, .word n, [])
  | .sessionId => (r, .word r.coordinator.session.id, [])
  | .nextStatement => (r, .done, [.nextStatement])
  | .dropSession => ({ r with held := false }, .done, [])
  | .setHook scripts => ({ r with hook := some scripts }, .done, [])

/-- Carry out one task. -/
def perform (r : Rehearsal) : Task → Rehearsal × List Task
  | .send link command => r.send link command
  | .hear link notice => r.hear link notice
  | .conclude verdict => r.conclude verdict
  | .nextStatement => r.runHook
  | .instruct instruction =>
    let (r, answer, tasks) := r.instruct instruction
    (r, tasks ++ [.note (.hook answer)])
  | .note observation => (r.observe observation, [])

end Rehearsal

end AtomicCommit
