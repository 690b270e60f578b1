import AtomicCommit.Fault
import AtomicCommit.Transport.Intake
import AtomicCommit.Transport.Peer

/-!
# Connections

A connection is one stream with tasks that read it and tasks that write what was queued for it.
They come in crews of two, a reading and a writing one, and crews are numbered by their start.

A connection is closed when it has a reason for that, and the first reason stays. A close stops
one task of each kind of wait, the one that waits longest, and the others notice it when they look
again. On the way out each task still has one thing to do, so `leaving` stands between the decision
to stop and the end.
-/

namespace AtomicCommit.Transport

/-- A reading task. -/
inductive Reader where
  /-- Started, without a buffer yet. -/
  | starting
  /-- About to read. -/
  | reading (buffer : Buffer)
  /-- Waits for the peer. -/
  | waiting (buffer : Buffer)
  /-- Told to stop while it waited. -/
  | stopping (buffer : Buffer)
  /-- Stopped, with its buffer still to be returned. -/
  | leaving (buffer : Buffer)
  | finished
  deriving DecidableEq, Repr

/-- A writing task. -/
inductive Writer where
  /-- Has no chunk in hand. -/
  | idle
  /-- Has a chunk in hand of which so many bytes went out. -/
  | sending (chunk : Buffer) (sent : Nat)
  /-- Told to stop with a chunk in hand. -/
  | stopping (chunk : Buffer)
  /-- Stopped, with the stream still to be shut down. -/
  | leaving
  | finished
  deriving DecidableEq, Repr

/-- One of the two tasks of a crew. -/
structure Worker where
  crew : Nat
  /-- Whether it is the reading task. -/
  reads : Bool
  deriving DecidableEq, Repr

/-- One stream and what moves its bytes. -/
structure Connection where
  /-- Unique within the hub. -/
  id : Nat
  host : String
  port : UInt16
  /-- The longest payload that is read. -/
  maxPacketSize : Nat
  /-- Whether a larger read buffer is given up as soon as a chunk will do, or never. -/
  shrinks : Bool
  closeReason : Option String := none
  /-- The handle of the service that takes the frames. -/
  service : Option Nat := none
  /-- Chunks to be written. -/
  queue : List Buffer := []
  /-- The reading tasks by crew. -/
  readers : List Reader := []
  /-- The writing tasks by crew. -/
  writers : List Writer := []
  /-- Crews whose reading task waits, in the order in which a close stops them. -/
  waiting : List Nat := []
  /-- Crews whose writing task waits for chunks, in the order in which these are given out. -/
  idle : List Nat := []
  /-- Crews whose writing task waits for the peer, in the order in which it takes from them. -/
  blocked : List Nat := []
  /-- The same crews in the order in which a close stops them. -/
  stuck : List Nat := []
  /-- Bytes read. -/
  inBytes : UInt64 := 0
  /-- Bytes of chunks written completely. -/
  outBytes : UInt64 := 0
  peer : Peer := {}
  deriving DecidableEq, Repr

namespace Connection

def isClosed (c : Connection) : Bool :=
  c.closeReason.isSome

def closedFault (c : Connection) : Fault :=
  .connectionClosed s!"connection {c.id} to {c.host}:{c.port} is closed"

/-- Whether a task was started and has not ended. -/
def isManned (c : Connection) : Bool :=
  c.readers.any (· != .finished) || c.writers.any (· != .finished)

/-! ## Crews -/

def addCrew (c : Connection) : Connection :=
  { c with readers := c.readers ++ [.starting], writers := c.writers ++ [.idle] }

/-- Put a crew at the end of a line, unless it stands there. -/
def queueUp (line : List Nat) (crew : Nat) : List Nat :=
  if line.contains crew then line else line ++ [crew]

/-! ## Changes of tasks -/

/-- Let a reading task go on. -/
def setReader (c : Connection) (crew : Nat) (reader : Reader) : Connection :=
  { c with
    readers := c.readers.modify crew fun _ => reader
    waiting := c.waiting.erase crew }

/-- Let a reading task wait. One that waits and is only woken in vain keeps its place. -/
def await (c : Connection) (crew : Nat) (buffer : Buffer) : Connection :=
  { c with
    readers := c.readers.modify crew fun _ => .waiting buffer
    waiting := queueUp c.waiting crew }

/-- Let a writing task go on. -/
def setWriter (c : Connection) (crew : Nat) (writer : Writer) : Connection :=
  { c with
    writers := c.writers.modify crew fun _ => writer
    blocked := c.blocked.erase crew
    stuck := c.stuck.erase crew }

/-- Let a writing task wait for the peer. The peer comes to it after all others, but for a close it
keeps the place that it took with its chunk. -/
def block (c : Connection) (crew : Nat) (chunk : Buffer) (sent : Nat) : Connection :=
  { c with
    writers := c.writers.modify crew fun _ => .sending chunk sent
    blocked := c.blocked.erase crew ++ [crew]
    stuck := queueUp c.stuck crew }

/-- Let a writing task wait for chunks. -/
def rest (c : Connection) (crew : Nat) : Connection :=
  { c with idle := queueUp c.idle crew }

/-- The tasks that a peer's act concerns, in the order in which it wakes them. -/
def concernedBy (c : Connection) (act : Peer.Act) : List Worker :=
  if act.isInbound then (List.range c.readers.length).map (⟨·, true⟩)
  else c.blocked.map (⟨·, false⟩)

/-! ## Stops -/

/-- A reading task that is told to stop. -/
def stopReader : Reader → Reader
  | .waiting buffer => .stopping buffer
  | reader => reader

/-- A writing task that is told to stop. -/
def stopWriter : Writer → Writer
  | .sending chunk _ => .stopping chunk
  | writer => writer

/-- The tasks that a close stops or wakes: of each line the first. -/
def calledOff (c : Connection) : List Worker :=
  (c.waiting.take 1).map (⟨·, true⟩) ++ (c.stuck.take 1 ++ c.idle.take 1).map (⟨·, false⟩)

/-- Close an open connection. What is queued is gone, and nobody is told of anything any more. -/
def close (c : Connection) (reason : String) : Connection :=
  let c := { c with queue := [], closeReason := some reason, service := none }
  let c := { c with idle := c.idle.drop 1 }
  let c := match c.waiting with
    | [] => c
    | crew :: waiting => { c with
      readers := c.readers.modify crew stopReader
      waiting := waiting }
  match c.stuck with
  | [] => c
  | crew :: stuck => { c with
    writers := c.writers.modify crew stopWriter
    blocked := c.blocked.erase crew
    stuck := stuck }

end Connection

end AtomicCommit.Transport
