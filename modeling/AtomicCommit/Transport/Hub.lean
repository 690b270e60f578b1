import AtomicCommit.Transport.Connection

/-!
# Hubs

A hub owns a group of connections: the pool that they share, the register of those not closed,
and the counters over all of them. Every operation here is one atomic step on the hub. What has
to happen outside, telling a service or going on with a task, is returned.

The tasks of a connection take turns by `read` and `send`. A reading turn either waits, stops, or
brings frames for the service, after which `settle`, `shrink` and the next `read` follow. A
writing turn handles one chunk.
-/

namespace AtomicCommit.Transport

open Wire

/-- A group of connections. -/
structure Hub where
  name : String
  pool : Pool := {}
  /-- Every connection there ever was; its place is its id less one. -/
  connections : List Connection := []
  /-- The ids of the connections not closed. -/
  registered : List Nat := []
  /-- How many were closed. -/
  closedCount : UInt64 := 0
  inBytes : UInt64 := 0
  outBytes : UInt64 := 0
  deriving DecidableEq, Repr

namespace Hub

def update (h : Hub) (place : Nat) (f : Connection → Connection) : Hub :=
  { h with connections := h.connections.modify place f }

/-! ## Calls -/

/-- Register a new connection. -/
def «open» (h : Hub) (host : String) (port : UInt16) (maxPacketSize : Nat) (shrinks : Bool) :
    Hub :=
  let id := h.connections.length + 1
  let c : Connection := {
    id := id
    host := host
    port := port
    maxPacketSize := maxPacketSize
    shrinks := shrinks }
  { h with connections := h.connections ++ [c], registered := h.registered ++ [id] }

/-- Start a crew of tasks of a connection, and return its number. -/
def start (h : Hub) (place : Nat) : Hub × Nat :=
  match h.connections[place]? with
  | none => (h, 0)
  | some c => (h.update place Connection.addCrew, c.readers.length)

/-- Queue bytes for the peer. Returns the crew whose writing task is woken for them. -/
def write (h : Hub) (place : Nat) (data : Bytes) : Hub × Except Fault (Option Nat) :=
  match h.connections[place]? with
  | none => (h, .ok none)
  | some c =>
    if c.isClosed then (h, .error c.closedFault)
    else
      let (chunks, pool) := h.pool.pack data
      ({ h with pool := pool }.update place fun c =>
        { c with queue := c.queue ++ chunks, idle := c.idle.drop 1 }, .ok c.idle.head?)

/-- What a close does. -/
inductive Closing where
  /-- The connection was closed before. -/
  | again
  /-- It closes now: this service is to be told, and these tasks are woken. -/
  | first (service : Option Nat) (woken : List Worker)
  deriving DecidableEq, Repr

/-- Close a connection. The first close gives the reason, removes the connection from the
register and lets go of its service; every close returns what is queued to the pool. -/
def close (h : Hub) (place : Nat) (reason : String) : Hub × Closing :=
  match h.connections[place]? with
  | none => (h, .again)
  | some c =>
    -- a closed connection queues nothing, so a later close finds nothing to return
    let h := { h with pool := h.pool.recycleAll c.queue }
    if c.isClosed then (h.update place fun c => { c with queue := [] }, .again)
    else
      let known := h.registered.contains c.id
      let h := { h with
        registered := h.registered.erase c.id
        closedCount := if known then h.closedCount + 1 else h.closedCount }
      (h.update place (Connection.close · reason), .first c.service c.calledOff)

/-! ## Reading -/

/-- What a reading turn comes to. -/
inductive Turn where
  | wait
  /-- The connection is closed. -/
  | leave
  /-- The stream is over, and the connection is to be closed for this reason. -/
  | fail (reason : String)
  /-- Frames for the service, and what is behind them. -/
  | frames (service : Option Nat) (split : Split)
  deriving DecidableEq, Repr

/-- Read into a buffer that has room. -/
def readInto (h : Hub) (place crew : Nat) (c : Connection) (buffer : Buffer) : Hub × Turn :=
  let (peer, reading) := c.peer.read buffer.free
  match reading with
  | .blocked => (h.update place (Connection.await · crew buffer), .wait)
  | .ended =>
    (h.update place (Connection.setReader · crew (.leaving buffer)), .fail "stream closed")
  | .failed text =>
    (h.update place fun c => { c.setReader crew (.leaving buffer) with peer := peer },
      .fail ("read error: " ++ text))
  | .bytes data =>
    let buffer := Intake.receive buffer data
    let count := data.length.toUInt64
    ({ h with inBytes := h.inBytes + count }.update place fun c =>
      { c.setReader crew (.reading buffer) with peer := peer, inBytes := c.inBytes + count },
      .frames c.service (Split.ofBytes c.maxPacketSize buffer.readable))

/-- What a reading task does with a buffer in hand. -/
def readOn (h : Hub) (place crew : Nat) (c : Connection) (buffer : Buffer) : Hub × Turn :=
  if c.isClosed then (h.update place (Connection.setReader · crew (.leaving buffer)), .leave)
  else
    -- a buffer with room makes a read of nothing the end of the stream
    let (buffer, pool) := Intake.makeRoom h.pool buffer
    { h with pool := pool }.readInto place crew c buffer

/-- One turn of a reading task. -/
def read (h : Hub) (place crew : Nat) : Hub × Turn :=
  match h.connections[place]? with
  | none => (h, .wait)
  | some c =>
    match c.readers[crew]? with
    | some .starting =>
      let (buffer, pool) := h.pool.allocateChunk
      { h with pool := pool }.readOn place crew c buffer
    | some (.reading buffer) => h.readOn place crew c buffer
    -- a task that waits tries once more even if the connection is closed
    | some (.waiting buffer) => h.readInto place crew c buffer
    | some (.stopping buffer) =>
      (h.update place (Connection.setReader · crew (.leaving buffer)), .leave)
    | _ => (h, .wait)

/-- What an announced payload over the limit closes a connection for. -/
def oversizedReason (length limit : Nat) : String :=
  (Fault.protocol (.oversized length limit)).message

/-- Go on behind the frames of a turn: keep the rest, or stop for a reason. -/
def settle (h : Hub) (place crew : Nat) (split : Split) : Hub × Option String :=
  match h.connections[place]? with
  | none => (h, none)
  | some c =>
    match c.readers[crew]? with
    | some (.reading buffer) =>
      let (buffer, pool) := Intake.keepRest h.pool buffer split
      let h := { h with pool := pool }
      match split.rest with
      | .oversized length =>
        (h.update place (Connection.setReader · crew (.leaving buffer)),
          some (oversizedReason length c.maxPacketSize))
      | _ => (h.update place (Connection.setReader · crew (.reading buffer)), none)
    | _ => (h, none)

/-- Give up a larger read buffer, if it is time to. -/
def shrink (h : Hub) (place crew : Nat) : Hub :=
  match h.connections[place]? with
  | none => h
  | some c =>
    match c.readers[crew]? with
    | some (.reading buffer) =>
      if c.shrinks then
        let (buffer, pool) := Intake.shrink h.pool buffer
        { h with pool := pool }.update place (Connection.setReader · crew (.reading buffer))
      else h
    | _ => h

/-- Return the buffer of a reading task that stopped. -/
def endReader (h : Hub) (place crew : Nat) : Hub :=
  match h.connections[place]? with
  | none => h
  | some c =>
    match c.readers[crew]? with
    | some (.leaving buffer) =>
      { h with pool := h.pool.recycle buffer }.update place
        (Connection.setReader · crew .finished)
    | _ => h

/-! ## Writing -/

/-- What a writing turn comes to. -/
inductive Progress where
  | wait
  /-- Another turn follows at once. -/
  | again
  /-- The connection is closed. -/
  | leave
  /-- The stream is broken, and the connection is to be closed for this reason. -/
  | fail (reason : String)
  deriving DecidableEq, Repr

/-- What a connection is closed for when writing fails. -/
def writeReason (text : String) : String :=
  "write error: " ++ text

/-- What a writing task does with a chunk in hand of which so many bytes went out. -/
def sendChunk (h : Hub) (place crew : Nat) (c : Connection) (chunk : Buffer) (sent : Nat) :
    Hub × Progress :=
  let (peer, result) := c.peer.write (chunk.readable.drop sent)
  let returned := { h with pool := h.pool.recycle chunk }
  match result with
  | .error text =>
    -- bytes of the chunk that went out before are not counted
    (returned.update place (Connection.setWriter · crew .leaving), .fail (writeReason text))
  | .ok n =>
    if chunk.length ≤ sent + n then
      let count := chunk.length.toUInt64
      ({ returned with outBytes := h.outBytes + count }.update place fun c =>
        { c.setWriter crew .idle with peer := peer, outBytes := c.outBytes + count }, .again)
    else
      (h.update place fun c => { c.block crew chunk (sent + n) with peer := peer }, .wait)

/-- One turn of a writing task. With nothing queued it flushes the stream. -/
def send (h : Hub) (place crew : Nat) : Hub × Progress :=
  match h.connections[place]? with
  | none => (h, .wait)
  | some c =>
    match c.writers[crew]?, c.queue with
    | some (.sending chunk sent), _ => h.sendChunk place crew c chunk sent
    | some (.stopping chunk), _ =>
      ({ h with pool := h.pool.recycle chunk }.update place
        (Connection.setWriter · crew .leaving), .leave)
    | some .idle, chunk :: queue =>
      (h.update place fun c => { c.setWriter crew (.sending chunk 0) with queue := queue },
        .again)
    | some .idle, [] =>
      match c.peer.flushError with
      | some text =>
        (h.update place (Connection.setWriter · crew .leaving), .fail (writeReason text))
      | none =>
        if c.isClosed then (h.update place (Connection.setWriter · crew .leaving), .leave)
        else (h.update place (Connection.rest · crew), .wait)
    | _, _ => (h, .wait)

/-- What the writing task closes its connection for at its end, if nothing did before. -/
def writerStopped : String := "writer stopped"

/-- Shut down the stream of a writing task that stopped. -/
def endWriter (h : Hub) (place crew : Nat) : Hub :=
  h.update place fun c =>
    if c.writers[crew]? = some .leaving then
      { c.setWriter crew .finished with peer.shutDown := true }
    else c

end Hub

end AtomicCommit.Transport
