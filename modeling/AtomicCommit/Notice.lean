import AtomicCommit.Coordinator
import AtomicCommit.Wire.Reply

/-!
# Notices

A notice is what the link to a backend says to whoever listens there: what a frame means at its
place in the reply, or that the link is gone. A listener is told of each row and each end of a
result set; to the coordinator, which sends no queries, only the end of the column definitions
says anything.
-/

namespace AtomicCommit

open Wire

/-- What the link to a backend says. -/
inductive Notice where
  | ok (frame : Bytes)
  | error (error : ServerError)
  | closed (reason : String)
  /-- The link could not be made, or carried what the protocol does not allow. -/
  | connectError (fault : Fault)
  | columnsEnd (frame : Bytes)
  | row (frame : Bytes)
  | rowsEnd (frame : Bytes)
  deriving DecidableEq, Repr

/-- Tell what a frame means, and where it leaves the reply. -/
def Wire.Reply.State.hear (s : Reply.State) (frame : Bytes) :
    Reply.State × Except ProtocolError Reply.Event :=
  match Packet.parse frame with
  | .ok packet => s.step packet
  | .error cause => (s, .error cause)

namespace Notice

/-- What a frame with this meaning says. The start of a result set and its columns say nothing. -/
def ofFrame? (frame : Bytes) : Except ProtocolError Reply.Event → Option Notice
  | .ok .ok => some (.ok frame)
  | .ok (.error e) => some (.error e)
  | .ok (.resultSet _) | .ok .column => none
  | .ok .columnsEnd => some (.columnsEnd frame)
  | .ok .row => some (.row frame)
  | .ok .rowsEnd => some (.rowsEnd frame)
  | .error cause => some (.connectError (.protocol cause))

/-- Whether this is part of a result set. -/
def isResultSet : Notice → Bool
  | .columnsEnd _ | .row _ | .rowsEnd _ => true
  | _ => false

/-- What the coordinator makes of a notice. -/
def event? (link : Link) : Notice → Option Event
  | .ok frame => some (.ok link.id frame)
  | .error e => some (.error link.id (some e.code) e.message)
  | .closed reason => some (.closed link reason)
  | .connectError fault => some (.connectError (some link.id) fault)
  | .columnsEnd _ => some (.resultSet link.id)
  | .row _ | .rowsEnd _ => none

end Notice

end AtomicCommit
