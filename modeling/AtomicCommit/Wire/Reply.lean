import AtomicCommit.Wire.Packet

/-!
# Replies

A transaction control command is answered by an OK or an ERR packet. Anything else is a result
set: a column count, that many column definitions, EOF, rows, EOF. `Reply.step` tells what one
packet means and where in a reply it leaves the link. An ERR packet ends a reply anywhere.
-/

namespace AtomicCommit.Wire.Reply

/-- Where in a reply a link is. -/
inductive State where
  /-- Between replies. -/
  | idle
  /-- So many column definitions are still to come. -/
  | columns (remaining : Nat)
  /-- The EOF behind the column definitions is due. -/
  | columnsEnd
  /-- Rows, or the EOF behind them. -/
  | rows
  deriving DecidableEq, Repr

/-- What one packet means. -/
inductive Event where
  | ok
  | error (error : ServerError)
  /-- A result set with so many columns starts. -/
  | resultSet (columns : Nat)
  | column
  | columnsEnd
  | row
  | rowsEnd
  deriving DecidableEq, Repr

namespace State

/-- Whether the next packet starts a reply. -/
def isIdle (s : State) : Bool :=
  s == .idle

/-- Read the first packet of a reply. -/
def start (packet : Packet) : State × Except ProtocolError Event :=
  match packet.lead? with
  | none => (.idle, .error .emptyReply)
  | some lead =>
    if lead = okLead then (.idle, .ok .ok)
    else if lead = localFileLead then (.idle, .error .localFileRequest)
    else
      match readLenenc packet.payload with
      | .error e => (.idle, .error e)
      | .ok (0, _) => (.idle, .error .noColumns)
      | .ok (count, _) => (.columns count, .ok (.resultSet count))

/-- Tell what the next packet means. A packet that means nothing leaves the link where it is. -/
def step (s : State) (packet : Packet) : State × Except ProtocolError Event :=
  if packet.isError then
    (.idle, (ServerError.parse packet.payload).map .error)
  else
    match s with
    | .idle => start packet
    | .columns remaining =>
      (if remaining ≤ 1 then .columnsEnd else .columns (remaining - 1), .ok .column)
    | .columnsEnd =>
      if packet.isEof then (.rows, .ok .columnsEnd) else (.columnsEnd, .error .unendedColumns)
    | .rows =>
      if packet.isEof then (.idle, .ok .rowsEnd) else (.rows, .ok .row)

end State

end AtomicCommit.Wire.Reply
