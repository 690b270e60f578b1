import AtomicCommit.Participant
import AtomicCommit.Wire.Command

/-!
# Sessions

What a client session remembers between the packets of its client: the links bound to the current
transaction in the order of their first attachment, savepoints, whether the transaction runs as an
XA transaction, and the counters for packet sequence ids and transaction ids. Both counters are
machine words and wrap.
-/

namespace AtomicCommit

open Wire

/-- The transaction context of one client. -/
structure Session where
  id : UInt64
  /-- What the session's transaction ids start with. -/
  xidIssuer : String
  /-- The links bound to the current transaction. -/
  participants : List Link := []
  savepoints : List String := []
  /-- Sequence id of the last packet of the client's command. -/
  packetId : UInt8 := 0
  /-- Whether the current transaction is an XA transaction. -/
  xa : Bool := false
  /-- Transaction ids used so far. -/
  xaSequence : UInt64 := 0
  /-- Whether late replies are dropped quietly. -/
  discarding : Bool := false
  /-- Whether the session was torn down. -/
  closed : Bool := false
  /-- Whether the link to the client is closed. -/
  clientClosed : Bool := false
  /-- Whether a query of several statements is running. -/
  multiStatement : Bool := false
  /-- Why the last transaction was interrupted, if it was. -/
  interruptReason : Option String := none
  deriving DecidableEq, Repr

namespace Session

/-! ## Links -/

/-- Bind a link. It replaces a link to the same shard in place; on an empty list it starts a new
transaction, which ends discarding. -/
def attach (s : Session) (link : Link) : Session :=
  let s := if s.participants.isEmpty then { s with discarding := false } else s
  if s.participants.any (·.id == link.id) then
    { s with participants := s.participants.map fun p => if p.id == link.id then link else p }
  else { s with participants := s.participants ++ [link] }

def detach (s : Session) (id : ParticipantId) : Option Link × Session :=
  (s.participants.find? (·.id == id),
    { s with participants := s.participants.eraseP (·.id == id) })

def participantIds (s : Session) : List ParticipantId :=
  s.participants.map Link.id

/-- Release the links and savepoints of the transaction. -/
def clearTransaction (s : Session) : Session :=
  { s with participants := [], savepoints := [], xa := false }

/-! ## Counters -/

def nextPacketId (s : Session) : UInt8 × Session :=
  (s.packetId + 1, { s with packetId := s.packetId + 1 })

def nextXaSequence (s : Session) : UInt64 × Session :=
  (s.xaSequence + 1, { s with xaSequence := s.xaSequence + 1 })

def nextXid (s : Session) : Xid × Session :=
  let (sequence, s) := s.nextXaSequence
  (Xid.ofSession s.xidIssuer s.id sequence, s)

/-! ## Flags -/

/-- Drop late replies quietly from now on. -/
def markDiscarding (s : Session) : Session :=
  { s with discarding := true }

/-- Whether nothing reaches the client any more. -/
def isClosed (s : Session) : Bool :=
  s.closed || s.clientClosed

end Session

end AtomicCommit
