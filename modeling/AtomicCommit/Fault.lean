import AtomicCommit.Text.Utf8

/-!
# What can go wrong

A `Fault` is a failure as its receiver sees it: a kind, and under the kinds that this library
raises itself, the cause. `Fault.message` is the only place that words them.
-/

namespace AtomicCommit

/-- The code under which this library reports its own failures to a client. -/
def unknownErrorCode : UInt16 := 1105

/-- The code of a backend that does not know the branch it is asked about. -/
def unknownBranchCode : UInt16 := 1397

/-- An ERR packet as a backend words it. -/
structure ServerError where
  code : UInt16
  sqlState : Option String := none
  message : String
  deriving DecidableEq, Repr

/-- The message with its codes. -/
def ServerError.display (e : ServerError) : String :=
  match e.sqlState with
  | some state => s!"{e.message} (errno {e.code}, SQLSTATE {state})"
  | none => s!"{e.message} (errno {e.code})"

/-! ## Malformed bytes -/

/-- Upper-case hexadecimal digits of a byte, two of them. -/
def hexByte (b : UInt8) : String :=
  String.ofList [(Nat.digitChar (b.toNat / 16)).toUpper, (Nat.digitChar (b.toNat % 16)).toUpper]

/-- Why bytes from a peer are not what the protocol allows. -/
inductive ProtocolError where
  /-- Fewer bytes than a packet header. -/
  | truncatedHeader (available : Nat)
  /-- No byte where a one-byte integer is due. -/
  | missingByte
  /-- An integer of `width` bytes is cut short. -/
  | truncatedInteger (width available : Nat)
  /-- A first byte that starts no length-encoded integer. -/
  | reservedLength (lead : UInt8)
  /-- A run of bytes is cut short. -/
  | truncatedBytes (wanted available : Nat)
  /-- A packet of another kind than `wanted`. -/
  | wrongKind (wanted : String) (lead : UInt8)
  /-- A backend asks for a local file. -/
  | localFileRequest
  /-- A result set announces no columns. -/
  | noColumns
  /-- A reply without a first byte. -/
  | emptyReply
  /-- Column definitions that no EOF packet ends. -/
  | unendedColumns
  /-- A packet announces more than the limit. -/
  | oversized (length limit : Nat)
  /-- Worded by someone else. -/
  | other (text : String)
  deriving DecidableEq, Repr

/-- The wording of a protocol error. -/
def ProtocolError.message : ProtocolError → String
  | .truncatedHeader available => s!"packet header cut short: {available} < 4"
  | .missingByte => "read_u8: empty buffer"
  | .truncatedInteger width available =>
    s!"read_u{8 * width}_le: buffer too short: {available} < {width}"
  | .reservedLength lead => "read_lenenc_int: invalid prefix 0x" ++ hexByte lead
  | .truncatedBytes wanted available => s!"read_bytes: buffer too short: {available} < {wanted}"
  | .wrongKind wanted lead => s!"Expected {wanted} packet, got header 0x" ++ hexByte lead
  | .localFileRequest => "Unexpected LOCAL INFILE request"
  | .noColumns => "Result set with zero columns"
  | .emptyReply => "Empty packet"
  | .unendedColumns => "Expected EOF after column definitions"
  | .oversized length limit => s!"packet of {length} bytes exceeds max_packet_size {limit}"
  | .other text => text

/-! ## Calls that a state does not allow -/

/-- Why a call is refused in the present state. -/
inductive StateError where
  /-- A new cohort while the last one still waits. -/
  | cohortOpen (pending : Nat)
  /-- A new operation, entered at stage `asked`, while one is at stage `current`. -/
  | inFlight (asked current : String)
  /-- Nothing to interrupt. -/
  | nothingInFlight
  /-- The session is no more. -/
  | sessionGone
  /-- Worded by someone else. -/
  | other (text : String)
  deriving DecidableEq, Repr

/-- The wording of a state error. -/
def StateError.message : StateError → String
  | .cohortOpen pending => s!"cohort still open with {pending} pending participant(s)"
  | .inFlight asked current => s!"cannot begin {asked} while {current} is in flight"
  | .nothingInFlight => "no coordinated operation in flight"
  | .sessionGone => "session is gone"
  | .other text => text

/-! ## Arguments that make no sense -/

/-- Why arguments are refused. -/
inductive UsageError where
  /-- An XA command without a transaction id. -/
  | missingXid (keyword : String)
  /-- No host to connect to. -/
  | emptyHost
  /-- An option whose value does not read. -/
  | badOption (key value : String)
  /-- A read chunk of no bytes. -/
  | emptyChunk
  /-- A URL of another scheme. -/
  | wrongScheme (scheme : String)
  /-- Text that is no URL. -/
  | badUrl (reason : String)
  /-- Worded by someone else. -/
  | other (text : String)
  deriving DecidableEq, Repr

/-- The wording of a usage error. -/
def UsageError.message : UsageError → String
  | .missingXid keyword => s!"{keyword} requires an xid"
  | .emptyHost => "host is empty"
  | .badOption key value => s!"Invalid {key}: {value}"
  | .emptyChunk => "read_buffer_chunk must be positive"
  | .wrongScheme scheme => s!"Invalid scheme: expected 'mysql://', got '{scheme}://'"
  | .badUrl reason => s!"Invalid URL: {reason}"
  | .other text => text

/-! ## Faults -/

/-- A failure of a call, of a link or of a backend. -/
inductive Fault where
  /-- A backend answered with an ERR packet. -/
  | server (error : ServerError)
  /-- A peer sent bytes that the protocol does not allow. -/
  | protocol (cause : ProtocolError)
  /-- Reading or writing failed. -/
  | io (text : String)
  /-- The link is closed and carries nothing more. -/
  | connectionClosed (text : String)
  /-- The call does not fit the present state. -/
  | invalidState (cause : StateError)
  /-- The arguments make no sense. -/
  | invalidUsage (cause : UsageError)
  /-- The transaction was interrupted. -/
  | interrupted (reason : String)
  deriving DecidableEq, Repr

namespace Fault

/-- The full wording, with the kind in front. -/
def message : Fault → String
  | .server error => "MySQL error: " ++ error.display
  | .protocol cause => "Protocol error: " ++ cause.message
  | .io text => "I/O error: " ++ text
  | .connectionClosed text => "Connection closed: " ++ text
  | .invalidState cause => "Invalid state: " ++ cause.message
  | .invalidUsage cause => "Invalid usage: " ++ cause.message
  | .interrupted reason => "Interrupted: " ++ reason

/-- Whether the link behind the fault is beyond use. -/
def breaksLink : Fault → Bool
  | .io _ | .connectionClosed _ => true
  | _ => false

/-- The code of a backend's own error. -/
def code? : Fault → Option UInt16
  | .server error => some error.code
  | _ => none

end Fault

end AtomicCommit
