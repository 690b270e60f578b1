import AtomicCommit.Wire.Frame

/-!
# Transaction control commands

Commands travel as query text. A plain command is its keyword alone. An XA command names a
branch: the global id that all participants of the transaction share, and a qualifier of its own,
both as string literals.
-/

namespace AtomicCommit.Wire

/-! ## Command packets -/

/-- Starts a query. -/
def queryLead : UInt8 := 0x03

/-- Asks whether the server is alive. -/
def pingLead : UInt8 := 0x0E

/-- Append a query to a buffer. A command starts a new sequence. -/
def appendQuery (buffer : Bytes) (sql : String) : Bytes :=
  appendFrame buffer 0 [.u8 queryLead.toNat, .bytes (Text.encode sql)]

def appendPing (buffer : Bytes) : Bytes :=
  appendFrame buffer 0 [.u8 pingLead.toNat]

/-! ## Branches -/

/-- How a character is written inside a string literal. -/
def literalChar : Char → List Char
  | '\\' => ['\\', '\\']
  | '\'' => ['\'', '\'']
  | c => [c]

/-- A text as a string literal, where backslash and quote are written twice. -/
def literal (text : String) : String :=
  "'" ++ String.ofList (text.toList.flatMap literalChar) ++ "'"

structure Xid where
  global : String
  deriving DecidableEq, Repr

namespace Xid

/-- The id of transaction number `sequence` of a session. -/
def ofSession (issuer : String) (sessionId sequence : UInt64) : Xid :=
  ⟨s!"{issuer}.{sessionId}.{sequence}"⟩

/-- One branch as XA statements name it. -/
def branch (xid : Xid) (qualifier : String) : String :=
  literal xid.global ++ "," ++ literal qualifier

end Xid

/-! ## Commands -/

/-- What a participant is told to do. -/
inductive CommandKind where
  | commit
  | rollback
  | xaEnd
  | xaPrepare
  | xaCommit
  | xaRollback
  deriving DecidableEq, Repr

namespace CommandKind

/-- Whether the command names a branch. -/
def isXa : CommandKind → Bool
  | .commit | .rollback => false
  | _ => true

/-- How the statement starts. -/
def keyword : CommandKind → String
  | .commit => "COMMIT"
  | .rollback => "ROLLBACK"
  | .xaEnd => "XA END"
  | .xaPrepare => "XA PREPARE"
  | .xaCommit => "XA COMMIT"
  | .xaRollback => "XA ROLLBACK"

end CommandKind

/-- A command for one participant, as text. -/
structure Command where
  kind : CommandKind
  sql : String
  deriving DecidableEq, Repr

namespace Command

/-- Word a command for the participant whose branch qualifier this is. -/
def ofKind (kind : CommandKind) (xid : Option Xid) (qualifier : String) :
    Except UsageError Command :=
  if kind.isXa then
    match xid with
    | some xid => .ok ⟨kind, kind.keyword ++ " " ++ xid.branch qualifier⟩
    | none => .error (.missingXid kind.keyword)
  else .ok ⟨kind, kind.keyword⟩

def append (buffer : Bytes) (command : Command) : Bytes :=
  appendQuery buffer command.sql

end Command

end AtomicCommit.Wire
