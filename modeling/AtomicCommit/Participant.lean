import AtomicCommit.Text.Utf8

/-!
# Participants

A participant of a transaction is one shard, reached over one link. The shard's name identifies
it within a session, and is the qualifier of its branch. A `Link` is the backend object itself:
two links to the same shard share the name and differ in their handle.
-/

namespace AtomicCommit

/-- The name of a shard within a session. -/
structure ParticipantId where
  shard : String
  deriving DecidableEq, Repr

/-- Where a link points. -/
structure LinkInfo where
  host : String := ""
  port : UInt16 := 0
  schema : Option String := none
  threadId : UInt32 := 0
  deriving DecidableEq, Repr

/-- What is reported when a link closes while an answer is owed. -/
def LinkInfo.closedMessage (info : LinkInfo) (reason : String) : String :=
  "connection \x7bdbInstance[" ++ info.host ++ ":" ++ toString info.port ++ "],Schema["
    ++ info.schema.getD "" ++ "],threadID[" ++ toString info.threadId
    ++ "]\x7d was closed, reason is [" ++ reason ++ "]"

/-- One backend object. -/
structure Link where
  /-- Tells this object from any other, also one for the same shard. -/
  handle : Nat
  id : ParticipantId
  info : LinkInfo
  deriving DecidableEq, Repr

end AtomicCommit
