import AtomicCommit.Wire.Frame

/-!
# Packets

A `Packet` is a frame taken apart. Its first payload byte tells the generic responses apart: OK,
ERR, and EOF, which is also required to be short because the same byte starts a row that is not.
`OkPacket` and `ServerError` are the contents of the first two, each with a reader and a writer.
-/

namespace AtomicCommit.Wire

/-! ## First bytes -/

def okLead : UInt8 := 0x00

/-- Starts a request for a local file. -/
def localFileLead : UInt8 := 0xFB

def eofLead : UInt8 := 0xFE

def errLead : UInt8 := 0xFF

/-- An EOF payload is shorter than this. -/
def eofLimit : Nat := 9

/-- A frame taken apart. -/
structure Packet where
  sequenceId : UInt8
  payload : Bytes
  deriving DecidableEq, Repr

namespace Packet

/-- Take a frame apart. Bytes behind the announced payload are left out. -/
def parse (frame : Bytes) : Except ProtocolError Packet := do
  let header ← Header.parse frame
  let (payload, _) ← readBytes header.payloadLength (frame.drop headerSize)
  .ok ⟨header.sequenceId, payload⟩

/-- The byte that tells what kind of packet this is. -/
def lead? (p : Packet) : Option UInt8 :=
  p.payload.head?

def isOk (p : Packet) : Bool :=
  p.lead? == some okLead

def isError (p : Packet) : Bool :=
  p.lead? == some errLead

def isEof (p : Packet) : Bool :=
  p.lead? == some eofLead && p.payload.length < eofLimit

end Packet

/-! ## OK -/

/-- The status flag of a session in autocommit mode. -/
def autocommitFlag : UInt16 := 0x0002

/-- The contents of an OK packet. -/
structure OkPacket where
  affectedRows : UInt64 := 0
  lastInsertId : UInt64 := 0
  statusFlags : UInt16 := 0
  warnings : UInt16 := 0
  info : String := ""
  deriving DecidableEq, Repr

namespace OkPacket

/-- Read an OK payload. The lead byte of EOF is accepted as well. -/
def parse (payload : Bytes) : Except ProtocolError OkPacket := do
  let (lead, rest) ← readByte payload
  if lead ≠ okLead ∧ lead ≠ eofLead then
    .error (.wrongKind "OK" lead)
  else
    let (affectedRows, rest) ← readLenenc rest
    let (lastInsertId, rest) ← readLenenc rest
    let (statusFlags, rest) ← readInt 2 rest
    let (warnings, rest) ← readInt 2 rest
    .ok {
      affectedRows := UInt64.ofNat affectedRows
      lastInsertId := UInt64.ofNat lastInsertId
      statusFlags := UInt16.ofNat statusFlags
      warnings := UInt16.ofNat warnings
      info := Text.decode rest }

def fields (ok : OkPacket) : List Field :=
  [.u8 okLead.toNat, .lenenc ok.affectedRows.toNat, .lenenc ok.lastInsertId.toNat,
    .u16 ok.statusFlags.toNat, .u16 ok.warnings.toNat, .bytes (Text.encode ok.info)]

def append (buffer : Bytes) (sequenceId : UInt8) (ok : OkPacket) : Bytes :=
  appendFrame buffer sequenceId ok.fields

end OkPacket

/-! ## ERR -/

/-- Announces the state of an ERR packet. -/
def stateMarker : UInt8 := 0x23

def stateSize : Nat := 5

/-- The state of an error that names none. -/
def generalState : String := "HY000"

/-- The bytes of a state, cut or filled up with `0` to five. -/
def stateBytes (state : String) : Bytes :=
  let bytes := (Text.encode state).take stateSize
  bytes ++ List.replicate (stateSize - bytes.length) 0x30

end AtomicCommit.Wire

namespace AtomicCommit.ServerError

open Wire

/-- Read an ERR payload. A marker that fewer than five bytes follow is part of the message. -/
def parse (payload : Bytes) : Except ProtocolError ServerError := do
  let (lead, rest) ← readByte payload
  if lead ≠ errLead then
    .error (.wrongKind "ERR" lead)
  else
    let (code, rest) ← readInt 2 rest
    let code := UInt16.ofNat code
    if rest.head? = some stateMarker ∧ stateSize < rest.length then
      let rest := rest.drop 1
      .ok ⟨code, some (Text.decode (rest.take stateSize)), Text.decode (rest.drop stateSize)⟩
    else
      .ok ⟨code, none, Text.decode rest⟩

def fields (e : ServerError) : List Field :=
  [.u8 errLead.toNat, .u16 e.code.toNat, .u8 stateMarker.toNat,
    .bytes (stateBytes (e.sqlState.getD generalState)), .bytes (Text.encode e.message)]

def append (buffer : Bytes) (sequenceId : UInt8) (e : ServerError) : Bytes :=
  appendFrame buffer sequenceId e.fields

end AtomicCommit.ServerError
