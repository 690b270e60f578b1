import AtomicCommit.Text.Utf8

/-!
# Peers

A peer is the far end of a stream, as a script plays it: the bytes that it sent and that are not
read yet, how the stream ends behind them, and how it takes bytes. An attempt to read or to write
that would have to wait says so and changes nothing.
-/

namespace AtomicCommit.Transport

/-- The far end of a stream. -/
structure Peer where
  /-- Bytes sent and not read yet. -/
  incoming : Bytes := []
  /-- What the next read behind them fails with. -/
  readError : Option String := none
  /-- Nothing follows. -/
  ended : Bool := false
  /-- How many more bytes it takes, if it does not take all. -/
  credit : Option Nat := none
  /-- What every write fails with. -/
  writeError : Option String := none
  /-- It takes no bytes and does not make the writer wait either. -/
  takesNothing : Bool := false
  /-- What every flush fails with. -/
  flushError : Option String := none
  /-- What each write got taken since the last report, latest first. -/
  accepted : List Bytes := []
  /-- The stream was shut down towards it. -/
  shutDown : Bool := false
  deriving DecidableEq, Repr

namespace Peer

/-! ## Reading -/

/-- What an attempt to read comes to. -/
inductive Reading where
  | blocked
  | ended
  | failed (text : String)
  /-- One byte at least. -/
  | bytes (data : Bytes)
  deriving DecidableEq, Repr

/-- Read at most `room` bytes. Without room, bytes that wait look like an end. -/
def read (p : Peer) (room : Nat) : Peer × Reading :=
  if p.incoming ≠ [] then
    if room = 0 then (p, .ended)
    else ({ p with incoming := p.incoming.drop room }, .bytes (p.incoming.take room))
  else
    match p.readError with
    | some text => ({ p with readError := none }, .failed text)
    | none => (p, if p.ended then .ended else .blocked)

/-! ## Writing -/

/-- What a write fails with that can never get on. -/
def stuckWrite : String := "write zero"

/-- Write as much as is taken: what went wrong, or how many bytes went out. Without bytes there is
no write. -/
def write (p : Peer) (data : Bytes) : Peer × Except String Nat :=
  if data = [] then (p, .ok 0)
  else
    match p.writeError with
    | some text => (p, .error text)
    | none =>
      if p.takesNothing then (p, .error stuckWrite)
      else
        let n := min (p.credit.getD data.length) data.length
        ({ p with
          credit := p.credit.map (· - n)
          accepted := data.take n :: p.accepted }, .ok n)

/-- The bytes taken since the last report. -/
def taken (p : Peer) : Bytes :=
  p.accepted.reverse.flatten

/-! ## Scripts -/

/-- What a script makes a peer do. -/
inductive Act where
  | send (data : Bytes)
  | finish
  | breakReading (text : String)
  /-- Take so many more bytes, or all. -/
  | take (credit : Option Nat)
  | breakWriting (text : String)
  | takeNothing
  | breakFlushing (text : String)
  deriving DecidableEq, Repr

/-- Whether an act concerns the bytes from the peer, and not those to it. -/
def Act.isInbound : Act → Bool
  | .send _ | .finish | .breakReading _ => true
  | _ => false

def act (p : Peer) : Act → Peer
  | .send data => { p with incoming := p.incoming ++ data }
  | .finish => { p with ended := true }
  | .breakReading text => { p with readError := some text }
  | .take credit => { p with credit := credit }
  | .breakWriting text => { p with writeError := some text }
  | .takeNothing => { p with takesNothing := true }
  | .breakFlushing text => { p with flushError := some text }

end Peer

end AtomicCommit.Transport
