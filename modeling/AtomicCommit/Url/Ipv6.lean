import AtomicCommit.Url.Percent

/-!
# IPv6 addresses

An address is eight pieces of two bytes in hexadecimal with colons between them. One gap `::` may
stand for a run of zeros, and the last two pieces may be four decimal numbers. It is written back
in its shortest form.
-/

namespace AtomicCommit.Url

/-! ## Reading -/

/-- The pieces of an address read so far. A gap stands for one piece or more; `gap` counts the
pieces up to it, itself counted as one. -/
structure Pieces where
  read : List Nat
  gap : Option Nat
  deriving DecidableEq, Repr

def hexDigitValue (c : Char) : Option Nat :=
  if c.toNat < 0x80 then (hexValue (UInt8.ofNat c.toNat)).map UInt8.toNat else none

/-- The number that digits of this base write. -/
def digitsValue (base : Nat) (digits : List Char) : Nat :=
  digits.foldl (fun n c => n * base + (hexDigitValue c).getD 0) 0

/-- A decimal number up to 255 without leading zeros. -/
def readOctet (digits : List Char) : Option Nat :=
  if digits.all Char.isDigit && (digits.head? != some '0' || digits.length == 1)
      && 0 < digits.length && digits.length ≤ 3 && digitsValue 10 digits ≤ 255 then
    some (digitsValue 10 digits)
  else none

/-- The parts of a text between dots; `part` is the one being read, latest character first. -/
def splitDots (part : List Char) : List Char → List (List Char)
  | [] => [part.reverse]
  | '.' :: rest => part.reverse :: splitDots [] rest
  | c :: rest => splitDots (c :: part) rest

/-- The two pieces that four decimal numbers with dots between them stand for. -/
def readDotted (cs : List Char) : Option (List Nat) :=
  match (splitDots [] cs).map readOctet with
  | [some a, some b, some c, some d] => some [a * 256 + b, c * 256 + d]
  | _ => none

/-- Read the rest of an address that has room for so many pieces. -/
def readPieces : (room : Nat) → Pieces → List Char → Option Pieces
  | _, pieces, [] => some pieces
  | 0, _, _ :: _ => none
  | room + 1, pieces, c :: cs =>
    if c = ':' then
      if pieces.gap.isSome then none
      else readPieces room ⟨pieces.read ++ [0], some (pieces.read.length + 1)⟩ cs
    else
      let digits := ((c :: cs).take 4).takeWhile fun c => (hexDigitValue c).isSome
      let grown := { pieces with read := pieces.read ++ [digitsValue 16 digits] }
      match (c :: cs).drop digits.length with
      | [] => some grown
      | ':' :: rest => if rest.isEmpty then none else readPieces room grown rest
      | '.' :: _ =>
        if digits.isEmpty || room = 0 then none
        else (readDotted (c :: cs)).map fun last => { pieces with read := pieces.read ++ last }
      | _ => none

/-- The eight pieces of an address, with the gap filled up. -/
def Pieces.fill (p : Pieces) : Option (List Nat) :=
  match p.gap with
  | some gap =>
    some (p.read.take gap ++ List.replicate (8 - p.read.length) 0 ++ p.read.drop gap)
  | none => if p.read.length = 8 then some p.read else none

/-- Read an address. -/
def readIpv6 : List Char → Option (List Nat)
  | ':' :: ':' :: rest => (readPieces 7 ⟨[0], some 1⟩ rest).bind Pieces.fill
  | ':' :: _ => none
  | c :: d :: rest => (readPieces 8 ⟨[], none⟩ (c :: d :: rest)).bind Pieces.fill
  | _ => none

/-! ## Writing -/

/-- The first longest run of zeros from place `at_` on, as a start and a length; `best` is the
longest so far and `run` the zeros directly in front. -/
def longestZeros (best : Nat × Nat) (run : Nat) (place : Nat) : List Nat → Nat × Nat
  | [] => if best.2 < run then (place - run, run) else best
  | 0 :: rest => longestZeros best (run + 1) (place + 1) rest
  | _ :: rest =>
    longestZeros (if best.2 < run then (place - run, run) else best) 0 (place + 1) rest

/-- Pieces in hexadecimal with colons between them. -/
def joinPieces (pieces : List Nat) : String :=
  String.intercalate ":" (pieces.map fun n => String.ofList (Nat.toDigits 16 n))

/-- An address in its shortest form: the first longest run of two zeros or more is left out. -/
def writeIpv6 (pieces : List Nat) : String :=
  let (start, length) := longestZeros (0, 0) 0 0 pieces
  if length < 2 then joinPieces pieces
  else joinPieces (pieces.take start) ++ "::" ++ joinPieces (pieces.drop (start + length))

end AtomicCommit.Url
