import AtomicCommit.Url.Domain

/-!
# IPv4 addresses

A domain name whose last label is a number stands for an address, and then has to be one: up to
four numbers, the last of which fills all bytes that the others leave. A number is decimal,
hexadecimal behind `0x` or octal behind another leading zero.
-/

namespace AtomicCommit.Url

/-- What one at a place of an address counts. Places are bytes, the lowest first. -/
def placeValue : (place : Nat) → Nat
  | 0 => 1
  | place + 1 => 256 * placeValue place

/-- One more than the largest address. -/
def addressBound : Nat := placeValue 4

/-- The number that digits of a base write, if that is what they are. A number that no address has
room for counts as `addressBound`. -/
def readDigits (base : Nat) (digits : List Char) : Option Nat :=
  digits.foldlM (fun n c =>
    let value :=
      if c.isDigit then c.toNat - '0'.toNat
      else if c.isLower then c.toNat - 'a'.toNat + 10
      else base
    if value < base then some (min (n * base + value) addressBound) else none) 0

/-- Read a number in small letters. -/
def readNumber : List Char → Option Nat
  | [] => none
  | '0' :: 'x' :: digits => readDigits 16 digits
  | '0' :: c :: digits => readDigits 8 (c :: digits)
  | digits => readDigits 10 digits

/-- The labels that count: a point at the end has nothing behind it. -/
def countedLabels (name : List Char) : List (List Char) :=
  match (labels name).reverse with
  | [] :: label :: before => (label :: before).reverse
  | reversed => reversed.reverse

/-- Whether a name has to be an address. -/
def endsInNumber (name : List Char) : Bool :=
  match (countedLabels name).getLast? with
  | none => false
  | some label => (!label.isEmpty && label.all Char.isDigit) || (readNumber label).isSome

/-- Read the address that a name stands for. -/
def readIpv4 (name : List Char) : Option Nat := do
  let numbers ← (countedLabels name).mapM readNumber
  let last ← numbers.getLast?
  let bytes := numbers.dropLast
  if 4 < numbers.length || bytes.any (255 < ·) || placeValue (4 - bytes.length) ≤ last then none
  else
    some (bytes.foldl (fun n byte => n * 256 + byte) 0 * placeValue (4 - bytes.length) + last)

def writeIpv4 (address : Nat) : String :=
  String.intercalate "." <|
    [3, 2, 1, 0].map fun place => toString (address / placeValue place % 256)

end AtomicCommit.Url
