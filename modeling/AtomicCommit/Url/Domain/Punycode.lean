/-!
# Labels in ASCII

A label with characters outside ASCII is written as its ASCII characters, a hyphen if there are
any, and numbers that say where the others go. The others are put in by ascending code, and the
numbers count the places and codes passed over since the last one. A number is written in digits
from `a` to `9` of which the last is told by its size, and how large it may be follows from the
numbers before.

All numbers are below 2^32, and a text that writes a larger one is refused.
-/

namespace AtomicCommit.Url.Punycode

/-! ## Digits -/

/-- The number of digits. -/
def base : Nat := 36

/-- The code of the first character outside ASCII. -/
def firstCode : Nat := 0x80

/-- The bias at the start. -/
def firstBias : Nat := 72

/-- What numbers stay below. -/
def limit : Nat := UInt32.size

/-- The value of a digit. -/
def digitValue? (c : Char) : Option Nat :=
  if c.isLower then some (c.toNat - 'a'.toNat)
  else if c.isDigit then some (c.toNat - '0'.toNat + 26)
  else none

def digit (value : Nat) : Char :=
  if value < 26 then Char.ofNat ('a'.toNat + value) else Char.ofNat ('0'.toNat + value - 26)

/-- What the digit at a place, counted in steps of `base`, has to stay below to be the last. -/
def threshold (bias place : Nat) : Nat :=
  min 26 (max 1 (place - bias))

theorem threshold_pos (bias place : Nat) : 0 < threshold bias place := by
  unfold threshold
  omega

/-- Scale a number down and count the steps. -/
def scale (steps delta : Nat) : Nat :=
  if 455 < delta then scale (steps + base) (delta / 35)
  else steps + 36 * delta / (delta + 38)
  termination_by delta
  decreasing_by exact Nat.div_lt_self (by omega) (by decide)

/-- The bias for the next number, where the last one put a character among `count`. -/
def adapt (delta count : Nat) (first : Bool) : Nat :=
  let delta := if first then delta / 700 else delta / 2
  scale 0 (delta + delta / count)

/-! ## Decoding -/

/-- Read one number onto `sum`, and return what is behind it. -/
def readNumber (bias place weight sum : Nat) : List Char → Option (Nat × List Char)
  | [] => none
  | c :: rest =>
    match digitValue? c with
    | none => none
    | some value =>
      let sum := sum + value * weight
      let last := threshold bias place
      if limit ≤ sum then none
      else if value < last then some (sum, rest)
      else if limit ≤ weight * (base - last) then none
      else readNumber bias (place + base) (weight * (base - last)) sum rest

theorem length_readNumber {bias place weight sum : Nat} {cs rest : List Char} {n : Nat}
    (h : readNumber bias place weight sum cs = some (n, rest)) : rest.length < cs.length := by
  induction cs generalizing place weight sum with
  | nil => simp [readNumber] at h
  | cons c cs ih =>
    unfold readNumber at h
    split at h
    · cases h
    · dsimp only at h
      split at h
      · cases h
      · split at h
        · simp only [Option.some.injEq, Prod.mk.injEq] at h
          simp [h.2]
        · split at h
          · cases h
          · exact Nat.lt_succ_of_lt (ih h)

/-- Put in the characters that the numbers stand for, from a code and a place on. -/
def putIn (text : List Char) (code place bias : Nat) (numbers : List Char) : Option (List Char) :=
  if numbers.isEmpty then some text
  else
    match _read : readNumber bias base 1 place numbers with
    | none => none
    | some (sum, rest) =>
      let count := text.length + 1
      let code := code + sum / count
      if code.isValidChar then
        putIn (text.insertIdx (sum % count) (Char.ofNat code)) code (sum % count + 1)
          (adapt (sum - place) count (place == 0)) rest
      else none
  termination_by numbers.length
  decreasing_by exact length_readNumber _read

/-- Decode a label in small letters. -/
def decode (label : List Char) : Option (List Char) :=
  let numbers := (label.reverse.takeWhile (· ≠ '-')).reverse
  let ascii := label.take (label.length - numbers.length - 1)
  -- with nothing in front of it a hyphen is no separator, and it is no digit either
  if ascii.isEmpty && numbers.length < label.length then none
  else putIn ascii firstCode 0 firstBias numbers

/-! ## Encoding -/

/-- The digits of a number. -/
def writeNumber (bias place n : Nat) : List Char :=
  let last := threshold bias place
  if n < last then [digit n]
  else digit (last + (n - last) % (base - last)) ::
    writeNumber bias (place + base) ((n - last) / (base - last))
  termination_by n
  decreasing_by
    have := threshold_pos bias place
    exact Nat.lt_of_le_of_lt (Nat.div_le_self ..) (by omega)

/-- The numbers written so far. -/
structure Encoder where
  /-- Latest number first. -/
  numbers : List (List Char) := []
  /-- Places and codes passed over since the last number. -/
  delta : Nat := 0
  bias : Nat := firstBias
  /-- How many characters are put in, the ASCII ones counted. -/
  count : Nat
  /-- No number was written yet. -/
  first : Bool := true

/-- Pass a character of the text by while those with this code are put in. -/
def Encoder.pass (code : Nat) (e : Encoder) (c : Char) : Encoder :=
  if c.toNat < code then { e with delta := e.delta + 1 }
  else if c.toNat = code then
    { numbers := writeNumber e.bias base e.delta :: e.numbers
      delta := 0
      bias := adapt e.delta (e.count + 1) e.first
      count := e.count + 1
      first := false }
  else e

/-- Put in the characters of one code, where those below `reached` are in. -/
def Encoder.putIn (text : List Char) (e : Encoder) (reached code : Nat) : Encoder :=
  let passed := { e with delta := e.delta + (code - reached) * (e.count + 1) }
  let e := text.foldl (Encoder.pass code) passed
  { e with delta := e.delta + 1 }

/-- Encode a label. -/
def encode (text : List Char) : List Char :=
  let ascii := text.filter (·.toNat < firstCode)
  let codes := (text.map Char.toNat).filter (firstCode ≤ ·)
  let (e, _) := (codes.mergeSort (· ≤ ·)).eraseReps.foldl
    (fun (e, reached) code => (e.putIn text reached code, code + 1))
    (({ count := ascii.length } : Encoder), firstCode)
  ascii ++ (if ascii.isEmpty then [] else ['-']) ++ e.numbers.reverse.flatten

end AtomicCommit.Url.Punycode
