import AtomicCommit.Fault

/-!
# Integers on the wire

Fixed-width integers are little-endian. A length-encoded integer takes one byte up to 250 and
otherwise a lead byte that says how many bytes follow. Values are natural numbers: a writer keeps
the low bytes of what it is given.
-/

namespace AtomicCommit.Wire

/-! ## Fixed width -/

/-- The `width` lowest bytes of a number, lowest first. -/
def writeInt : (width : Nat) → Nat → Bytes
  | 0, _ => []
  | width + 1, n => UInt8.ofNat n :: writeInt width (n / 256)

/-- The number whose bytes these are, lowest first. -/
def intOf : Bytes → Nat
  | [] => 0
  | b :: bs => b.toNat + 256 * intOf bs

def readByte : Bytes → Except ProtocolError (UInt8 × Bytes)
  | [] => .error .missingByte
  | b :: rest => .ok (b, rest)

/-- Take an integer of `width` bytes off the front. -/
def readInt (width : Nat) (data : Bytes) : Except ProtocolError (Nat × Bytes) :=
  if data.length < width then .error (.truncatedInteger width data.length)
  else .ok (intOf (data.take width), data.drop width)

def readBytes (count : Nat) (data : Bytes) : Except ProtocolError (Bytes × Bytes) :=
  if data.length < count then .error (.truncatedBytes count data.length)
  else .ok (data.take count, data.drop count)

/-! ## Length-encoded -/

/-- The shortest length-encoded form of a number below `2 ^ 64`. -/
def writeLenenc (n : Nat) : Bytes :=
  if n < 0xFB then [UInt8.ofNat n]
  else if n ≤ 0xFFFF then 0xFC :: writeInt 2 n
  else if n ≤ 0xFFFFFF then 0xFD :: writeInt 3 n
  else 0xFE :: writeInt 8 n

/-- Take a length-encoded integer off the front. The lead bytes `FB` and `FF` start none. -/
def readLenenc (data : Bytes) : Except ProtocolError (Nat × Bytes) := do
  let (lead, rest) ← readByte data
  if lead ≤ 0xFA then .ok (lead.toNat, rest)
  else if lead = 0xFC then readInt 2 rest
  else if lead = 0xFD then readInt 3 rest
  else if lead = 0xFE then readInt 8 rest
  else .error (.reservedLength lead)

/-! ## Widths -/

@[simp] theorem length_writeInt (width n : Nat) : (writeInt width n).length = width := by
  induction width generalizing n with
  | zero => rfl
  | succ width ih => simp [writeInt, ih]

end AtomicCommit.Wire
