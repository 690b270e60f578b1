import AtomicCommit.Text.Utf8

/-!
# Percent encoding

A URL writes a byte it cannot show as `%` and two hexadecimal digits. Which characters it cannot
show depends on the place: control characters and everything outside ASCII never, and a few more
in each part. Decoding takes the bytes back and leaves a `%` alone that no two digits follow.
-/

namespace AtomicCommit.Url

/-! ## Encoding -/

/-- Characters shown nowhere in a URL. -/
def isControl (c : Char) : Bool :=
  c.toNat < 0x20 || 0x7F ≤ c.toNat

/-- Further characters that are encoded in a path. -/
def pathSet : List Char := [' ', '"', '<', '>', '\x60', '#', '?', '\x7b', '\x7d']

/-- Further characters that are encoded in user and password. -/
def userSet : List Char := pathSet ++ ['/', ':', ';', '=', '@', '[', '\\', ']', '^', '|']

def hexDigit (n : Nat) : Char :=
  (Nat.digitChar n).toUpper

def encodeByte (b : UInt8) : List Char :=
  ['%', hexDigit (b.toNat / 16), hexDigit (b.toNat % 16)]

/-- Show what can be shown and encode controls and the characters of `set`. -/
def percentEncode (set : List Char) (text : List Char) : List Char :=
  text.flatMap fun c =>
    if isControl c || set.contains c then (String.utf8EncodeChar c).flatMap encodeByte else [c]

/-! ## Decoding -/

/-- The value of a hexadecimal digit of either case. -/
def hexValue (b : UInt8) : Option UInt8 :=
  if 0x30 ≤ b ∧ b ≤ 0x39 then some (b - 0x30)
  else if 0x41 ≤ b ∧ b ≤ 0x46 then some (b - 0x37)
  else if 0x61 ≤ b ∧ b ≤ 0x66 then some (b - 0x57)
  else none

/-- Decode onto the bytes already produced, latest first. -/
def percentDecodeOnto (produced : Bytes) : Bytes → Bytes
  | [] => produced.reverse
  | 0x25 :: h :: l :: rest =>
    match hexValue h, hexValue l with
    | some high, some low => percentDecodeOnto ((high * 16 + low) :: produced) rest
    | _, _ => percentDecodeOnto (0x25 :: produced) (h :: l :: rest)
  | b :: rest => percentDecodeOnto (b :: produced) rest
  termination_by data => data.length

/-- Take encoded bytes back. -/
def percentDecode (data : Bytes) : Bytes :=
  percentDecodeOnto [] data

end AtomicCommit.Url
