/-!
# Byte strings and the text inside them

`Bytes` is what travels on a link. `encode` gives the UTF-8 form of a text and `decode` reads any
byte string as text: every maximal ill-formed part becomes one U+FFFD, so decoding never fails
and undoes `encode`.

The decoder looks at one byte at a time. Between characters it is at rest; inside a character it
knows how many bytes are owed and the range the next one has to lie in. The range is narrower
than `80..BF` only after `E0`, `ED`, `F0` and `F4`, which rules out overlong forms, surrogates
and values past U+10FFFF.
-/

namespace AtomicCommit

/-- Raw bytes as they appear on a link. -/
abbrev Bytes := List UInt8

namespace Text

def encode (text : String) : Bytes :=
  text.toList.flatMap String.utf8EncodeChar

/-! ## Decoding -/

/-- Stands for an ill-formed part. -/
def replacement : Char := '\uFFFD'

/-- Where the decoder is between two bytes. -/
inductive Position where
  /-- Between characters. -/
  | rest
  /-- Inside a character: `owed` more bytes, the next one in `low..high`, and the bits so far. -/
  | inside (owed : Nat) (low high : UInt8) (bits : Nat)
  deriving DecidableEq, Repr

/-- A decoder with the characters it has produced, latest first. -/
structure Decoder where
  position : Position := .rest
  produced : List Char := []
  deriving DecidableEq, Repr

namespace Decoder

/-- Produce one character and return to rest. -/
def emit (d : Decoder) (c : Char) : Decoder :=
  ⟨.rest, c :: d.produced⟩

/-- Wait for the rest of a character. -/
def await (d : Decoder) (owed : Nat) (low high : UInt8) (bits : Nat) : Decoder :=
  ⟨.inside owed low high bits, d.produced⟩

/-- Take the first byte of a character. -/
def lead (d : Decoder) (b : UInt8) : Decoder :=
  if b < 0x80 then d.emit (Char.ofNat b.toNat)
  else if b < 0xC2 then d.emit replacement
  else if b < 0xE0 then d.await 1 0x80 0xBF (b.toNat % 32)
  else if b = 0xE0 then d.await 2 0xA0 0xBF 0
  else if b = 0xED then d.await 2 0x80 0x9F 13
  else if b < 0xF0 then d.await 2 0x80 0xBF (b.toNat % 16)
  else if b = 0xF0 then d.await 3 0x90 0xBF 0
  else if b < 0xF4 then d.await 3 0x80 0xBF (b.toNat % 8)
  else if b = 0xF4 then d.await 3 0x80 0x8F 4
  else d.emit replacement

/-- Take the next byte. A byte that cannot continue a character ends it as ill-formed and starts
over. -/
def feed (d : Decoder) (b : UInt8) : Decoder :=
  match d.position with
  | .rest => d.lead b
  | .inside owed low high bits =>
    if low ≤ b ∧ b ≤ high then
      let bits := bits * 64 + b.toNat % 64
      if owed ≤ 1 then d.emit (Char.ofNat bits) else d.await (owed - 1) 0x80 0xBF bits
    else (d.emit replacement).lead b

/-- The text produced, where a character cut off by the end is ill-formed. -/
def finish (d : Decoder) : List Char :=
  match d.position with
  | .rest => d.produced.reverse
  | .inside .. => (replacement :: d.produced).reverse

end Decoder

/-- Read bytes as text, with one U+FFFD for every maximal ill-formed part. -/
def decode (bytes : Bytes) : String :=
  String.ofList (bytes.foldl Decoder.feed {}).finish

end Text

end AtomicCommit
