import AtomicCommit.Text.Composition.Charts

/-!
# The composed form of a text

Many characters can be written as one or as a letter with marks behind it, and the marks in several
orders. The composed form is the one spelling among these that takes the fewest characters:
everything is taken apart, the marks behind each letter are put in the order of their classes, and
what can be composed is composed again.

A few characters are not their own composed form, such as the sign for the unit of resistance,
which is a letter. They are left as they are: whoever asks for composed forms here has replaced
them before.
-/

namespace AtomicCommit.Text

/-! ## Pairs -/

/-- The class of a mark, 0 for what keeps its place. -/
def combiningClass (c : Char) : Nat :=
  (classChart.entry? c).getD 0

/-- The first of the syllables of the Korean script. They are numbered by initial, vowel and final,
of which there are 19, 21 and 28, no final being the first of them. -/
def firstSyllable : Nat := 0xAC00

/-- The two characters that a syllable is made of. -/
def splitSyllable? (c : Char) : Option (Char × Char) :=
  let n := c.toNat - firstSyllable
  if c.toNat < firstSyllable || 19 * 21 * 28 ≤ n then none
  else if n % 28 = 0 then
    some (Char.ofNat (0x1100 + n / (21 * 28)), Char.ofNat (0x1161 + n / 28 % 21))
  else some (Char.ofNat (firstSyllable + (n - n % 28)), Char.ofNat (0x11A7 + n % 28))

/-- The syllable of an initial and a vowel, or of an open syllable and a final. -/
def joinSyllable? (a b : Char) : Option Char :=
  let initial := a.toNat - 0x1100
  let vowel := b.toNat - 0x1161
  let syllable := a.toNat - firstSyllable
  let final := b.toNat - 0x11A7
  if 0x1100 ≤ a.toNat && initial < 19 && 0x1161 ≤ b.toNat && vowel < 21 then
    some (Char.ofNat (firstSyllable + (initial * 21 + vowel) * 28))
  else if firstSyllable ≤ a.toNat && syllable < 19 * 21 * 28 && syllable % 28 = 0
      && 0x11A7 < b.toNat && final < 28 then
    some (Char.ofNat (a.toNat + final))
  else none

/-- The two characters that a composed character is made of. -/
def split? (c : Char) : Option (Char × Char) :=
  (compositionChart.entry? c).or (splitSyllable? c)

/-- The composed character that two characters make. -/
def join? (a b : Char) : Option Char :=
  compositions[(a.toNat, b.toNat)]?.or (joinSyllable? a b)

/-! ## Taking apart -/

/-- Take a character apart down to `depth` levels. -/
def takeApart : (depth : Nat) → Char → List Char
  | 0, c => [c]
  | depth + 1, c =>
    match split? c with
    | some (first, second) => takeApart depth first ++ [second]
    | none => [c]

/-- How often a composed character can be taken apart. -/
def compositionDepth : Nat := 3

/-! ## Ordering marks -/

/-- A text whose marks are being ordered. -/
structure MarkOrder where
  /-- What is in order, latest first. -/
  ordered : List Char := []
  /-- The marks behind it with their classes, latest first. -/
  marks : List (Nat × Char) := []

/-- Put the marks in the order of their classes. Marks of one class keep their order. -/
def MarkOrder.settle (o : MarkOrder) : List Char :=
  ((o.marks.reverse.mergeSort fun a b => a.1 ≤ b.1).map Prod.snd).reverse ++ o.ordered

/-- Take the next character in. -/
def MarkOrder.add (o : MarkOrder) (c : Char) : MarkOrder :=
  match combiningClass c with
  | 0 => ⟨c :: o.settle, []⟩
  | markClass => ⟨o.ordered, (markClass, c) :: o.marks⟩

/-- Order the marks of a text. -/
def orderMarks (cs : List Char) : List Char :=
  (cs.foldl MarkOrder.add {}).settle.reverse

/-! ## Composing -/

/-- A text that is being composed. -/
structure Composer where
  /-- What is behind us, latest first. -/
  finished : List Char := []
  /-- The latest character that keeps its place, which others may still join. -/
  base : Option Char := none
  /-- The marks that did not join it, latest first. -/
  marks : List Char := []
  /-- The class of the latest of them. -/
  barrier : Nat := 0

namespace Composer

/-- What the base becomes with a further character, if that joins it. A mark of the same class in
between keeps it from joining. -/
def joined? (s : Composer) (c : Char) (markClass : Nat) : Option Char :=
  if s.marks.isEmpty || s.barrier < markClass then s.base.bind fun base => join? base c else none

/-- Everything so far, latest first. -/
def flush (s : Composer) : List Char :=
  s.marks ++ s.base.toList ++ s.finished

/-- Take the next character in. -/
def add (s : Composer) (c : Char) : Composer :=
  let markClass := combiningClass c
  match s.joined? c markClass with
  | some base => { s with base := some base }
  | none =>
    if markClass = 0 then { finished := s.flush, base := some c }
    else { s with marks := c :: s.marks, barrier := markClass }

end Composer

def composedForm (cs : List Char) : List Char :=
  let apart := orderMarks (cs.flatMap (takeApart compositionDepth))
  (apart.foldl Composer.add {}).flush.reverse

end AtomicCommit.Text
