/-!
# Charts of characters

A chart says something of some characters and nothing of the others. Its rows each cover a run of
neighbours, ascend and do not overlap, so `Chart.row?` finds the row of a character by halving.

A chart is written in lines of rows `first-last=entry` with blanks between them; `first=entry` is
a row of one character. All numbers are upper-case hexadecimal. Charts of the properties of
characters follow version 18 of the standard.
-/

namespace AtomicCommit.Text

/-- Neighbouring characters and what a chart says of them. -/
structure Row (α : Type) where
  first : Nat
  last : Nat
  entry : α
  deriving Repr

/-- Rows in ascending order. -/
structure Chart (α : Type) where
  rows : Array (Row α)
  deriving Repr

namespace Chart

variable {α : Type}

/-! ## Reading -/

/-- The number that upper-case hexadecimal digits write. -/
def number (digits : List Char) : Nat :=
  digits.foldl (fun n c =>
    n * 16 + if c.isDigit then c.toNat - '0'.toNat else c.toNat - 'A'.toNat + 10) 0

/-- The texts in front of the first `mark` and behind it. -/
def cut (mark : Char) (cs : List Char) : List Char × List Char :=
  (cs.takeWhile (· ≠ mark), (cs.dropWhile (· ≠ mark)).drop 1)

/-- Read one row. -/
def readRow (read : List Char → α) (text : String) : Row α :=
  let (run, entry) := cut '=' text.toList
  let (first, last) := cut '-' run
  ⟨number first, number (if last.isEmpty then first else last), read entry⟩

/-- Read a chart whose entries `read` makes out. -/
def ofLines (read : List Char → α) (lines : List String) : Chart α :=
  ⟨(lines.flatMap fun line => (line.splitOn " ").map (readRow read)).toArray⟩

/-! ## Looking up -/

/-- Search the rows from `low` up to `high` for the one that covers `c`. -/
def search (rows : Array (Row α)) (c low high : Nat) : Option (Row α) :=
  if low < high then
    let middle := (low + high) / 2
    match rows[middle]? with
    | none => none
    | some row =>
      if c < row.first then search rows c low middle
      else if row.last < c then search rows c (middle + 1) high
      else some row
  else none
  termination_by high - low

def row? (chart : Chart α) (c : Char) : Option (Row α) :=
  search chart.rows c.toNat 0 chart.rows.size

def entry? (chart : Chart α) (c : Char) : Option α :=
  (chart.row? c).map Row.entry

end Chart

end AtomicCommit.Text
