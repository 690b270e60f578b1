import AtomicCommit.Url.Domain.Direction
import AtomicCommit.Url.Domain.Joining
import AtomicCommit.Url.Domain.Punycode
import AtomicCommit.Url.Domain.Replacement

/-!
# Domain names

A domain name is written in one form only. Its characters are replaced by those they are variants
of, the text is composed, and each label between full stops has to obey the rules on marks, joiners
and directions. A label that starts with `xn--` is an encoded one, and has to decode to a label that
would have been kept as it is. In the ASCII form of a name every label with characters outside
ASCII is encoded.
-/

namespace AtomicCommit.Url

open Text

/-! ## Labels -/

/-- The labels of a name, with their points between them. -/
def labels (name : List Char) : List (List Char) :=
  let (before, label) := name.foldl
    (fun (before, label) c =>
      if c = '.' then (label.reverse :: before, []) else (before, c :: label))
    (([], []) : List (List Char) × List Char)
  (label.reverse :: before).reverse

/-- Characters of ASCII that no domain name has. -/
def refusedInDomain (c : Char) : Bool :=
  c.toNat ≤ 0x20 || c.toNat = 0x7F ||
    ['%', '#', '/', ':', '<', '>', '?', '@', '[', '\\', ']', '^', '|'].contains c

def isAscii (cs : List Char) : Bool :=
  cs.all (·.toNat < 0x80)

/-- The longest label that is encoded. -/
def longestText : Nat := 1000

/-- The longest label that is decoded, without its marker. -/
def longestCode : Nat := 2000

/-- Whether a label may stand in a name, directions apart. -/
def isLabel (label : List Char) : Bool :=
  !label.any refusedInDomain && !label.head?.any isMark && joinersFit [] label &&
    (isAscii label || label.length ≤ longestText)

/-- What an encoded label starts with. -/
def encodedMarker : List Char := ['x', 'n', '-', '-']

/-- Decode an encoded label without its marker. It has to stand for a text outside ASCII that is
kept as it is. -/
def decodeLabel (code : List Char) : Option (List Char) := do
  if code.isEmpty || code.getLast? = some '-' || !isAscii code || longestCode < code.length then
    none
  else
    let label ← Punycode.decode code
    if label.all isKept && composedForm label == label then some label else none

/-- Read one label of a name whose characters are replaced and composed. -/
def readLabel (label : List Char) : Option (List Char) := do
  let label ←
    if encodedMarker.isPrefixOf label then decodeLabel (label.drop encodedMarker.length)
    else some label
  if isLabel label then some label else none

def writeLabel (label : List Char) : List Char :=
  if isAscii label then label else encodedMarker ++ Punycode.encode label

/-! ## Names -/

/-- Whether the labels of a name may stand together. -/
def keepDirections (name : List (List Char)) : Bool :=
  let directions := name.map (·.map direction)
  !directions.any (·.any Direction.isBackward) || directions.all Direction.isOneWay

/-- The ASCII form of a domain name, if it is one. -/
def readDomain (text : List Char) : Option (List Char) := do
  let replaced ← text.mapM replacement?
  let name ← (labels (composedForm replaced.flatten)).mapM readLabel
  if keepDirections name then some (List.intercalate ['.'] (name.map writeLabel)) else none

end AtomicCommit.Url
