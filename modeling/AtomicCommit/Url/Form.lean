import AtomicCommit.Url.Percent

/-!
# Query pairs

A query is a list of fields with `&` between them, and a field is a name and a value with the
first `=` between them. Empty fields do not count, and a field without `=` has an empty value.
In both parts `+` is a blank, percent-encoded bytes are taken back, and what results is read as
text.
-/

namespace AtomicCommit.Url

/-- The parts of a byte string between the places where `separator` stands; `part` is the part
that is being read, latest byte first. -/
def splitAt (separator : UInt8) (part : Bytes) : Bytes → List Bytes
  | [] => [part.reverse]
  | b :: rest =>
    if b = separator then part.reverse :: splitAt separator [] rest
    else splitAt separator (b :: part) rest

def formText (data : Bytes) : String :=
  Text.decode (percentDecode (data.map fun b => if b = 0x2B then 0x20 else b))

def formPair (field : Bytes) : String × String :=
  let name := field.takeWhile (· ≠ 0x3D)
  (formText name, formText (field.drop (name.length + 1)))

def formPairs (query : String) : List (String × String) :=
  ((splitAt 0x26 [] (Text.encode query)).filter (!·.isEmpty)).map formPair

end AtomicCommit.Url
