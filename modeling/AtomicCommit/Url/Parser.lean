import AtomicCommit.Url.Form
import AtomicCommit.Url.Host

/-!
# Reading URLs

`Url.parse` follows the URL standard. Blanks and controls around the text and all tabs and line
ends in it are ignored. A scheme that the standard does not reserve is followed by `//` and an
authority, by a path alone, or by text without structure. The path is kept in its normal form,
where `.` and `..` are worked off, and everything from `#` on is dropped.
-/

namespace AtomicCommit

/-- The parts of a URL. User, password, host and path are percent-encoded, the query is as
written. -/
structure Url where
  scheme : String
  user : String := ""
  password : Option String := none
  host : Option String := none
  port : Option UInt16 := none
  path : String := ""
  query : Option String := none
  deriving DecidableEq, Repr

namespace Url

def pairs (url : Url) : List (String × String) :=
  formPairs (url.query.getD "")

/-! ## The text -/

/-- Blanks and controls, ignored at both ends. -/
def isPadding (c : Char) : Bool :=
  c.toNat ≤ 0x20

/-- Tabs and line ends, ignored everywhere. -/
def isBreak (c : Char) : Bool :=
  c == '\t' || c == '\n' || c == '\r'

/-- The characters that count. -/
def significant (text : String) : List Char :=
  let cs := text.toList.dropWhile isPadding
  ((cs.reverse.dropWhile isPadding).reverse).filter (!isBreak ·)

/-! ## Schemes -/

/-- How the standard treats a scheme. -/
inductive SchemeKind where
  /-- Local files. -/
  | file
  /-- The other schemes the standard knows, which always have a host. -/
  | reserved
  /-- Any other. -/
  | general
  deriving DecidableEq, Repr

/-- The treatment of a scheme. -/
def schemeKind (scheme : String) : SchemeKind :=
  if scheme = "file" then .file
  else if ["http", "https", "ws", "wss", "ftp"].contains scheme then .reserved
  else .general

/-- Characters of a scheme behind the first. -/
def isSchemeChar (c : Char) : Bool :=
  c.isAlphanum || c == '+' || c == '-' || c == '.'

/-- What separates the parts of a URL of a reserved scheme. -/
def isSlash (c : Char) : Bool :=
  c == '/' || c == '\\'

/-- Split off a scheme, in lower case, and its colon. -/
def readScheme (cs : List Char) : Option (String × List Char) :=
  let scheme := cs.takeWhile isSchemeChar
  match cs.drop scheme.length with
  | ':' :: rest =>
    if (scheme.head?.map Char.isAlpha).getD false then
      some (String.ofList (scheme.map Char.toLower), rest)
    else none
  | _ => none

/-! ## Authorities -/

/-- Whether a segment names a drive. Such a segment is never left upwards. -/
def isDrive : List Char → Bool
  | [letter, mark] => letter.isAlpha && (mark == ':' || mark == '|')
  | letter :: mark :: '\\' :: _ => letter.isAlpha && (mark == ':' || mark == '|')
  | _ => false

/-- Whether a character ends an authority. A reserved scheme takes a backslash for a slash. -/
def endsAuthority (kind : SchemeKind) (c : Char) : Bool :=
  c == '/' || c == '?' || c == '#' || (c == '\\' && kind != .general)

/-- The text in front of the last `@` and the text behind it, if there is one; `seen` is the text
so far, latest character first. -/
def splitLastAt (seen : List Char) : List Char → Option (List Char × List Char)
  | [] => none
  | '@' :: rest =>
    match splitLastAt ('@' :: seen) rest with
    | some split => some split
    | none => some (seen.reverse, rest)
  | c :: rest => splitLastAt (c :: seen) rest

/-- User and password, encoded. An empty password is none. -/
def readUser (info : List Char) : String × Option String :=
  let user := info.takeWhile (· ≠ ':')
  let password := info.drop (user.length + 1)
  (String.ofList (percentEncode userSet user),
    if password.isEmpty then none else some (String.ofList (percentEncode userSet password)))

/-- Split off a host: a colon ends it outside brackets. -/
def splitHost (kind : SchemeKind) (inside : Bool) (host : List Char) :
    List Char → List Char × List Char
  | [] => (host.reverse, [])
  | c :: rest =>
    if endsAuthority kind c || (c == ':' && !inside) then (host.reverse, c :: rest)
    else splitHost kind (c == '[' || (inside && c != ']')) (c :: host) rest

/-- Read the digits of a port. No digits are no port. -/
def readPort (digits : Option Nat) : List Char → Except UrlError (Option Nat × List Char)
  | [] => .ok (digits, [])
  | c :: rest =>
    if c.isDigit then
      let port := digits.getD 0 * 10 + (c.toNat - '0'.toNat)
      if 0xFFFF < port then .error .badPort else readPort (some port) rest
    else if c == '/' || c == '\\' || c == '?' || c == '#' then .ok (digits, c :: rest)
    else .error .badPort

/-- Read an authority into a URL and return what follows it. -/
def readAuthority (kind : SchemeKind) (url : Url) (cs : List Char) :
    Except UrlError (Url × List Char) := do
  let authority := cs.takeWhile (!endsAuthority kind ·)
  let behind := cs.drop authority.length
  let (info, rest) := match splitLastAt [] authority with
    | some (info, rest) => (info, rest ++ behind)
    | none => ([], cs)
  if authority.head? = some '@' && info.isEmpty && (rest.head?.map (endsAuthority kind)).getD false
  then .error .emptyHost
  else
    let (user, password) := readUser info
    let (host, rest) := splitHost kind false [] rest
    if host.isEmpty && (kind != .general || rest.head? = some ':' || user != "" || password.isSome)
    then .error .emptyHost
    else
      let host ← if kind == .general then readHost host else readReservedHost host
      let (port, rest) ← match rest with
        | ':' :: digits => readPort none digits
        | rest => .ok (none, rest)
      .ok ({ url with
        user := user
        password := password
        host := if host.isEmpty then none else some host
        port := port.map UInt16.ofNat }, rest)

/-- Read the host of a local file, which may be missing. A drive in its place is none, and the
name of the machine itself counts as none. -/
def readFileHost (url : Url) (cs : List Char) : Except UrlError (Url × List Char) := do
  let host := cs.takeWhile (!endsAuthority .file ·)
  if host.isEmpty || isDrive host then .ok (url, cs)
  else
    let name ← readReservedHost host
    .ok ({ url with host := if name = "localhost" then none else some name }, cs.drop host.length)

/-! ## Paths -/

/-- Segments that stand for their own directory. -/
def isDot (segment : List Char) : Bool :=
  ["." , "%2e"].contains (String.ofList (segment.map Char.toLower))

/-- Segments that stand for the directory above. -/
def isDotDot (segment : List Char) : Bool :=
  ["..", "%2e.", ".%2e", "%2e%2e"].contains (String.ofList (segment.map Char.toLower))

/-- The path above, where a path is held latest character first and ends in a slash. -/
def above : List Char → List Char
  | '/' :: path =>
    let segment := (path.takeWhile (· ≠ '/')).reverse
    match path.dropWhile (· ≠ '/') with
    | [] => '/' :: path
    | shorter => if isDrive segment then '/' :: path else shorter
  | path => path.dropWhile (· ≠ '/')

/-- Add a segment, both latest character first, and a slash if one follows. -/
def addSegment (path segment : List Char) (slash : Bool) : List Char :=
  let segment := percentEncode pathSet segment.reverse
  if isDotDot segment then
    let shorter := above path
    if slash && shorter.head? != some '/' then '/' :: shorter else shorter
  else if isDot segment then
    if path.head? = some '/' then path else '/' :: path
  else
    -- an empty segment counts: two slashes in a row stay two
    let longer := segment.reverse ++ path
    if slash then '/' :: longer else longer

/-- Work off the segments up to the query; `path` and `segment` are held latest character
first. -/
def walkPath (path segment : List Char) : List Char → List Char × List Char
  | [] => ((addSegment path segment false).reverse, [])
  | c :: rest =>
    if c = '/' then walkPath (addSegment path segment true) [] rest
    else if c = '?' || c = '#' then ((addSegment path segment false).reverse, c :: rest)
    else walkPath path (c :: segment) rest

/-- The path behind an authority. -/
def readPath (cs : List Char) : List Char × List Char :=
  match cs with
  | '/' :: _ => walkPath [] [] cs
  | [] => ([], [])
  | c :: _ => if c = '?' || c = '#' then ([], cs) else walkPath ['/'] [] cs

/-! ## Whole URLs -/

/-- The query, if what follows the path is one. -/
def readQuery : List Char → Option String
  | '?' :: rest => some (String.ofList (rest.takeWhile (· ≠ '#')))
  | _ => none

/-- Put path and query into a URL. -/
def withPath (url : Url) (split : List Char × List Char) : Url :=
  { url with path := String.ofList split.1, query := readQuery split.2 }

/-- Read a URL. -/
def parse (text : String) : Except UrlError Url := do
  match readScheme (significant text) with
  | none => .error .noScheme
  | some (scheme, rest) =>
    let url : Url := { scheme := scheme }
    match schemeKind scheme, rest with
    | .general, '/' :: '/' :: rest =>
      let (url, rest) ← readAuthority .general url rest
      .ok (withPath url (readPath rest))
    | .general, '/' :: rest => .ok (withPath url (walkPath ['/'] [] rest))
    | .general, rest =>
      let path := rest.takeWhile fun c => c ≠ '?' && c ≠ '#'
      .ok (withPath url (percentEncode [] path, rest.drop path.length))
    | .reserved, rest =>
      let (url, rest) ← readAuthority .reserved url (rest.dropWhile isSlash)
      .ok (withPath url (readPath rest))
    | .file, first :: second :: rest =>
      -- a local file has a host only behind two slashes of either kind
      let (url, rest) ← if isSlash first && isSlash second then readFileHost url rest
        else .ok (url, first :: second :: rest)
      .ok (withPath url (readPath rest))
    | .file, rest => .ok (withPath url (readPath rest))

end Url

end AtomicCommit
