import AtomicCommit.Url.Ipv4
import AtomicCommit.Url.Ipv6

/-!
# Hosts

A host in brackets is an IPv6 address and is written back in its shortest form. In a URL of a
scheme that nobody reserved, any other host is a plain name: it keeps its case, a few characters
are refused in it, and those that cannot be shown are encoded. In a URL of a reserved scheme it is
a domain name, and an IPv4 address if its last label is a number.
-/

namespace AtomicCommit.Url

/-- Why a text is no URL. -/
inductive UrlError where
  | emptyHost
  | badPort
  | badIpv4
  | badIpv6
  | badHostCharacter
  | badDomain
  | noScheme
  deriving DecidableEq, Repr

/-- The wording of a URL error. -/
def UrlError.message : UrlError → String
  | .emptyHost => "empty host"
  | .badPort => "invalid port number"
  | .badIpv4 => "invalid IPv4 address"
  | .badIpv6 => "invalid IPv6 address"
  | .badHostCharacter => "invalid domain character"
  | .badDomain => "invalid international domain name"
  | .noScheme => "relative URL without a base"

/-- Read the address of a host that starts with a bracket, from behind it. -/
def readBracketed (rest : List Char) : Except UrlError String :=
  if rest.getLast? = some ']' then
    match readIpv6 rest.dropLast with
    | some pieces => .ok ("[" ++ writeIpv6 pieces ++ "]")
    | none => .error .badIpv6
  else .error .badIpv6

/-- Characters refused in a name. -/
def refusedInName : List Char :=
  ['\x00', '\t', '\n', '\r', ' ', '#', '/', ':', '<', '>', '?', '@', '[', '\\', ']', '^', '|']

/-- Read the host of a URL, in brackets or not. -/
def readHost : List Char → Except UrlError String
  | '[' :: rest => readBracketed rest
  | cs =>
    if cs.any refusedInName.contains then .error .badHostCharacter
    else .ok (String.ofList (percentEncode [] cs))

/-- Read the host of a URL of a reserved scheme, where encoded characters count as themselves. -/
def readReservedHost : List Char → Except UrlError String
  | '[' :: rest => readBracketed rest
  | cs =>
    match readDomain (Text.decode (percentDecode (Text.encode (String.ofList cs)))).toList with
    | none => .error .badDomain
    | some name =>
      if name.isEmpty then .error .emptyHost
      else if endsInNumber name then
        match readIpv4 name with
        | some address => .ok (writeIpv4 address)
        | none => .error .badIpv4
      else .ok (String.ofList name)

end AtomicCommit.Url
