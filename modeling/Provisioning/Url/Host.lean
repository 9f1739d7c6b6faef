import Provisioning.Url.Percent
import Provisioning.Url.Domain
import Provisioning.Url.Ipv6
/-!
# Hosts

* `UrlError` : why a text is no URL;
* `Host` : a name, an IPv4 address or an IPv6 address;
* `Host.parse` : the host of a web address, in which a name may be percent-encoded;
* `Host.parseVerbatim` : the host of any other scheme, in which a name stands for itself;
* `Host.render` : the host in a URL.
-/

namespace Provisioning

inductive UrlError
  | relativeWithoutBase
  | emptyHost
  | invalidPort
  | invalidIpv4
  | invalidIpv6
  | invalidInternationalDomain
  | invalidDomainCharacter
  deriving DecidableEq, Repr

def UrlError.message : UrlError → String
  | relativeWithoutBase => "relative URL without a base"
  | emptyHost => "empty host"
  | invalidPort => "invalid port number"
  | invalidIpv4 => "invalid IPv4 address"
  | invalidIpv6 => "invalid IPv6 address"
  | invalidInternationalDomain => "invalid international domain name"
  | invalidDomainCharacter => "invalid domain character"

inductive Host
  | domain (name : List Char)
  | ipv4 (address : UInt32)
  | ipv6 (pieces : List UInt16)
  deriving DecidableEq, Repr

namespace Host

def parseBracketed (s : List Char) : Except UrlError Host :=
  if s.getLast? = some ']' then
    match Ipv6.parse? s.dropLast with
    | some pieces => .ok (.ipv6 pieces)
    | none => .error .invalidIpv6
  else .error .invalidIpv6

def parseName (s : List Char) : Except UrlError Host :=
  match Domain.toAscii? (Percent.decode (Utf8.encode s)) with
  | none => .error .invalidInternationalDomain
  | some [] => .error .emptyHost
  | some name =>
    if Ipv4.endsInNumber name then
      match Ipv4.parse? name with
      | some address => .ok (.ipv4 address)
      | none => .error .invalidIpv4
    else .ok (.domain name)

def parse : List Char → Except UrlError Host
  | '[' :: r => parseBracketed r
  | s => parseName s

/-- The characters that end or divide a URL's parts. -/
def isForbidden (c : Char) : Bool :=
  ['\x00', '\t', '\n', '\r', ' ', '#', '/', ':', '<', '>', '?', '@', '[', '\\', ']', '^',
    '|'].contains c

def parseVerbatim : List Char → Except UrlError Host
  | '[' :: r => parseBracketed r
  | s =>
    if s.any isForbidden then .error .invalidDomainCharacter
    else .ok (.domain (Percent.encode Percent.inControls s))

def render : Host → List Char
  | domain name => name
  | ipv4 address => Ipv4.render address
  | ipv6 pieces => '[' :: (Ipv6.render pieces ++ [']'])

end Host

end Provisioning
