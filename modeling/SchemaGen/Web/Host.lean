import SchemaGen.Web.Domain
import SchemaGen.Web.Ipv6
import SchemaGen.Web.Percent

/-! Hosts: a name, four bytes, or eight groups in brackets. -/

namespace SchemaGen.Web

set_option autoImplicit false

inductive Host where
  | name (text : String)
  /-- Four bytes as one number. -/
  | ipv4 (n : Nat)
  | ipv6 (groups : List Nat)
  deriving DecidableEq, Repr

/-- Why a text is no host. -/
inductive HostError where
  | empty
  | invalidName
  | invalidChar
  | invalidIpv4
  | invalidIpv6
  deriving DecidableEq, Repr

namespace Host

def render : Host → String
  | .name text => text
  | .ipv4 n => Ipv4.render n
  | .ipv6 groups => "[" ++ Ipv6.render groups ++ "]"

/-! ## Reading -/

/-- The groups between brackets, the first of which is left out. -/
def parseBrackets (cs : List Char) : Except HostError Host :=
  if cs.getLast? != some ']' then .error .invalidIpv6
  else match Ipv6.parse? cs.dropLast with
    | some groups => .ok (.ipv6 groups)
    | none => .error .invalidIpv6

/-- A name or four bytes. -/
def parseName (cs : List Char) : Except HostError Host :=
  match (decodedText? cs).bind fun s => Domain.toAscii? s.toList with
  | none => .error .invalidName
  | some [] => .error .empty
  | some ascii =>
    if Ipv4.endsInNumber ascii then
      match Ipv4.parse? ascii with
      | some n => .ok (.ipv4 n)
      | none => .error .invalidIpv4
    else .ok (.name (String.ofList ascii))

/-- The host of an address on the web. -/
def parse : List Char → Except HostError Host
  | '[' :: rest => parseBrackets rest
  | cs => parseName cs

/-- May not stand in a host of any kind. -/
def isForbidden (c : Char) : Bool :=
  (['\x00', '\t', '\n', '\r', ' ', '#', '/', ':', '<', '>', '?', '@', '[', '\\', ']', '^', '|'] :
    List Char).contains c

/-- The host of any other address, which stands as it is. -/
def parseOpaque : List Char → Except HostError Host
  | '[' :: rest => parseBrackets rest
  | cs =>
    if cs.any isForbidden then .error .invalidChar
    else .ok (.name (String.ofList (percentEncode isPlain cs)))

end Host

/-! ## Wording -/

def HostError.message : HostError → String
  | .empty => "empty host"
  | .invalidName => "invalid international domain name"
  | .invalidChar => "invalid domain character"
  | .invalidIpv4 => "invalid IPv4 address"
  | .invalidIpv6 => "invalid IPv6 address"

end SchemaGen.Web
