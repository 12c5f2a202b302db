import SchemaGen.Text.Blank
import SchemaGen.Web.Host

/-! Proxies, which requests are sent to in place of the server. Variables name one for each kind of
address or for all, and the hosts that are reached without. -/

namespace SchemaGen.Web

set_option autoImplicit false

open SchemaGen.Text

structure Proxy where
  scheme : String
  host : Host
  service : Nat
  deriving DecidableEq, Repr

/-- Hosts that are reached without a proxy. -/
inductive Exemption where
  /-- Addresses of so many bits that agree in the first of them. -/
  | network (width address fixed : Nat)
  | domain (name : String)
  deriving DecidableEq, Repr

structure Proxies where
  plain : Option Proxy := none
  secure : Option Proxy := none
  exempt : List Exemption := []

/-! ## Names of proxies -/

namespace Proxy

/-- The schemes that a proxy can have. -/
def schemes : List String := ["http", "https", "socks4", "socks4a", "socks5", "socks5h"]

def isServerChar (c : Char) : Bool :=
  c.isAlphanum || "!$&'()*+,-.:;=@[]_~%".toList.contains c

def isEnd (c : Char) : Bool := c == '/' || c == '?' || c == '#'

/-- The scheme in front of a host, as it is written, and what follows its slashes. The two schemes
of the web may be written in capitals. -/
def splitScheme (cs : List Char) : Option (String × List Char) :=
  match cutAt (· == ':') cs with
  | (scheme, some ('/' :: '/' :: rest)) =>
    let lower := String.ofList (scheme.map Char.toLower)
    if lower == "http" || lower == "https" then some (lower, rest)
    else if scheme.all fun c => c.isAlphanum || c == '+' || c == '-' || c == '.' then
      some (String.ofList scheme, rest)
    else none
  | _ => none

/-- A character of the path or the query behind a host. -/
def isTargetChar (c : Char) : Bool :=
  isVisible c && !(['<', '>', '\x60'] : List Char).contains c

/-- A host and the number of its service: at most one colon outside brackets, and no `%`. -/
def readServer (scheme : String) (cs : List Char) : Option Proxy :=
  let (host, service) :=
    match cs with
    | '[' :: _ =>
      ((cs.takeWhile (· != ']')) ++ [']'], (cutAt (· == ':') ((cs.dropWhile (· != ']')).drop 1)).2)
    | cs => cutAt (· == ':') cs
  let digits := service.getD []
  let number := digits.foldl (fun n c => n * 10 + (c.toNat - '0'.toNat)) 0
  let implied := if scheme == "https" then 443 else 80
  if cs.isEmpty || digits.contains ':' || cs.contains '%' then none
  else
    let isNumber := !digits.isEmpty && digits.all Char.isDigit && number < 65536
    some {
      scheme
      host := match Host.parse host with
        | .ok host => host
        | .error _ => .name (String.ofList host)
      service := if isNumber then number else implied }

/-- The proxy that a text names. Without a scheme, nothing may follow the host. -/
def parse? (text : String) : Option Proxy := do
  let cs := text.toList
  let (scheme, rest) := (splitScheme cs).getD ("http", cs)
  let server := rest.takeWhile fun c => !isEnd c
  let after := rest.dropWhile fun c => !isEnd c
  if !schemes.contains scheme || !server.all isServerChar then none
  else if !after.isEmpty && ((splitScheme cs).isNone || !after.all isTargetChar) then none
  else readServer scheme (server.reverse.takeWhile (· != '@')).reverse

end Proxy

/-! ## Exemptions -/

/-- The width of a host's address in bits, and the address. -/
def Host.bits? : Host → Option (Nat × Nat)
  | .name _ => none
  | .ipv4 n => some (32, n)
  | .ipv6 groups => some (128, groups.foldl (fun acc n => acc * 0x10000 + n) 0)

namespace Exemption

/-- The address of a text. -/
def address? (cs : List Char) : Option (Nat × Nat) :=
  ((Ipv4.strict? cs).map Host.ipv4 <|> (Ipv6.parse? cs).map Host.ipv6).bind Host.bits?

/-- Addresses in one text: one of them, or those that agree in so many bits. -/
def network? (cs : List Char) : Option Exemption := do
  let (address, fixed) := cutAt (· == '/') cs
  let (width, n) ← address? address
  match fixed with
  | none => return .network width n width
  | some digits =>
    let fixed ← Ipv4.digits? 10 digits
    if digits.isEmpty || 3 < digits.length || width < fixed then none
    else return .network width n fixed

/-- What one part of a list exempts. -/
def parse? (cs : List Char) : Option Exemption :=
  let cs := trimBy isBlank cs
  match network? cs with
  | some e => some e
  | none => if cs.isEmpty then none else some (.domain (String.ofList cs))

/-- What the parts of a list exempt, with commas between them. -/
def parseAll (text : String) : List Exemption :=
  (pieces (· == ',') text.toList).filterMap parse?

/-- A name is the domain or lies below it. A point in front of the domain does not count, and a star
covers all names. -/
def coversName (domain name : List Char) : Bool :=
  let domain := domain.map Char.toLower
  let name := name.map Char.toLower
  let bare := if domain.head? == some '.' then domain.drop 1 else domain
  domain == ['*'] || name == bare || name == domain || ('.' :: bare).isSuffixOf name

/-- The host is reached without a proxy. -/
def covers (e : Exemption) (host : Host) : Bool :=
  match e, host with
  | .network width n fixed, host =>
    host.bits?.any fun (w, m) => w == width && m >>> (width - fixed) == n >>> (width - fixed)
  | .domain zone, .name text => coversName zone.toList text.toList
  | .domain _, _ => false

end Exemption

/-! ## Choosing -/

namespace Proxies

/-- The proxy for the requests of a scheme to a host. -/
def choose (p : Proxies) (scheme : String) (host : Host) : Option Proxy :=
  if p.exempt.any (·.covers host) then none
  else if scheme == "http" then p.plain
  else if scheme == "https" then p.secure
  else none

/-- The value of the first variable that is set. -/
def firstSet (environment : List (String × String)) (names : List String) : String :=
  (names.findSome? fun name => environment.lookup name).getD ""

/-- The proxies that variables name. A program that answers requests itself has none, as then a
variable may come from the request. -/
def ofEnvironment (environment : List (String × String)) : Proxies :=
  if (environment.lookup "REQUEST_METHOD").isSome then {}
  else
    let first := firstSet environment
    let all := Proxy.parse? (first ["ALL_PROXY", "all_proxy"])
    { plain := (Proxy.parse? (first ["HTTP_PROXY", "http_proxy"])).orElse fun _ => all
      secure := (Proxy.parse? (first ["HTTPS_PROXY", "https_proxy"])).orElse fun _ => all
      exempt := Exemption.parseAll (first ["NO_PROXY", "no_proxy"]) }

end Proxies

end SchemaGen.Web
