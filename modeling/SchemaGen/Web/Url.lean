import SchemaGen.Web.Host
import SchemaGen.Web.Url.Path

/-! Addresses in their normal form: the scheme and the host of a web address in lower case, the
service number left out where the scheme implies it, a path without `.` and `..`, and what is not
allowed in a part percent-encoded. -/

namespace SchemaGen.Web

set_option autoImplicit false

open SchemaGen.Text

/-- Who is asked, and in whose name. -/
structure Authority where
  username : String := ""
  password : Option String := none
  host : Option Host := none
  /-- The number of the service on the host, unless the scheme implies it. -/
  service : Option Nat := none
  deriving DecidableEq, Repr

structure Url where
  scheme : String
  authority : Option Authority
  path : String
  query : Option String
  fragment : Option String
  deriving DecidableEq, Repr

/-- Why a text is no address. -/
inductive UrlError where
  | noScheme
  | host (cause : HostError)
  | invalidService
  deriving DecidableEq, Repr

/-! ## Text -/

namespace Authority

/-- The name and the password, if there is any of them. -/
def userinfo (a : Authority) : String :=
  match a.password with
  | some password => a.username ++ ":" ++ password ++ "@"
  | none => if a.username = "" then "" else a.username ++ "@"

/-- The host and the number of its service. -/
def server (a : Authority) : String :=
  (a.host.map Host.render).getD "" ++
    (match a.service with | some n => ":" ++ toString n | none => "")

def render (a : Authority) : String := a.userinfo ++ a.server

end Authority

namespace Url

/-- Path and query, which a request asks for. -/
def target (u : Url) : String :=
  u.path ++ (match u.query with | some q => "?" ++ q | none => "")

/-- What stands between the scheme and the path. Without a host, a path that starts with two slashes
takes a mark that keeps it from being one. -/
def lead (u : Url) : String :=
  match u.authority with
  | some a => "//" ++ a.render
  | none => if ['/', '/'].isPrefixOf u.path.toList then "/." else ""

def render (u : Url) : String :=
  u.scheme ++ ":" ++ u.lead ++ u.target ++
    (match u.fragment with | some f => "#" ++ f | none => "")

/-! ## Parts -/

def host? (u : Url) : Option Host := u.authority.bind (·.host)

/-- Requests can be sent. -/
def isWeb (u : Url) : Bool := u.scheme == "http" || u.scheme == "https"

/-- The service number that is connected to. -/
def serviceNumber (u : Url) : Nat :=
  ((u.authority.bind (·.service)).orElse fun _ => Scheme.service? u.scheme).getD 0

/-- The address without the name and the password. -/
def anonymous (u : Url) : Url :=
  { u with authority := u.authority.map fun a => { a with username := "", password := none } }

/-! ## Reading -/

/-- Blanks and controls at the ends do not count, nor do tabs and line ends anywhere. -/
def clean (cs : List Char) : List Char :=
  let isEdge (c : Char) : Bool := c.toNat ≤ 0x20
  ((cs.dropWhile isEdge).reverse.dropWhile isEdge).reverse.filter fun c =>
    c != '\t' && c != '\n' && c != '\r'

def isSchemeChar (c : Char) : Bool := c.isAlphanum || c == '+' || c == '-' || c == '.'

/-- The scheme in lower case, and what follows its colon. -/
def splitScheme (cs : List Char) : Option (String × List Char) :=
  match cutAt (· == ':') cs with
  | (c :: scheme, some rest) =>
    if c.isAlpha && scheme.all isSchemeChar then
      some (String.ofList ((c :: scheme).map Char.toLower), rest)
    else none
  | _ => none

/-- The text before the last `@`, if there is one, and the text behind it. -/
def splitUserinfo (cs : List Char) : Option (List Char) × List Char :=
  let server := (cs.reverse.takeWhile (· != '@')).reverse
  if server.length = cs.length then (none, cs)
  else (some (cs.take (cs.length - server.length - 1)), server)

/-- A name, and a password after a colon, encoded. An empty password is none. -/
def readUserinfo (cs : List Char) : Authority :=
  let encode (cs : List Char) : String := String.ofList (percentEncode keptInUserinfo cs)
  let (username, password) := cutAt (· == ':') cs
  { username := encode username, password := (password.filter (· != [])).map encode }

/-- Parts a host from what follows it: at the first colon outside brackets. -/
def splitService (inBrackets : Bool) : List Char → List Char × Option (List Char)
  | [] => ([], none)
  | c :: cs =>
    if c = ':' && !inBrackets then ([], some cs)
    else
      let (host, service) := splitService (c == '[' || (inBrackets && c != ']')) cs
      (c :: host, service)

/-- The number of a service. Nothing there means the one that the scheme implies. Digits end only
where the host does, or at a backslash. -/
def readService (scheme : String) (cs : List Char) : Except UrlError (Option Nat × List Char) :=
  let digits := cs.takeWhile Char.isDigit
  let rest := cs.dropWhile Char.isDigit
  let n := digits.foldl (fun n c => n * 10 + (c.toNat - '0'.toNat)) 0
  if 65535 < n || !(rest.head?.all (· == '\\')) then .error .invalidService
  else if digits.isEmpty || Scheme.service? scheme = some n then .ok (none, rest)
  else .ok (some n, rest)

/-- The host of an address that is no file. Only other addresses than those of the web may do
without one, and then without a name and a service too. -/
def readHost (kind : SchemeKind) (bare : Bool) (cs : List Char) :
    Except UrlError (Option Host) :=
  if cs.isEmpty then
    if kind == .other && bare then .ok none else .error (.host .empty)
  else ((if kind == .other then Host.parseOpaque cs else Host.parse cs).map some).mapError .host

/-- Who is asked, and what is left of the text that names it. An `@` with nothing before it needs
something behind it where more text follows. -/
def readAuthority (scheme : String) (cs : List Char) (more : Bool) :
    Except UrlError (Authority × List Char) := do
  let kind := Scheme.kind scheme
  let (userinfo, server) := splitUserinfo cs
  if userinfo = some [] && server.isEmpty && more then throw (.host .empty)
  let named := (userinfo.map readUserinfo).getD {}
  let (host, service) := splitService false server
  let host ← readHost kind (named.userinfo = "" && service.isNone) host
  let (service, rest) ← readService scheme (service.getD [])
  return ({ named with host, service }, rest)

/-- An address from its parts: query and fragment are still to be parted from the path. -/
def assemble (scheme : String) (authority : Option Authority) (path : List Char → List Char)
    (rest : List Char) : Url :=
  let (beforeFragment, fragment) := cutAt (· == '#') rest
  let (beforeQuery, query) := cutAt (· == '?') beforeFragment
  let keptHere := if Scheme.kind scheme == .other then keptInQuery else keptInWebQuery
  { scheme, authority
    path := String.ofList (path beforeQuery)
    query := query.map fun q => String.ofList (percentEncode keptHere q)
    fragment := fragment.map fun f => String.ofList (percentEncode keptInFragment f) }

/-- What follows the slashes in front of a host. -/
def readServer (scheme : String) (cs : List Char) : Except UrlError Url := do
  let kind := Scheme.kind scheme
  let text := cs.takeWhile fun c => !kind.endsHost c
  let after := cs.dropWhile fun c => !kind.endsHost c
  let (authority, rest) ← readAuthority scheme text (!after.isEmpty)
  let path (cs : List Char) : List Char :=
    if kind == .other && cs.isEmpty then [] else plainPath kind cs
  return assemble scheme (some authority) path (rest ++ after)

/-- An address without a host: a path after a slash, or else text that stands as it is. -/
def readLocal (scheme : String) (cs : List Char) : Url :=
  match cs with
  | '/' :: _ => assemble scheme none (plainPath .other) cs
  | _ => assemble scheme none (percentEncode isPlain) cs

/-- The host of a file, and whether it has been told apart from the path. This machine has no name
there, and a drive is none. -/
def readFileHost (cs : List Char) : Except UrlError (Option Host × Bool) :=
  if isDrive cs then .ok (none, false)
  else if cs.isEmpty then .ok (none, true)
  else
    match Host.parse cs with
    | .error e => .error (.host e)
    | .ok host => .ok (if host = .name "localhost" then none else some host, true)

/-- An address of a file, after two slashes. A path that starts with a drive belongs to no host. -/
def readFileServer (scheme : String) (cs : List Char) : Except UrlError Url := do
  let text := cs.takeWhile fun c => !SchemeKind.file.endsHost c
  let after := cs.dropWhile fun c => !SchemeKind.file.endsHost c
  let (host, isApart) ← readFileHost text
  let rest := if isApart then after else text ++ after
  let path := rest.takeWhile fun c => c != '?' && c != '#'
  let owner := if startsInDrive path then none else host
  return assemble scheme (some { host := owner }) (filePath (isApart && host.isNone)) rest

/-- An address of a file. -/
def readFile (scheme : String) (cs : List Char) : Except UrlError Url :=
  match cs with
  | c :: d :: rest =>
    if SchemeKind.file.isSlash c && SchemeKind.file.isSlash d then readFileServer scheme rest
    else .ok (assemble scheme (some {}) (filePath false) cs)
  | cs => .ok (assemble scheme (some {}) (filePath false) cs)

/-- The address of a text. -/
def parse (text : String) : Except UrlError Url :=
  match splitScheme (clean text.toList) with
  | none => .error .noScheme
  | some (scheme, rest) =>
    match Scheme.kind scheme, rest with
    | .web, rest => readServer scheme (rest.dropWhile SchemeKind.web.isSlash)
    | .file, rest => readFile scheme rest
    | .other, '/' :: '/' :: rest => readServer scheme rest
    | .other, rest => .ok (readLocal scheme rest)

end Url

/-! ## Wording -/

def UrlError.message : UrlError → String
  | .noScheme => "relative URL without a base"
  | .host cause => cause.message
  | .invalidService => "invalid port number"

end SchemaGen.Web
