import SchemaGen.Json.Fault
import SchemaGen.Web.Credentials

/-! Requests and responses. A server answers a request with a status and a text, unless the exchange
breaks: no connection is made, or what comes back is no response. -/

namespace SchemaGen.Web

set_option autoImplicit false

/-! ## Requests -/

inductive Method where
  | get | post
  deriving DecidableEq, Repr

def Method.name : Method → String
  | .get => "GET"
  | .post => "POST"

structure Request where
  method : Method
  url : Url
  authorization : Option String
  body : String
  deriving DecidableEq, Repr

/-- How the program names itself in every request. -/
def Request.agent : String := "pocketbase-zod/0.1.0"

/-! ## Responses -/

structure Response where
  status : Nat
  body : String
  deriving DecidableEq, Repr

namespace Response

def isSuccess (r : Response) : Bool := 200 ≤ r.status && r.status < 300

/-- The bytes after the head. Three statuses have none, whatever is sent. -/
def content (r : Response) : String :=
  if r.status = 101 || r.status = 204 || r.status = 304 then "" else r.body

/-- The content as text, without a byte order mark. -/
def text (r : Response) : String :=
  match r.content.toList with
  | '\ufeff' :: rest => String.ofList rest
  | _ => r.content

end Response

/-! ## Broken exchanges -/

/-- Why no connection is made. -/
inductive ConnectError where
  | refused
  /-- The name of the host is not known. -/
  | unnamed
  /-- The server takes no secure connection. -/
  | insecure
  /-- Connections are not made in this way. -/
  | unsupported (scheme : String)
  deriving DecidableEq, Repr

/-- Why there is no way through a proxy. -/
inductive TunnelError where
  | connect (cause : ConnectError)
  | ended
  | unauthorized
  | unsuccessful
  deriving DecidableEq, Repr

/-- Why what comes back is no response. -/
inductive ResponseError where
  | invalidStatus
  | invalidVersion
  | closed
  deriving DecidableEq, Repr

inductive Breach where
  | connect (cause : ConnectError)
  | tunnel (cause : TunnelError)
  | response (cause : ResponseError)
  deriving DecidableEq, Repr

/-- Answers a request, unless the exchange breaks. -/
abbrev Server := Request → Except Breach Response

/-- A response as it is received. A status has three digits. One that only announces another is
passed over, so that its content stands where a response should. -/
def Response.receive (r : Response) : Except ResponseError Response :=
  if r.status < 100 || 999 < r.status then .error .invalidStatus
  else if r.status < 200 && r.status ≠ 101 then
    .error (if r.body = "" then .closed else .invalidVersion)
  else .ok r

/-! ## Failures -/

inductive HttpError where
  | address (cause : UrlError)
  /-- An address that requests are not sent to. -/
  | foreign (url : Url)
  /-- A header cannot hold the text meant for it. -/
  | header
  /-- A request cannot hold the address. -/
  | unwritable (url : Url)
  | broken (url : Url) (cause : Breach)
  /-- The content is not what was asked for. -/
  | content (url : Url) (cause : Json.ReadError)
  deriving DecidableEq, Repr

/-! ## Wording -/

def ConnectError.message : ConnectError → String
  | .refused => "tcp connect error: Connection refused (os error 111)"
  | .unnamed =>
    "dns error: failed to lookup address information: Temporary failure in name resolution"
  | .insecure => "tls handshake eof"
  | .unsupported scheme => "unsupported scheme " ++ scheme

def TunnelError.message : TunnelError → String
  | .connect cause => "failed to create underlying connection: " ++ cause.message
  | .ended => "unexpected end of file"
  | .unauthorized => "proxy authorization required"
  | .unsuccessful => "unsuccessful"

def ResponseError.message : ResponseError → String
  | .invalidStatus => "invalid HTTP status-code parsed"
  | .invalidVersion => "invalid HTTP version parsed"
  | .closed => "connection closed before message completed"

def Breach.message : Breach → String
  | .connect cause => "client error (Connect): " ++ cause.message
  | .tunnel cause => "client error (Connect): tunnel error: " ++ cause.message
  | .response cause => "client error (SendRequest): " ++ cause.message

namespace HttpError

def message : HttpError → String
  | .address _ | .header => "builder error"
  | .foreign url | .unwritable url => "builder error for url (" ++ url.render ++ ")"
  | .broken url _ => "error sending request for url (" ++ url.render ++ ")"
  | .content url _ => "error decoding response body for url (" ++ url.render ++ ")"

/-- What lies behind the failure. -/
def cause : HttpError → String
  | .address cause => cause.message
  | .foreign _ => "URL scheme is not allowed"
  | .header => "failed to parse header value"
  | .unwritable _ => "Parsed Url is not a valid Uri"
  | .broken _ cause => cause.message
  | .content _ cause => cause.message

end HttpError

/-! ## Preparing -/

/-- A character that a header can hold. -/
def isHeaderChar (c : Char) : Bool := c == '\t' || (0x20 ≤ c.toNat && c.toNat != 0x7F)

/-- The text of a header as it arrives, without blanks at its ends. -/
def headerText (s : String) : String :=
  let isEdge (c : Char) : Bool := c == ' ' || c == '\t'
  String.ofList (((s.toList.dropWhile isEdge).reverse.dropWhile isEdge).reverse)

/-- The most bytes of an address in a request. -/
def maxAddressBytes : Nat := 65534

/-- A request can hold the address. Its host may have characters that stand for themselves there,
but not in a request. -/
def isWritable (u : Url) : Bool :=
  u.render.utf8ByteSize ≤ maxAddressBytes &&
    !((u.host?.map Host.render).getD "").toList.any fun c =>
      c == '"' || c == '\x60' || c == '\x7b' || c == '\x7d'

/-- The request for an address, unless it cannot be made. Credentials in the address stand in for an
authorization. -/
def prepare (method : Method) (address : String) (authorization : Option String)
    (body : String) : Except HttpError Request := do
  let whole ← (Url.parse address).mapError .address
  if whole.host?.isNone then throw (.foreign whole)
  let (credentials, url) := Credentials.extract whole
  if !(authorization.getD "").toList.all isHeaderChar then throw .header
  if !url.isWeb then throw (.foreign url)
  if !isWritable url then throw (.unwritable url)
  return {
    method, url, body
    authorization := (authorization.map headerText).orElse fun _ => credentials }

end SchemaGen.Web
