import SchemaGen.Web.Exchange
import SchemaGen.Web.Proxy

/-! How requests find their server: what listens where, by which way a request goes there, and what
arrives. No server takes a secure connection. -/

namespace SchemaGen.Web

set_option autoImplicit false

/-! ## Messages -/

/-- What arrives at a server. -/
structure Message where
  /-- The first line, without the version. -/
  line : String
  authorization : Option String := none
  agent : Option String := none
  body : String := ""
  deriving DecidableEq, Repr

/-- A request as it arrives, with what it asks for. -/
def Request.message (r : Request) (target : String) : Message where
  line := r.method.name ++ " " ++ target
  authorization := r.authorization
  agent := some Request.agent
  body := r.body

/-! ## Hosts -/

/-- The address of this machine for itself. -/
def Host.loopback : Host := .ipv4 0x7F000001

/-- The address that a host is reached at. No name is known but that of this machine. -/
def Host.address? : Host → Option Host
  | .name text => if text == "localhost" then some .loopback else none
  | address => some address

/-! ## Networks -/

/-- Answers the messages that arrive. -/
abbrev Listener := Message → Response

/-- What listens at an address for a service. -/
abbrev Network := Host → Nat → Option Listener

namespace Network

/-- What happens to a request: the message that arrived, and what came back. -/
abbrev Passage := Option Message × Except Breach Response

/-- What listens to plain connections. -/
def reach (n : Network) (host : Host) (service : Nat) : Except ConnectError Listener :=
  match host.address? with
  | none => .error .unnamed
  | some address =>
    match n address service with
    | none => .error .refused
    | some listener => .ok listener

/-- What listens to secure connections. -/
def reachSecurely (n : Network) (host : Host) (service : Nat) : Except ConnectError Listener :=
  match n.reach host service with
  | .error e => .error e
  | .ok _ => .error .insecure

/-- What listens to connections of a scheme. -/
def reachBy (n : Network) (scheme : String) (host : Host) (service : Nat) :
    Except ConnectError Listener :=
  if scheme == "http" then n.reach host service
  else if scheme == "https" then n.reachSecurely host service
  else .error (.unsupported scheme)

/-- Sends a message over a connection, if there is one. -/
def pass (connection : Except ConnectError Listener) (m : Message) : Passage :=
  match connection with
  | .error e => (none, .error (.connect e))
  | .ok listener => (some m, (listener m).receive.mapError .response)

/-- Asks a proxy for a way through to a server. -/
def tunnel (connection : Except ConnectError Listener) (server : String) : Passage :=
  match connection with
  | .error e => (none, .error (.tunnel (.connect e)))
  | .ok listener =>
    let m : Message := { line := "CONNECT " ++ server, agent := some Request.agent }
    let response := listener m
    (some m, .error (
      if response.status = 407 then .tunnel .unauthorized
      else if response.status ≠ 200 then .tunnel .unsuccessful
      else if response.body = "" then .connect .insecure
      else .tunnel .ended))

/-- Sends a request: to its server, to a proxy in its place, or through a proxy. -/
def send (n : Network) (proxies : Proxies) (r : Request) : Passage :=
  let host := r.url.host?.getD .loopback
  let service := r.url.serviceNumber
  match proxies.choose r.url.scheme host with
  | none => pass (n.reachBy r.url.scheme host service) (r.message r.url.target)
  | some proxy =>
    let connection := n.reachBy proxy.scheme proxy.host proxy.service
    if r.url.scheme == "https" then tunnel connection (host.render ++ ":" ++ toString service)
    else pass connection (r.message { r.url with fragment := none }.render)

/-- The network as a server for all requests. -/
def server (n : Network) (proxies : Proxies) : Server := fun r => (n.send proxies r).2

/-- The messages that arrive of requests. -/
def arrivals (n : Network) (proxies : Proxies) (requests : List Request) : List Message :=
  requests.filterMap fun r => (n.send proxies r).1

end Network

end SchemaGen.Web
