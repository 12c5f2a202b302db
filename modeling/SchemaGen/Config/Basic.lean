import SchemaGen.Schema.Record
import SchemaGen.Text.Blank

/-! Configuration: the server that collections are read from, and the file that is written. -/

namespace SchemaGen

set_option autoImplicit false

open SchemaGen.Schema

/-! ## Types -/

/-- A server and the credentials for it. An empty text is a setting left out. -/
structure Config.Remote where
  url : String := ""
  token : String := ""
  email : String := ""
  password : String := ""
  deriving DecidableEq, Repr

structure Config.Output where
  path : String := "pocketbase-zod.ts"
  /-- The source and the time are noted for local sources too. -/
  provenance : Bool := false
  deriving DecidableEq, Repr

structure Config where
  remote : Config.Remote := {}
  output : Config.Output := {}
  deriving DecidableEq, Repr

namespace Config

namespace Remote

def isConfigured (r : Remote) : Bool := r.url != ""

def hasToken (r : Remote) : Bool := r.token != ""

/-- A password counts only beside an email. -/
def hasPassword (r : Remote) : Bool := r.email != "" && r.password != ""

end Remote

/-! ## Validation -/

/-- A setting that would only fail later. -/
inductive InvalidSetting where
  | emptyPath
  | urlScheme (url : String)
  deriving DecidableEq, Repr

def InvalidSetting.message : InvalidSetting → String
  | .emptyPath => "Invalid configuration value for 'output.path': must not be empty"
  | .urlScheme url =>
    "Invalid configuration value for 'remote.url': expected an http:// or https:// URL, got '" ++
      url ++ "'"

/-- The address names the scheme of the web, with or without encryption. -/
def isWebAddress (url : String) : Bool :=
  "http://".toList.isPrefixOf url.toList || "https://".toList.isPrefixOf url.toList

/-- The path of the output is looked at before the address of the server. -/
def invalid? (c : Config) : Option InvalidSetting :=
  if Text.allBlank c.output.path then some .emptyPath
  else if c.remote.url = "" || isWebAddress c.remote.url then none
  else some (.urlScheme c.remote.url)

/-! ## Reading -/

def Remote.shape : Shape Remote where
  name := "RemoteConfig"
  initial := {}
  members := [
    member "url" readText fun r v => { r with url := v },
    member "token" readText fun r v => { r with token := v },
    member "email" readText fun r v => { r with email := v },
    member "password" readText fun r v => { r with password := v }]

def Output.shape : Shape Output where
  name := "OutputConfig"
  initial := {}
  members := [
    member "path" readText fun r v => { r with path := v },
    member "provenance" readBool fun r v => { r with provenance := v }]

def shape : Shape Config where
  name := "TypegenConfig"
  initial := {}
  members := [
    member "remote" Remote.shape.read fun r v => { r with remote := v },
    member "output" Output.shape.read fun r v => { r with output := v }]

end Config

end SchemaGen
