import SchemaGen.CommandLine.Options
import SchemaGen.Config.Basic
import SchemaGen.Source.Basic

/-! What a command line and a configuration ask for together: the source, the output, and whether
the source is noted in it. Options win over the configuration, which fills in what they leave out.
-/

namespace SchemaGen.CommandLine

set_option autoImplicit false

open SchemaGen.Config

/-- Why there is no source. -/
inductive PlanError where
  | missingSource
  | missingCredentials (url : String)
  deriving DecidableEq, Repr

def PlanError.message : PlanError → String
  | .missingSource =>
    "missing schema source: pass --db, --json or --url, or set PB_TYPEGEN_URL " ++
      "(with --env to read it from a .env file)"
  | .missingCredentials url =>
    "missing credentials for " ++ url ++ ": pass --token, or --email with --password " ++
      "(or set PB_TYPEGEN_TOKEN / PB_TYPEGEN_EMAIL and PB_TYPEGEN_PASSWORD)"

/-- The value of an option unless it is absent or empty, and else the one configured. -/
def overlay (value : Option String) (configured : String) : String :=
  (value.filter (· != "")).getD configured

/-- The settings of the server under the options. -/
def remoteSettings (o : Options) (r : Remote) : Remote where
  url := overlay (o.value? .url) r.url
  token := overlay (o.value? .token) r.token
  email := overlay (o.value? .email) r.email
  password := overlay (o.value? .password) r.password

/-- A server with its credentials. A token wins over a password. -/
def remoteSource (r : Remote) : Except PlanError Source :=
  if !r.isConfigured then .error .missingSource
  else if r.hasToken then .ok (.token r.url r.token)
  else if r.hasPassword then .ok (.password r.url r.email r.password)
  else .error (.missingCredentials r.url)

/-- The source: a database, else an export, else a server. -/
def source (o : Options) (c : Config) : Except PlanError Source :=
  match o.value? .db, o.value? .json with
  | some path, _ => .ok (.database path)
  | none, some path => .ok (.exported path)
  | none, none => remoteSource (remoteSettings o c.remote)

/-- The path of the output. -/
def outputPath (o : Options) (c : Config) : String := (o.value? .out).getD c.output.path

/-- Remote sources are always noted. -/
def wantsProvenance (o : Options) (c : Config) (s : Source) : Bool :=
  s.isRemote || o.isSet .provenance || c.output.provenance

end SchemaGen.CommandLine
