import SchemaGen.CommandLine.Help
import SchemaGen.CommandLine.Plan
import SchemaGen.Config.Load
import SchemaGen.Notice.Filter
import SchemaGen.Source.Reading
import SchemaGen.Web.Network
import SchemaGen.Zod.Document

/-! A run of the program: from the command line and the world around it to the files that it leaves,
what it prints and tells, and how it ends. -/

namespace SchemaGen

set_option autoImplicit false

open SchemaGen.Config SchemaGen.CommandLine SchemaGen.Schema

/-! ## The world -/

/-- What a run meets: files, its directory, variables, a network and the time. -/
structure World where
  tree : Files.Tree
  cwd : Files.Place
  environment : Dotenv.Environment
  network : Web.Network
  now : Time.Instant

/-! ## Failures -/

inductive Failure where
  | usage (cause : UsageError)
  | environment (cause : ConfigError)
  | configuration (cause : ConfigError)
  | plan (cause : PlanError)
  | source (described : String) (cause : Source.SourceError)
  /-- The run is broken off. -/
  | aborted
  | output (cause : Files.WriteError)
  deriving Repr

namespace Failure

/-- The failure and the causes behind it, nearest first. -/
def chain : Failure → List String
  | .usage cause => [cause.message]
  | .environment cause => "failed to load .env" :: cause.message :: cause.cause?.toList
  | .configuration cause =>
    "failed to load configuration" :: cause.message :: cause.cause?.toList
  | .plan cause => [cause.message]
  | .source described cause =>
    ("failed to read schema from " ++ described) :: cause.message :: cause.causes
  | .aborted => ["the run was broken off"]
  | .output cause => [cause.message]

/-- One line for a failure. -/
def message (f : Failure) : String := ": ".intercalate f.chain

/-- What is told of a failure on the stream for errors. A request for help is answered elsewhere. -/
def report? : Failure → Option String
  | .usage cause => if cause.isAnswer then none else some cause.message
  | f => some ("pbz error: " ++ f.message)

/-- The exit code of a failed run. -/
def exitCode : Failure → Nat
  | .usage cause => if cause.isAnswer then 0 else 2
  | .aborted => 101
  | _ => 1

end Failure

/-! ## Preparing -/

/-- What is to be done. -/
structure Task where
  source : Source
  output : String
  /-- The source and the time are noted in the output. -/
  provenance : Bool
  deriving DecidableEq, Repr

/-- The task that options and a configuration give. -/
def taskOf (o : Options) (c : Config) : Except Failure Task := do
  let source ← (CommandLine.source o c).mapError .plan
  return ⟨source, outputPath o c, wantsProvenance o c source⟩

/-- The variables with those of the file that an option names, and the notice of it. -/
def wholeEnvironment (w : World) (o : Options) :
    Except Failure (Dotenv.Environment × List Notice) :=
  match o.value? .env with
  | none => .ok (w.environment, [])
  | some path =>
    match loadEnvironment w.tree w.cwd path w.environment with
    | .error (.dotenv (.unfit _)) => .error .aborted
    | .error e => .error (.environment e)
    | .ok (environment, some file) => .ok (environment, [.loadedEnvFile file])
    | .ok (environment, none) => .ok (environment, [.noEnvFile path])

/-- The task of a run under the variables that hold. -/
def prepare (w : World) (o : Options) (environment : Dotenv.Environment) : Except Failure Task := do
  let c ← (Config.load w.tree w.cwd environment).mapError .configuration
  taskOf o c

/-! ## Working -/

/-- How a run ends. -/
structure Outcome where
  tree : Files.Tree
  failure : Option Failure := none
  printed : String := ""
  /-- What arrived at servers. -/
  arrivals : List Web.Message := []
  notices : List Notice := []

/-- The note of origin that a task asks for. -/
def Task.note? (t : Task) (now : Time.Instant) : Option Zod.Provenance :=
  if t.provenance then some ⟨t.source.describe, now⟩ else none

/-- The line that is printed when all is done. -/
def successLine (output : String) : String := "Created Zod schemas at " ++ output ++ "\n"

/-- Generates the module of the collections and writes it. -/
def publish (w : World) (o : Options) (t : Task) (collections : List Collection) : Outcome :=
  let g := Zod.generate {} collections (t.note? w.now)
  let told := Notice.loaded collections.length t.source.describe ::
    g.warnings.map .warning ++ [.generated collections.length g.rendered]
  match w.tree.writeDocument w.cwd t.output g.document with
  | (tree, .error e) => { tree, failure := some (.output e), notices := told }
  | (tree, .ok ()) =>
    { tree
      printed := if o.isSet .quiet then "" else successLine t.output
      notices := told ++ [.wrote t.output g.document.utf8ByteSize] }

/-- Reads the collections of a task and publishes them. -/
def work (w : World) (o : Options) (proxies : Web.Proxies) (t : Task) : Outcome :=
  let attempt := Source.read w.tree w.cwd (w.network.server proxies) t.source
  let outcome : Outcome := match attempt.result with
    | .error (.failed e) => { tree := w.tree, failure := some (.source t.source.describe e) }
    | .error .aborted => { tree := w.tree, failure := some .aborted }
    | .ok collections => publish w o t collections
  { outcome with
    arrivals := w.network.arrivals proxies attempt.requests
    notices := attempt.notices ++ outcome.notices }

/-- A run under options. -/
def runWith (w : World) (o : Options) : Outcome :=
  match wholeEnvironment w o with
  | .error e => { tree := w.tree, failure := some e }
  | .ok (environment, told) =>
    let outcome : Outcome := match prepare w o environment with
      | .error e => { tree := w.tree, failure := some e }
      | .ok t => work w o (.ofEnvironment environment) t
    { outcome with notices := told ++ outcome.notices }

/-- A run under a command line. -/
def run (w : World) (args : List String) : Outcome :=
  match CommandLine.read args with
  | .ok o => runWith w o
  | .error e =>
    { tree := w.tree
      failure := some (.usage e)
      printed := if e.isAnswer then e.message else "" }

/-! ## What is seen of it -/

/-- The exit code. -/
def Outcome.exitCode (r : Outcome) : Nat := r.failure.elim 0 Failure.exitCode

/-- The level up to which notices are told, unless the environment says otherwise. -/
def defaultLevel (o : Options) : Level :=
  if o.isSet .quiet then .error else if o.isSet .verbose then .debug else .warn

/-- The filter of a run. A variable wins over the options, if it holds rules. -/
def filterOf (w : World) (args : List String) : Notice.Filter :=
  let level := match CommandLine.read args with
    | .ok o => defaultLevel o
    | .error _ => .warn
  ((w.environment.lookup "PBZ_LOG").bind Notice.Filter.parse?).getD (.upTo level)

/-- The lines that tell of a run. -/
def Outcome.lines (r : Outcome) (filter : Notice.Filter) : List String :=
  (r.notices.filter filter.admits).map Notice.line

end SchemaGen
