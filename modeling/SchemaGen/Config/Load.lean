import SchemaGen.Config.Basic
import SchemaGen.Config.Dotenv
import SchemaGen.Config.Literal
import SchemaGen.Config.Toml.Document

/-! Loading a configuration. Of four layers the later wins, setting by setting: the defaults, the
file of the user, the file of the project, and the environment. -/

namespace SchemaGen.Config

set_option autoImplicit false

open SchemaGen.Files

/-! ## Errors -/

inductive ConfigError where
  /-- A file is no TOML. -/
  | notToml (path : String)
  | unreadable (path : String) (cause : OsError)
  | setting (cause : SettingError)
  | dotenv (cause : Dotenv.DotenvError)
  | invalid (cause : InvalidSetting)
  deriving Repr

namespace ConfigError

/-- What lies behind an error, told once more after it. -/
def cause? : ConfigError → Option String
  | .notToml path => some ("the text is not TOML in " ++ (Origin.file path).describe)
  | .unreadable path cause => some (cause.message ++ " in " ++ (Origin.file path).describe)
  | .setting cause => some cause.message
  | .dotenv cause => some cause.message
  | .invalid _ => none

def message (e : ConfigError) : String :=
  match e with
  | .invalid cause => cause.message
  | .dotenv cause => "Failed to load .env file: " ++ cause.message
  | .notToml _ | .unreadable .. | .setting _ => "Configuration error: " ++ e.cause?.getD ""

end ConfigError

/-! ## The layer of defaults -/

/-- A configuration as a layer. -/
def toValue (c : Config) : Value :=
  let text (s : String) : Value := .scalar .builtin (.text s)
  .table .builtin [
    ("output", .table .builtin [
      ("path", text c.output.path),
      ("provenance", .scalar .builtin (.bool c.output.provenance))]),
    ("remote", .table .builtin [
      ("email", text c.remote.email),
      ("password", text c.remote.password),
      ("token", text c.remote.token),
      ("url", text c.remote.url)])]

/-! ## The layers of files -/

/-- The file of the project, beside which the program is run. -/
def projectFile : String := "pocketbase-zod.toml"

/-- The file of the user, in the directory for configurations or in the home directory. -/
def userFile? (environment : Dotenv.Environment) : Option String :=
  let inDirectory (directory : String) : String :=
    Path.child (Path.child directory "pocketbase-zod") "config.toml"
  match environment.lookup "XDG_CONFIG_HOME" with
  | some directory =>
    if Path.isAbsolute directory then some (inDirectory directory) else inHome inDirectory
  | none => inHome inDirectory
where
  inHome (inDirectory : String → String) : Option String :=
    ((environment.lookup "HOME").filter (· != "")).map fun home =>
      inDirectory (Path.child home ".config")

/-- The file that a path means, and its path for people. A path that leads to a directory means the
file of that path above it. -/
def settingsFile? (tree : Tree) (cwd : Place) (path : String) : Option (String × Content) :=
  match tree.find cwd path with
  | .error _ => none
  | .ok _ =>
    if Path.isAbsolute path then
      (tree.file? cwd path).map fun content => (shownPath cwd (plainNames path) path, content)
    else
      (tree.nearestFile? cwd path).map fun (place, content) =>
        (shownPath cwd (place ++ plainNames path) path, content)

/-- The layer of a file, if there is one. -/
def fileLayer (tree : Tree) (cwd : Place) (path : String) : Except ConfigError (Option Value) :=
  match settingsFile? tree cwd path with
  | none => .ok none
  | some (shown, content) =>
    match content.text? with
    | none => .error (.unreadable shown .notText)
    | some text =>
      match Toml.parse? (.file shown) text with
      | some value => .ok (some value)
      | none => .error (.notToml shown)

/-! ## The layer of the environment -/

/-- What the names of settings start with, in either case. -/
def settingMark : List Char := "pb_typegen_".toList

/-- The name of a setting in lower case, without the mark; none for other variables. -/
def settingName? (name : String) : Option (List Char) :=
  let lower := (Text.trimBy Text.isBlank name.toList).map Char.toLower
  if settingMark.isPrefixOf lower then some (lower.drop settingMark.length) else none

/-- Two underscores in a row stand for a point. -/
def pointed : List Char → List Char
  | '_' :: '_' :: rest => '.' :: pointed rest
  | c :: rest => c :: pointed rest
  | [] => []

/-- The parts of the key that a name stands for: of a setting's short name, or of the name itself
without blanks at its ends. -/
def keyOf (name : List Char) : List String :=
  let short := String.ofList name
  if ["url", "token", "email", "password"].contains short then ["remote", short]
  else if short = "out" then ["output", "path"]
  else if short = "provenance" then ["output", "provenance"]
  else (Text.pieces (· == '.') (Text.trimBy Text.isBlank (pointed name))).map String.ofList

/-- The key of a variable that makes a setting. A key with an empty part makes none. -/
def settingKey? (name : String) : Option (List String) :=
  ((settingName? name).map keyOf).filter fun key => key.all (· != "")

/-- The layer of one variable. -/
def variableLayer? (entry : String × String) : Option Value :=
  (settingKey? entry.1).map fun key => Value.nest .environment (Literal.parse entry.2) key

/-- The layer of all variables. -/
def environmentLayer (environment : Dotenv.Environment) : Value :=
  (environment.filterMap variableLayer?).foldl Value.merge (.table .environment [])

/-! ## Extraction -/

def Remote.form : Form Remote where
  name := "RemoteConfig"
  initial := {}
  members := [
    setting "url" Value.readText fun r v => { r with url := v },
    setting "token" Value.readText fun r v => { r with token := v },
    setting "email" Value.readText fun r v => { r with email := v },
    setting "password" Value.readText fun r v => { r with password := v }]

def Output.form : Form Output where
  name := "OutputConfig"
  initial := {}
  members := [
    setting "path" Value.readText fun r v => { r with path := v },
    setting "provenance" Value.readBool fun r v => { r with provenance := v }]

def form : Form Config where
  name := "TypegenConfig"
  initial := {}
  members := [
    setting "remote" Remote.form.read fun r v => { r with remote := v },
    setting "output" Output.form.read fun r v => { r with output := v }]

/-- The layers from the lowest to the highest. -/
def layers (tree : Tree) (cwd : Place) (environment : Dotenv.Environment) :
    Except ConfigError (List Value) := do
  let user ← match userFile? environment with
    | some path => fileLayer tree cwd path
    | none => .ok none
  let project ← fileLayer tree cwd projectFile
  return ({} : Config).toValue :: user.toList ++ project.toList ++ [environmentLayer environment]

/-- One value of all layers. -/
def mergeLayers (values : List Value) : Value :=
  values.foldl Value.merge (.table .builtin [])

/-- The configuration, which may hold what is no valid setting. -/
def extract (tree : Tree) (cwd : Place) (environment : Dotenv.Environment) :
    Except ConfigError Config := do
  let values ← layers tree cwd environment
  (form.read (mergeLayers values)).mapError .setting

/-- The configuration that the files and the environment make. -/
def load (tree : Tree) (cwd : Place) (environment : Dotenv.Environment) :
    Except ConfigError Config := do
  let c ← extract tree cwd environment
  match c.invalid? with
  | some cause => .error (.invalid cause)
  | none => .ok c

/-- The environment with the variables of the file that a path means. -/
def loadEnvironment (tree : Tree) (cwd : Place) (path : String)
    (environment : Dotenv.Environment) :
    Except ConfigError (Dotenv.Environment × Option String) :=
  (Dotenv.load tree cwd path environment).mapError .dotenv

/-- The environment with the variables of the nearest file of variables. -/
def loadNearestEnvironment (tree : Tree) (cwd : Place) (environment : Dotenv.Environment) :
    Except ConfigError (Dotenv.Environment × Option Place) :=
  (Dotenv.loadNearest tree cwd environment).mapError .dotenv

end SchemaGen.Config
