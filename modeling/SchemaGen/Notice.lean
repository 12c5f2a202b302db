import SchemaGen.Zod.Validator
import SchemaGen.Text.Quoted

/-! Notices of a run: what happened, at which level, in which part of the program, and the line that
tells it. -/

namespace SchemaGen

set_option autoImplicit false

/-! ## Levels -/

inductive Level where
  | error | warn | info | debug | trace
  deriving DecidableEq, Repr

namespace Level

/-- Greater for what is told less often. -/
def rank : Level → Nat
  | .error => 1
  | .warn => 2
  | .info => 3
  | .debug => 4
  | .trace => 5

def name : Level → String
  | .error => "ERROR"
  | .warn => "WARN"
  | .info => "INFO"
  | .debug => "DEBUG"
  | .trace => "TRACE"

end Level

/-! ## Notices -/

inductive Notice where
  | loadedEnvFile (path : String)
  | noEnvFile (directory : String)
  | fetching (source : String)
  | readingTable (fieldColumn : String) (hasType : Bool)
  | requestFailed (status : Nat) (body : String)
  | tryingSuperusers
  | listed (count : Nat)
  | detailFailed (collection reason : String)
  | loaded (count : Nat) (source : String)
  | warning (w : Zod.Warning)
  | generated (collections rendered : Nat)
  | wrote (path : String) (bytes : Nat)
  deriving DecidableEq, Repr

namespace Notice

def level : Notice → Level
  | .noEnvFile _ | .detailFailed .. | .warning _ => .warn
  | .loaded .. => .info
  | .loadedEnvFile _ | .fetching _ | .readingTable .. | .requestFailed .. | .tryingSuperusers
  | .listed _ | .generated .. | .wrote .. => .debug

/-- The part of the program that a notice comes from. -/
def target : Notice → String
  | .loadedEnvFile _ | .noEnvFile _ | .loaded .. => "pbz"
  | .fetching _ => "pbz_fetch"
  | .readingTable .. => "pbz_fetch::database"
  | .requestFailed .. => "pbz_fetch::http"
  | .tryingSuperusers | .listed _ | .detailFailed .. => "pbz_fetch::remote"
  | .warning (.duplicateField ..) => "pbz_codegen::collection"
  | .warning (.unknownKind ..) => "pbz_codegen::mapping"
  | .generated .. => "pbz_codegen::document"
  | .wrote .. => "pbz::output"

/-- What happened, without its particulars. -/
def subject : Notice → String
  | .loadedEnvFile _ => "loaded .env"
  | .noEnvFile _ => "no .env file found"
  | .fetching _ => "fetching schema"
  | .readingTable .. => "reading _collections"
  | .requestFailed .. => "PocketBase request failed"
  | .tryingSuperusers => "admin auth endpoint missing; trying _superusers"
  | .listed _ => "listed collections"
  | .detailFailed .. => "failed to fetch collection details; using list entry"
  | .loaded .. => "loaded collections"
  | .warning (.duplicateField ..) =>
    "duplicate field name; the generated object literal will repeat the key"
  | .warning (.unknownKind ..) => "unknown field type found in schema; falling back to z.any()"
  | .generated .. => "generated collection schemas"
  | .wrote .. => "wrote output"

/-- The name of the part of a notice that stands without it. -/
def messageName : String := "message"

/-- The particulars with their names. -/
def particulars : Notice → List (String × String)
  | .loadedEnvFile path => [("path", path)]
  | .noEnvFile directory => [("dir", directory)]
  | .fetching source => [("source", source)]
  | .readingTable column hasType =>
    [("columns", "CollectionColumns \x7b fields: " ++ Text.quoted column ++ ", has_type: " ++
      (if hasType then "true" else "false") ++ " \x7d")]
  | .requestFailed status body => [("status", toString status), (messageName, body)]
  | .tryingSuperusers => []
  | .listed count => [("count", toString count)]
  | .detailFailed collection reason => [("collection", collection), ("error", reason)]
  | .loaded count source => [("count", toString count), ("source", source)]
  | .warning (.duplicateField collection field) =>
    [("collection", Text.quoted collection), ("field", field)]
  | .warning (.unknownKind collection field tag) =>
    [("collection", Text.quoted collection), ("field", field), ("field_type", tag)]
  | .generated collections rendered =>
    [("collections", toString collections), ("rendered", toString rendered)]
  | .wrote path bytes => [("path", path), ("bytes", toString bytes)]

/-- The names of the parts of a notice. -/
def partNames (n : Notice) : List String := messageName :: n.particulars.map (·.1)

/-! ## Lines -/

/-- Signs that would change how a terminal shows what follows stand as their numbers. -/
def showSign (c : Char) : List Char :=
  if (['\x07', '\x08', '\x0c', '\x1b', '\x7f'] : List Char).contains c then
    ['\\', 'x'] ++ (if c.toNat < 16 then ['0'] else []) ++ Text.hexDigits c.toNat
  else if 0x80 ≤ c.toNat && c.toNat < 0xA0 then Text.escapeCodePoint c
  else [c]

/-- A message, which may come from elsewhere. -/
def showMessage (s : String) : String := String.ofList (s.toList.flatMap showSign)

/-- A particular with its name, unless that says that it is a message. -/
def showPart (part : String × String) : String :=
  if part.1 = messageName then showMessage part.2 else part.1 ++ "=" ++ part.2

/-- The line of a notice. -/
def line (n : Notice) : String :=
  " ".intercalate
    ((n.level.name ++ " " ++ n.target ++ ": " ++ n.subject) :: n.particulars.map showPart)

end Notice

end SchemaGen
