import SchemaGen.Files.OsError
import SchemaGen.Json.Reader
import SchemaGen.Schema.Collection
import SchemaGen.Source.Database.Location
import SchemaGen.Web.Exchange

/-! Why a source gives no collections. -/

namespace SchemaGen.Source

set_option autoImplicit false

inductive DatabaseError where
  | notADatabase
  | noNameColumn
  | unopened (path : String) (fault : Database.OpenFault)
  deriving DecidableEq, Repr

inductive AuthError where
  /-- The server refuses the credentials. -/
  | refused (status : Nat) (body : String)
  | noToken
  deriving DecidableEq, Repr

inductive SourceError where
  | missingFile (path : String)
  | file (cause : Files.OsError)
  | database (cause : DatabaseError)
  | http (cause : Web.HttpError)
  /-- The server answers with a status that is no success. -/
  | status (code : Nat) (body : String)
  | auth (cause : AuthError)
  | schema (cause : Schema.SchemaError)
  | text (cause : Json.ReadError)
  deriving Repr

/-! ## Wording -/

def DatabaseError.message : DatabaseError → String
  | .notADatabase => "SQLite failure: `file is not a database`"
  | .noNameColumn => "SQLite failure: `no such column: name`"
  | .unopened path fault =>
    "Failed to connect to database: `" ++
      (match fault.code? with
        | none => "Unable to open local database " ++ path ++ " with Database::open()"
        | some code =>
          "Unable to open connection to local database " ++ path ++ ": " ++ toString code) ++ "`"

def AuthError.message : AuthError → String
  | .refused status body => toString status ++ ": " ++ body
  | .noToken => "response did not include a token"

namespace SourceError

def message : SourceError → String
  | .missingFile path => "file not found: " ++ path
  | .file cause => "I/O error: " ++ cause.message
  | .database cause => "database error: " ++ cause.message
  | .http cause => "HTTP error: " ++ cause.message
  | .status code body => "API error (" ++ toString code ++ "): " ++ body
  | .auth cause => "authentication failed: " ++ cause.message
  | .schema cause => cause.message
  | .text cause => "JSON error: " ++ cause.message

/-- The causes behind an error, nearest first. -/
def causes : SourceError → List String
  | .missingFile _ | .status .. | .auth _ => []
  | .file cause => [cause.message]
  | .database cause => [cause.message]
  | .http cause => [cause.message, cause.cause]
  | .schema cause => cause.cause?.toList
  | .text cause => [cause.message]

end SourceError

/-! ## Stopping -/

/-- How reading a source ends without collections. -/
inductive Stop where
  | failed (e : SourceError)
  /-- The run is broken off: a cell that must hold text holds something else. -/
  | aborted
  deriving Repr

end SchemaGen.Source
