import SchemaGen.Text.Quoted

/-! Where collections are read from: a database file, an export, or a server that is reached with a
token or a password. -/

namespace SchemaGen

set_option autoImplicit false

inductive Source where
  | database (path : String)
  | exported (path : String)
  | token (url token : String)
  | password (url email password : String)
  deriving DecidableEq, Repr

namespace Source

/-- How the source is named to people. -/
def describe : Source → String
  | .database path => "local database: " ++ path
  | .exported path => "local JSON file: " ++ path
  | .token url _ | .password url _ _ => url

def isRemote : Source → Bool
  | .database _ | .exported _ => false
  | .token .. | .password .. => true

/-- How the source is named to developers, without its credentials. -/
def redacted : Source → String
  | .database path => "Database(" ++ Text.quoted path ++ ")"
  | .exported path => "Json(" ++ Text.quoted path ++ ")"
  | .token url _ => "RemoteToken \x7b url: " ++ Text.quoted url ++ ", token: \"<redacted>\" \x7d"
  | .password url email _ =>
    "RemotePassword \x7b url: " ++ Text.quoted url ++ ", email: " ++ Text.quoted email ++
      ", password: \"<redacted>\" \x7d"

end Source

end SchemaGen
