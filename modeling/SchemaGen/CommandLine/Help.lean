import SchemaGen.CommandLine.Reader

/-! What the program says of itself when it is asked, and of a command line that it cannot use. -/

namespace SchemaGen.CommandLine

set_option autoImplicit false

def versionText : String := "pbz 0.1.0\n"

/-- The purpose of an option that takes a value. -/
def Valued.purpose : Valued → String
  | .db => "SQLite database of the server"
  | .json => "JSON export of the collections"
  | .url => "address of a running server"
  | .token => "token for --url"
  | .email => "email for --url"
  | .password => "password for --url"
  | .env => "file of variables, or the directory of one, to read first"
  | .out => "output file"

/-- The purpose of a flag. -/
def Flag.purpose : Flag → String
  | .provenance => "note the source and the time for local sources too"
  | .quiet => "tell errors only"
  | .verbose => "tell every step"

/-- The line of an option. -/
def helpLine (letter : Option Char) (name purpose : String) : String :=
  "  " ++ (match letter with | some c => "-" ++ String.singleton c ++ ", " | none => "    ") ++
    "--" ++ name ++ "  " ++ purpose ++ "\n"

def helpText : String :=
  "Generate Zod schemas from a PocketBase collection schema\n\nOptions:\n" ++
    String.join (Valued.all.map fun v => helpLine v.letter? v.name v.purpose) ++
    String.join (Flag.all.map fun f => helpLine f.letter? f.name f.purpose)

namespace UsageError

/-- Help and the version are answers, all else is an error. -/
def isAnswer : UsageError → Bool
  | .help | .version => true
  | _ => false

def message : UsageError → String
  | .unknownArgument => "error: unexpected argument\n"
  | .tooManyValues => "error: a flag takes no value\n"
  | .invalidValue => "error: a value is missing or empty\n"
  | .argumentConflict => "error: options that exclude each other, or one given twice\n"
  | .help => helpText
  | .version => versionText

end UsageError

end SchemaGen.CommandLine
