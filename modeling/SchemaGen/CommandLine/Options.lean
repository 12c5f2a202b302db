/-! The options of the command line: those that take a value, and flags. Some have a letter beside
their name. At most one of the local file, the export and the address may be given, and a run is not
both quiet and verbose. -/

namespace SchemaGen.CommandLine

set_option autoImplicit false

/-! ## Kinds -/

/-- An option that takes a value. -/
inductive Valued where
  | db | json | url | token | email | password | env | out
  deriving DecidableEq, Repr

inductive Flag where
  | provenance | quiet | verbose
  deriving DecidableEq, Repr

namespace Valued

def all : List Valued := [.db, .json, .url, .token, .email, .password, .env, .out]

def name : Valued → String
  | .db => "db"
  | .json => "json"
  | .url => "url"
  | .token => "token"
  | .email => "email"
  | .password => "password"
  | .env => "env"
  | .out => "out"

def letter? : Valued → Option Char
  | .db => some 'd'
  | .json => some 'j'
  | .url => some 'u'
  | .token => some 't'
  | .password => some 'p'
  | .out => some 'o'
  | .email | .env => none

/-- The value is a path, which cannot be empty. -/
def isPath : Valued → Bool
  | .db | .json | .env | .out => true
  | .url | .token | .email | .password => false

/-- The value that the option has when it is named without one. -/
def implied? : Valued → Option String
  | .env => some "."
  | _ => none

end Valued

namespace Flag

def all : List Flag := [.provenance, .quiet, .verbose]

def name : Flag → String
  | .provenance => "provenance"
  | .quiet => "quiet"
  | .verbose => "verbose"

def letter? : Flag → Option Char
  | .provenance => none
  | .quiet => some 'q'
  | .verbose => some 'v'

end Flag

/-! ## Options given -/

/-- The values and flags of a command line. -/
structure Options where
  value? : Valued → Option String := fun _ => none
  isSet : Flag → Bool := fun _ => false

namespace Options

/-- The same options with a value for one of them. -/
def setValue (o : Options) (v : Valued) (text : String) : Options :=
  { o with value? := fun w => if w = v then some text else o.value? w }

/-- The same options with one flag set. -/
def setFlag (o : Options) (f : Flag) : Options :=
  { o with isSet := fun g => if g = f then true else o.isSet g }

/-- Options that rule each other out are both given. -/
def conflicting (o : Options) : Bool :=
  let given (v : Valued) : Bool := (o.value? v).isSome
  (given .db && given .json) || (given .db && given .url) || (given .json && given .url) ||
    (o.isSet .quiet && o.isSet .verbose)

end Options

end SchemaGen.CommandLine
