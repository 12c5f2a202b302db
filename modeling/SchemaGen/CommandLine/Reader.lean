import SchemaGen.CommandLine.Options
import SchemaGen.Text.Pieces

/-! Reading a command line. A name follows two hyphens and may carry its value after `=`; letters
follow one hyphen, the last of them with its value behind it or not. A value that stands alone
belongs to the option before it. An option that was named is settled when the next one comes. -/

namespace SchemaGen.CommandLine

set_option autoImplicit false

/-- Why a command line does not lead to a run. -/
inductive UsageError where
  | unknownArgument
  /-- A flag with a value. -/
  | tooManyValues
  /-- An option without a value, or an empty path. -/
  | invalidValue
  /-- Options that rule each other out, or one given twice. -/
  | argumentConflict
  /-- Help or the version was asked for. -/
  | help
  | version
  deriving DecidableEq, Repr

namespace Reader

/-! ## Names and letters -/

/-- What a name or a letter stands for. -/
inductive Key where
  | valued (v : Valued)
  | flag (f : Flag)
  | help
  | version
  deriving DecidableEq, Repr

def Key.ofName? (name : String) : Option Key :=
  match Valued.all.find? (·.name == name) with
  | some v => some (.valued v)
  | none =>
    match Flag.all.find? (·.name == name) with
    | some f => some (.flag f)
    | none => if name = "help" then some .help else if name = "version" then some .version else none

def Key.ofLetter? (c : Char) : Option Key :=
  match Valued.all.find? (·.letter? == some c) with
  | some v => some (.valued v)
  | none =>
    match Flag.all.find? (·.letter? == some c) with
    | some f => some (.flag f)
    | none => if c = 'h' then some .help else if c = 'V' then some .version else none

/-! ## States -/

/-- The options settled so far, the option named last with its value if it has one already, and
whether `--` has been read, after which no argument is an option. -/
structure State where
  options : Options := {}
  pending : Option (Valued × Option String) := none
  closed : Bool := false

/-- Gives an option a value, or the one it implies. -/
def give (o : Options) (v : Valued) (value : Option String) : Except UsageError Options :=
  match value.orElse fun _ => v.implied? with
  | none => .error .invalidValue
  | some text =>
    if (o.value? v).isSome then .error .argumentConflict
    else if v.isPath && text.isEmpty then .error .invalidValue
    else .ok (o.setValue v text)

/-- Settles the option that was named last. -/
def settle (s : State) : Except UsageError State :=
  match s.pending with
  | none => .ok s
  | some (v, value) => do return { s with options := ← give s.options v value, pending := none }

/-- An option with its value. -/
def takeValued (s : State) (v : Valued) (value : String) : Except UsageError State := do
  let s ← settle s
  return { s with options := ← give s.options v (some value) }

/-- An option whose value may follow. -/
def nameValued (s : State) (v : Valued) : Except UsageError State := do
  return { ← settle s with pending := some (v, none) }

def takeFlag (s : State) (f : Flag) : Except UsageError State := do
  let s ← settle s
  if s.options.isSet f then throw .argumentConflict
  return { s with options := s.options.setFlag f }

/-- A key that takes no value. -/
def takeBare (s : State) : Key → Except UsageError State
  | .valued v => nameValued s v
  | .flag f => takeFlag s f
  | .help => do let _ ← settle s; throw .help
  | .version => do let _ ← settle s; throw .version

/-! ## Arguments -/

/-- What follows two hyphens. -/
def takeLong (s : State) (cs : List Char) : Except UsageError State :=
  let (name, value) := Text.cutAt (· == '=') cs
  match Key.ofName? (String.ofList name), value with
  | none, _ => .error .unknownArgument
  | some (.valued v), some text => takeValued s v (String.ofList text)
  | some _, some _ => .error .tooManyValues
  | some key, none => takeBare s key

/-- What follows one hyphen. -/
def takeLetters (s : State) : List Char → Except UsageError State
  | [] => .ok s
  | c :: rest =>
    match Key.ofLetter? c, rest with
    | none, _ => .error .unknownArgument
    | some (.valued v), '=' :: text => takeValued s v (String.ofList text)
    | some (.valued v), d :: text => takeValued s v (String.ofList (d :: text))
    | some key, rest => do takeLetters (← takeBare s key) rest

/-- An argument that is no option is the value of the option named last, if that has none. -/
def takePlain (s : State) (arg : String) : Except UsageError State :=
  match s.pending with
  | some (v, none) => .ok { s with pending := some (v, some arg) }
  | _ => .error .unknownArgument

/-- One argument. -/
def step (s : State) (arg : String) : Except UsageError State :=
  if s.closed then .error .unknownArgument
  else
    match arg.toList with
    | ['-', '-'] => .ok { s with closed := true }
    | '-' :: '-' :: cs => takeLong s cs
    | '-' :: c :: cs => takeLetters s (c :: cs)
    | _ => takePlain s arg

/-- The end of the arguments. -/
def finish (s : State) : Except UsageError Options := do
  let s ← settle s
  if s.options.conflicting then throw .argumentConflict
  return s.options

end Reader

/-- The options of a command line. -/
def read (args : List String) : Except UsageError Options := do
  Reader.finish (← args.foldlM Reader.step {})

end SchemaGen.CommandLine
