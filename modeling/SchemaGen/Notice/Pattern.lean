import SchemaGen.Text.Alphanumeric
import SchemaGen.Text.Hexadecimal

/-! Patterns for the values of parts. A value that is asked for is a truth value, a number or a
pattern, and a text that is none of them cannot be asked for. Braces do not stand in patterns, since
one closes the list of parts, so a repetition has no count. -/

namespace SchemaGen.Notice.Pattern

set_option autoImplicit false

open SchemaGen.Text

/-! ## Escapes -/

/-- What stands for one character or for none. -/
inductive Item where
  | literal (c : Char)
  | kind
  /-- A place between characters. -/
  | place
  deriving DecidableEq, Repr

/-- The character of so many digits. -/
def hexLiteral? (digits : Nat) (cs : List Char) : Option (Item × Nat) :=
  if cs.length < digits then none
  else (hexChar? (cs.take digits)).map fun c => (.literal c, digits + 1)

/-- What stands behind a backslash, and how many characters that are. Limits of words are no places
here. -/
def escapeOf? : List Char → Option (Item × Nat)
  | [] => none
  | 'x' :: rest => hexLiteral? 2 rest
  | 'u' :: rest => hexLiteral? 4 rest
  | 'U' :: rest => hexLiteral? 8 rest
  | c :: rest =>
    if c = 'p' || c = 'P' then
      if rest.head?.any fun k => "LMNPSZC".toList.contains k.toUpper then some (.kind, 2) else none
    else if "dDsSwW".toList.contains c then some (.kind, 1)
    else if c = 'A' || c = 'z' then some (.place, 1)
    else
      match [('a', '\x07'), ('f', '\x0c'), ('t', '\t'), ('n', '\n'), ('r', '\r'),
          ('v', '\x0b')].lookup c with
      | some d => some (.literal d, 1)
      | none =>
        if c.toNat < 0x80 && !c.isAlphanum && c != '<' && c != '>' then some (.literal c, 1)
        else none

/-! ## Groups -/

/-- The name of a group. -/
def isGroupName (name : List Char) : Bool :=
  (name.head?.any fun c => c == '_' || (isAlphanumeric c && !c.isDigit)) &&
    name.all fun c => c == '_' || c == '.' || c == '[' || c == ']' || isAlphanumeric c

/-- Letters that change how the pattern is read, each once, the ones behind a dash undone. -/
def areFlags (flags : List Char) : Bool :=
  flags.all (fun c => (flags.filter (· == c)).length = 1 && "imsuxUR-".toList.contains c) &&
    flags.getLast? != some '-'

/-- The name of a group up to the sign that closes it. -/
def namedGroup? (mark : Nat) (cs : List Char) : Option (Bool × Nat) :=
  let name := cs.takeWhile (· != '>')
  if name.length < cs.length && isGroupName name then some (true, mark + name.length + 1) else none

/-- What stands behind a bracket before the content of a group: whether a group opens at all, and
how many characters that are. -/
def groupHead? : List Char → Option (Bool × Nat)
  | '?' :: 'P' :: '<' :: rest => namedGroup? 3 rest
  | '?' :: '<' :: rest => namedGroup? 2 rest
  | '?' :: rest =>
    let flags := rest.takeWhile fun c => c != ':' && c != ')'
    if !areFlags flags then none
    else
      match rest[flags.length]? with
      | some ':' => some (true, flags.length + 2)
      | some _ => if flags.isEmpty then none else some (false, flags.length + 2)
      | none => none
  | _ => some (true, 0)

/-! ## Classes -/

/-- The names of classes. -/
def classNames : List String :=
  ["alnum", "alpha", "ascii", "blank", "cntrl", "digit", "graph", "lower", "print", "punct",
    "space", "upper", "word", "xdigit"]

/-- The length of a named class behind its bracket. -/
def namedClass? : List Char → Option Nat
  | ':' :: rest =>
    let named := if rest.head? == some '^' then rest.drop 1 else rest
    let name := named.takeWhile (· != ':')
    if classNames.contains (String.ofList name) && [':', ']'].isPrefixOf (named.drop name.length)
    then some (rest.length - named.length + name.length + 3) else none
  | _ => none

/-- How far a pattern is read: outside classes, or in so many nested ones. -/
inductive Mode where
  | body
  | opened (depth : Nat)
  /-- Dashes may follow that stand for themselves, and a first bracket. -/
  | leading (depth : Nat) (isEmpty : Bool)
  | items (depth : Nat) (last : Option Item)
  /-- Behind the dash of a range. -/
  | upTo (depth : Nat) (first : Item)
  deriving DecidableEq, Repr

structure State where
  groups : Nat := 0
  /-- There is something to repeat. -/
  operand : Bool := false
  mode : Mode := .body
  /-- Characters that are read already. -/
  skip : Nat := 0
  deriving DecidableEq, Repr

/-- The range from one item to another. -/
def isRange : Item → Item → Bool
  | .literal a, .literal b => a ≤ b
  | _, _ => false

/-- An item of a class, which may be followed by characters that are read already. -/
def addItem (s : State) (depth : Nat) (item : Item) (skip : Nat) : Option State :=
  if item = .place then none else some { s with mode := .items depth (some item), skip }

/-- A character among the items of a class. -/
def stepItems (s : State) (depth : Nat) (last : Option Item) (c : Char) (rest : List Char) :
    Option State :=
  let next := rest.head?
  match c with
  | ']' =>
    if depth = 1 then some { s with mode := .body, operand := true }
    else some { s with mode := .items (depth - 1) none }
  | '[' =>
    match namedClass? rest with
    | some n => some { s with mode := .items depth none, skip := n }
    | none => some { s with mode := .opened (depth + 1) }
  | '\\' => (escapeOf? rest).bind fun (item, n) => addItem s depth item n
  | c =>
    if (c == '-' || c == '&' || c == '~') && next == some c then
      some { s with mode := .items depth none, skip := 1 }
    else
      match c, last with
      | '-', some first =>
        if next == some ']' then addItem s depth (.literal c) 0
        else some { s with mode := .upTo depth first }
      | c, _ => addItem s depth (.literal c) 0

/-- The end of a range. -/
def stepRange (s : State) (depth : Nat) (first : Item) (c : Char) (rest : List Char) :
    Option State := do
  let (item, skip) ← if c = '\\' then escapeOf? rest else some (.literal c, 0)
  if isRange first item then some { s with mode := .items depth none, skip } else none

/-- A character behind the bracket of a class. -/
def stepLeading (s : State) (depth : Nat) (isEmpty : Bool) (c : Char) (rest : List Char) :
    Option State :=
  if c = '-' then some { s with mode := .leading depth false }
  else if isEmpty && c = ']' then some { s with mode := .items depth none }
  else stepItems s depth none c rest

/-! ## Patterns -/

/-- A character outside classes. -/
def stepBody (s : State) (c : Char) (rest : List Char) : Option State :=
  match c with
  | '(' =>
    (groupHead? rest).map fun (opens, skip) =>
      { s with groups := if opens then s.groups + 1 else s.groups, operand := false, skip }
  | ')' => if s.groups = 0 then none else some { s with groups := s.groups - 1, operand := true }
  | '|' => some { s with operand := false }
  | '*' | '+' | '?' => if s.operand then some s else none
  | '\x7b' => none
  | '[' => some { s with mode := .opened 1 }
  | '\\' => (escapeOf? rest).map fun (_, skip) => { s with operand := true, skip }
  | _ => some { s with operand := true }

/-- One character, with those that follow it. -/
def step (s : State) (c : Char) (rest : List Char) : Option State :=
  if 0 < s.skip then some { s with skip := s.skip - 1 }
  else
    match s.mode with
    | .body => stepBody s c rest
    | .opened depth =>
      if c = '^' then some { s with mode := .leading depth true }
      else stepLeading s depth true c rest
    | .leading depth isEmpty => stepLeading s depth isEmpty c rest
    | .items depth last => stepItems s depth last c rest
    | .upTo depth first => stepRange s depth first c rest

/-- The text goes on as a pattern to its end. -/
def accepts (s : State) : List Char → Bool
  | [] => s.groups = 0 && s.mode = .body
  | c :: rest =>
    match step s c rest with
    | some s => accepts s rest
    | none => false

/-! ## Values -/

/-- A number behind its sign. -/
def isNumeral (cs : List Char) : Bool :=
  let whole := cs.takeWhile Char.isDigit
  let rest := cs.dropWhile Char.isDigit
  let fraction := if rest.head? == some '.' then (rest.drop 1).takeWhile Char.isDigit else []
  let rest := if rest.head? == some '.' then (rest.drop 1).dropWhile Char.isDigit else rest
  ["inf", "infinity", "nan"].contains (String.ofList (cs.map Char.toLower)) ||
    (!(whole ++ fraction).isEmpty &&
      match rest with
      | [] => true
      | mark :: rest =>
        let digits := if rest.head?.any fun c => c == '+' || c == '-' then rest.drop 1 else rest
        (mark == 'e' || mark == 'E') && !digits.isEmpty && digits.all Char.isDigit)

/-- A value can be asked for. Other numbers and truth values are patterns as well. -/
def isValue : List Char → Bool
  | '+' :: rest => isNumeral rest
  | cs => accepts {} cs

end SchemaGen.Notice.Pattern
