import SchemaGen.Config.Toml.Token

/-! TOML documents: values, tables under headers, and keys of several parts, each of which defines
its tables on the way. A table is defined once: by its header, by keys of several parts, or as a
value. -/

namespace SchemaGen.Config.Toml

set_option autoImplicit false

/-! ## Tables under construction -/

/-- What stands under a key. -/
inductive Node where
  | value (v : Value)
  /-- A table: whether it only lies on the way to others, and whether a key of several parts made
  it. -/
  | table (implied dotted : Bool) (entries : List (String × Node))
  /-- Tables under one header in double brackets, latest first; there is at least one. -/
  | tables (items : List (List (String × Node)))

abbrev Nodes := List (String × Node)

/-- Changes the table at a path, and makes the tables on the way that are missing. The change is
told whether a key of several parts made its table. -/
def changeAt (byKey : Bool) (change : Bool → Nodes → Option Nodes) :
    List String → Bool → Nodes → Option Nodes
  | [], dotted, nodes => change dotted nodes
  | key :: path, _, nodes => do
    let node ← match nodes.lookup key with
      | none => (changeAt byKey change path byKey []).map (.table true byKey)
      | some (.value _) => none
      | some (.tables []) => none
      | some (.tables (last :: before)) =>
        (changeAt byKey change path false last).map fun last => .tables (last :: before)
      | some (.table implied dotted inner) =>
        if byKey && !implied then none
        else (changeAt byKey change path dotted inner).map (.table implied dotted)
    return Entries.replace key node nodes

/-- Puts a value under a key of several parts. -/
def define (path : List String) (value : Value) (nodes : Nodes) : Option Nodes :=
  let way := path.dropLast
  let put (dotted : Bool) (nodes : Nodes) : Option Nodes := do
    let key ← path.getLast?
    if dotted == way.isEmpty || (nodes.lookup key).isSome then none
    else some (nodes ++ [(key, .value value)])
  changeAt true put way false nodes

/-- Starts a table at a path. -/
def startTable (path : List String) (nodes : Nodes) : Option Nodes :=
  let start (_ : Bool) (nodes : Nodes) : Option Nodes := do
    let key ← path.getLast?
    match nodes.lookup key with
    | none => some (nodes ++ [(key, .table false false [])])
    | some (.table true false inner) => some (Entries.replace key (.table false false inner) nodes)
    | some _ => none
  changeAt false start path.dropLast false nodes

/-- Starts another table of those at a path. -/
def startItem (path : List String) (nodes : Nodes) : Option Nodes :=
  let start (_ : Bool) (nodes : Nodes) : Option Nodes := do
    let key ← path.getLast?
    match nodes.lookup key with
    | none => some (nodes ++ [(key, .tables [[]])])
    | some (.tables items) => some (Entries.replace key (.tables ([] :: items)) nodes)
    | some _ => none
  changeAt false start path.dropLast false nodes

/-- Puts a value under a key in the table at a path. -/
def defineAt (path key : List String) (value : Value) (nodes : Nodes) : Option Nodes :=
  changeAt false (fun _ nodes => define key value nodes) path false nodes

mutual

/-- The value that a node stands for. -/
def Node.toValue (origin : Origin) : Node → Value
  | .value v => v
  | .table _ _ entries => .table origin (entryValues origin entries)
  | .tables items => .list origin (itemValues origin items).reverse

def entryValues (origin : Origin) : Nodes → List (String × Value)
  | [] => []
  | (key, node) :: rest => Entries.insert key (node.toValue origin) (entryValues origin rest)

def itemValues (origin : Origin) : List Nodes → List Value
  | [] => []
  | entries :: rest => .table origin (entryValues origin entries) :: itemValues origin rest

end

/-! ## Values -/

mutual

/-- A value, with `depth` levels of arrays and tables left. -/
def value? (origin : Origin) (fuel depth : Nat) (cs : List Char) : Option (Value × List Char) :=
  match fuel, depth, cs with
  | 0, _, _ => none
  | _, 0, '[' :: _ | _, 0, '\x7b' :: _ => none
  | fuel + 1, depth + 1, '[' :: rest => do
    let (items, rest) ← items? origin fuel depth [] rest
    return (.list origin items, rest)
  | fuel + 1, depth + 1, '\x7b' :: rest => do
    let (nodes, rest) ← match skipGap rest with
      | '\x7d' :: rest => some ([], rest)
      | rest => members? origin fuel depth [] rest
    return (.table origin (entryValues origin nodes), rest)
  | _, _, '"' :: _ | _, _, '\'' :: _ =>
    (string? cs).map fun (s, rest) => (.scalar origin (.text s), rest)
  | _, _, cs => word? origin cs

/-- The items of an array up to its bracket; a comma may end them. -/
def items? (origin : Origin) (fuel depth : Nat) (before : List Value) (cs : List Char) :
    Option (List Value × List Char) :=
  match fuel with
  | 0 => none
  | fuel + 1 => do
    match ← skipLines false cs with
    | ']' :: rest => some (before.reverse, rest)
    | cs =>
      let (v, rest) ← value? origin fuel depth cs
      match ← skipLines false rest with
      | ',' :: rest => items? origin fuel depth (v :: before) rest
      | ']' :: rest => some ((v :: before).reverse, rest)
      | _ => none

/-- The members of a table in braces. -/
def members? (origin : Origin) (fuel depth : Nat) (before : Nodes) (cs : List Char) :
    Option (Nodes × List Char) :=
  match fuel with
  | 0 => none
  | fuel + 1 => do
    let (key, rest) ← key? maxParts cs
    let (v, rest) ← value? origin fuel depth (skipGap (← after? '=' rest))
    let nodes ← define key v before
    match skipGap rest with
    | ',' :: rest => members? origin fuel depth nodes rest
    | '\x7d' :: rest => some (nodes, rest)
    | _ => none

end

/-! ## Lines -/

/-- The tables so far, and the path of the header under which keys stand. -/
structure State where
  nodes : Nodes := []
  path : List String := []

/-- A header up to the end of its line. -/
def header? (s : State) (cs : List Char) : Option (State × List Char) :=
  match cs with
  | '[' :: cs => do
    let (path, rest) ← key? maxParts cs
    let rest ← afterLine? (← after? ']' (← after? ']' rest))
    return (⟨← startItem path s.nodes, path⟩, rest)
  | cs => do
    let (path, rest) ← key? maxParts cs
    let rest ← afterLine? (← after? ']' rest)
    return (⟨← startTable path s.nodes, path⟩, rest)

/-- A key and its value up to the end of the line. -/
def member? (origin : Origin) (s : State) (cs : List Char) : Option (State × List Char) := do
  let (key, rest) ← key? maxParts cs
  let (v, rest) ← value? origin (2 * cs.length + 2) maxParts (skipGap (← after? '=' rest))
  return ({ s with nodes := ← defineAt s.path key v s.nodes }, ← afterLine? rest)

/-- The lines of a document. -/
def lines? (origin : Origin) (fuel : Nat) (s : State) (cs : List Char) : Option State :=
  match fuel with
  | 0 => none
  | fuel + 1 =>
    match skipGap cs with
    | [] => some s
    | '[' :: rest => do
      let (s, rest) ← header? s rest
      lines? origin fuel s rest
    | '#' :: _ | '\n' :: _ | '\r' :: _ => do lines? origin fuel s (← afterLine? cs)
    | cs => do
      let (s, rest) ← member? origin s cs
      lines? origin fuel s rest

/-- The text without a byte order mark at its start. -/
def dropMark : List Char → List Char
  | '\ufeff' :: rest => rest
  | cs => cs

/-! ## Wrapped values -/

/-- The key under which a table holds the value that it stands for. -/
def wrappedKey : String := "___figment_value_value"

/-- The key that is kept for the number of a layer, which no document can give. -/
def layerKey : String := "___figment_value_id"

mutual

/-- A value in which each table that wraps another value has given way to it. -/
def unwrap? : Value → Option Value
  | .scalar origin s => some (.scalar origin s)
  | .list origin items => (unwrapItems? items).map (.list origin)
  | .table origin entries => do
    let entries ← unwrapEntries? entries
    if (entries.lookup layerKey).isSome then none
    else some ((entries.lookup wrappedKey).getD (.table origin entries))

def unwrapItems? : List Value → Option (List Value)
  | [] => some []
  | v :: rest => do return (← unwrap? v) :: (← unwrapItems? rest)

def unwrapEntries? : List (String × Value) → Option (List (String × Value))
  | [] => some []
  | (key, v) :: rest => do return (key, ← unwrap? v) :: (← unwrapEntries? rest)

end

/-! ## Documents -/

/-- The table that a document stands for. Its own keys have no special meaning, those of the tables
in it do. -/
def parse? (origin : Origin) (text : String) : Option Value := do
  let s ← lines? origin (text.length + 1) {} (dropMark text.toList)
  return .table origin (← unwrapEntries? (entryValues origin s.nodes))

end SchemaGen.Config.Toml
