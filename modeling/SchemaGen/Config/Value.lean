import SchemaGen.Decimal.Shortest
import SchemaGen.Entries
import SchemaGen.Schema.Mismatch
import SchemaGen.Text.Quoted

/-! Values of settings. Each carries the layer that it comes from, for messages. Layers are merged
table by table: what a later layer says of a key wins, and tables under one key are merged in turn.
-/

namespace SchemaGen.Config

set_option autoImplicit false

/-! ## Layers -/

/-- Where a setting was made. -/
inductive Origin where
  | builtin
  | file (path : String)
  | environment
  deriving DecidableEq, Repr

namespace Origin

def describe : Origin → String
  | .builtin => "built-in defaults"
  | .file path => path ++ " TOML file"
  | .environment => "`PB_TYPEGEN_` environment variable(s)"

/-- A key of several parts as the layer spells it. -/
def spell (origin : Origin) (key : List String) : String :=
  match origin with
  | .environment => ".".intercalate (key.map String.toUpper)
  | .builtin | .file _ => ".".intercalate ("default" :: key)

end Origin

/-! ## Values -/

inductive Scalar where
  | bool (b : Bool)
  /-- An integer without a sign of its own. -/
  | unsigned (n : Nat)
  | signed (n : Int)
  | real (d : Decimal.Double)
  | text (s : String)
  deriving DecidableEq, Repr

inductive Value where
  | scalar (origin : Origin) (s : Scalar)
  | list (origin : Origin) (items : List Value)
  | table (origin : Origin) (entries : List (String × Value))
  deriving Repr

namespace Value

def origin : Value → Origin
  | .scalar o _ | .list o _ | .table o _ => o

/-- A value under a key of several parts. -/
def nest (origin : Origin) (value : Value) : List String → Value
  | [] => value
  | key :: rest => .table origin [(key, nest origin value rest)]

/-! ## Merging -/

mutual

/-- The upper value over the lower one. -/
def merge (lower upper : Value) : Value :=
  match upper with
  | .table o upper =>
    match lower with
    | .table _ lower => .table o (mergeEntries lower upper)
    | _ => .table o upper
  | upper => upper

/-- Entries over lower ones, key by key. -/
def mergeEntries (lower : List (String × Value)) : List (String × Value) → List (String × Value)
  | [] => lower
  | (key, value) :: rest =>
    let merged := match lower.lookup key with
      | some below => merge below value
      | none => value
    mergeEntries (Entries.insert key merged lower) rest

end

/-! ## Wording -/

def describe : Value → String
  | .scalar _ (.bool b) => "bool " ++ (if b then "true" else "false")
  | .scalar _ (.unsigned n) => "unsigned int `" ++ toString n ++ "`"
  | .scalar _ (.signed n) => "signed int `" ++ toString n ++ "`"
  | .scalar _ (.real d) => "float `" ++ Decimal.Format.plain.render d ++ "`"
  | .scalar _ (.text s) => "string " ++ Text.quoted s
  | .list _ _ => "sequence"
  | .table _ _ => "map"

end Value

/-! ## Reading -/

/-- A value of the wrong type under a key. -/
structure SettingError where
  key : List String
  found : Value
  wanted : Schema.Wanted
  deriving Repr

namespace SettingError

/-- The same error inside a value that stands under a key. -/
def under (key : String) (e : SettingError) : SettingError := { e with key := key :: e.key }

def message (e : SettingError) : String :=
  "invalid type: found " ++ e.found.describe ++ ", expected " ++ e.wanted.describe ++
    " for key \"" ++ e.found.origin.spell e.key ++ "\" in " ++ e.found.origin.describe

end SettingError

namespace Value

def readText : Value → Except SettingError String
  | .scalar _ (.text s) => .ok s
  | v => .error ⟨[], v, .text⟩

def readBool : Value → Except SettingError Bool
  | .scalar _ (.bool b) => .ok b
  | v => .error ⟨[], v, .boolean⟩

end Value

/-- A record of settings: its name, its defaults, and its members in their order, each with the
reading of its value into the record. -/
structure Form (ρ : Type) where
  name : String
  initial : ρ
  members : List (String × (ρ → Value → Except SettingError ρ))

namespace Form

variable {ρ : Type}

/-- One entry of a table. Keys that are no members do not count. -/
def readEntry (form : Form ρ) (r : ρ) (entry : String × Value) : Except SettingError ρ :=
  match form.members.lookup entry.1 with
  | some read => (read r entry.2).mapError (·.under entry.1)
  | none => .ok r

/-- The items of a list, member by member, as long as both last. -/
def readItems : List (String × (ρ → Value → Except SettingError ρ)) → Nat → ρ → List Value →
    Except SettingError ρ
  | (_, read) :: members, place, r, item :: items => do
    let r ← (read r item).mapError (·.under (toString place))
    readItems members (place + 1) r items
  | _, _, r, _ => .ok r

/-- A record from a table, or from a list of its members. -/
def read (form : Form ρ) : Value → Except SettingError ρ
  | .table _ entries => entries.foldlM form.readEntry form.initial
  | .list _ items => readItems form.members 0 form.initial items
  | v => .error ⟨[], v, .record form.name⟩

end Form

/-- A member whose value is put into the record by `set`. -/
def setting {ρ α : Type} (key : String) (value : Value → Except SettingError α)
    (set : ρ → α → ρ) : String × (ρ → Value → Except SettingError ρ) :=
  (key, fun r v => (value v).map (set r))

end SchemaGen.Config
