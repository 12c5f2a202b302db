import SchemaGen.Schema.Mismatch

/-! Strict reading of JSON values. A record stands as an object, whose unknown keys do not count, or
as an array of its members in their order; what is missing keeps its default. Keys are read in
ascending order, so the first of them with an ill-formed value gives the error. -/

namespace SchemaGen.Schema

set_option autoImplicit false

/-- Reads a value of one type. -/
abbrev Reading (α : Type) := Json → Except Mismatch α

/-! ## Plain values -/

def readText : Reading String
  | .string s => .ok s
  | v => .error (.kind v .text)

def readBool : Reading Bool
  | .bool b => .ok b
  | v => .error (.kind v .boolean)

/-- A natural number below `2 ^ 32`, written as an integer. -/
def readCount : Reading UInt32
  | .number (.natural n) =>
    if n < 0x100000000 then .ok (UInt32.ofNat n) else .error (.range (.natural n) .count)
  | .number (.negative n) => .error (.range (.negative n) .count)
  | v => .error (.kind v .count)

/-- An array with items of one type. -/
def readList {α : Type} (item : Reading α) : Reading (List α)
  | .array items => items.mapM item
  | v => .error (.kind v .sequence)

/-- Null or a value. -/
def readOption {α : Type} (value : Reading α) : Reading (Option α)
  | .null => .ok none
  | v => (value v).map some

/-! ## Records -/

/-- A record: its name, the value that all defaults give, and its members in order, each with the
reading of its value into the record. -/
structure Shape (ρ : Type) where
  name : String
  initial : ρ
  members : List (String × (ρ → Json → Except Mismatch ρ))

namespace Shape

variable {ρ : Type}

/-- One entry of an object. -/
def readEntry (shape : Shape ρ) (r : ρ) (entry : String × Json) : Except Mismatch ρ :=
  match shape.members.lookup entry.1 with
  | some read => read r entry.2
  | none => .ok r

/-- The items of an array, member by member, as long as both last. -/
def readItems : List (String × (ρ → Json → Except Mismatch ρ)) → ρ → List Json → Except Mismatch ρ
  | (_, read) :: members, r, item :: items => do readItems members (← read r item) items
  | _, r, _ => .ok r

/-- A record from an object or an array. -/
def read (shape : Shape ρ) : Reading ρ
  | .object entries => entries.foldlM shape.readEntry shape.initial
  | .array items => do
    let r ← readItems shape.members shape.initial items
    if shape.members.length < items.length then .error (.length items.length) else .ok r
  | v => .error (.kind v (.record shape.name))

end Shape

/-- A member whose value is put into the record by `set`. -/
def member {ρ α : Type} (key : String) (value : Reading α) (set : ρ → α → ρ) :
    String × (ρ → Json → Except Mismatch ρ) :=
  (key, fun r v => (value v).map (set r))

end SchemaGen.Schema
