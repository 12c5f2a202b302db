import SchemaGen.Decimal.Double
import SchemaGen.Entries

/-! JSON values. An object holds its entries by ascending key, each key once, so that a repeated key
is answered by its last value. -/

namespace SchemaGen

set_option autoImplicit false

/-- A JSON number: integers that fit a word of 64 bits are exact, all others are doubles. -/
inductive JsonNumber where
  | natural (n : Nat)
  /-- The integer `-n`, for a positive `n`. -/
  | negative (n : Nat)
  | real (d : Decimal.Double)
  deriving DecidableEq, Repr

inductive Json where
  | null
  | bool (b : Bool)
  | number (n : JsonNumber)
  | string (s : String)
  | array (items : List Json)
  | object (entries : List (String × Json))
  deriving Repr, Inhabited

namespace Json

/-! ## Entries -/

/-- An object of the given entries. -/
def ofEntries (written : List (String × Json)) : Json := .object (Entries.ofWritten written)

/-- An array of texts. -/
def ofTexts (texts : List String) : Json := .array (texts.map .string)

/-! ## Access -/

/-- The value of an object under a key. -/
def get? (key : String) : Json → Option Json
  | .object entries => entries.lookup key
  | _ => none

def isNull : Json → Bool
  | .null => true
  | _ => false

def text? : Json → Option String
  | .string s => some s
  | _ => none

/-- A value that is there and is not null. -/
def present? (key : String) (value : Json) : Option Json :=
  (value.get? key).filter fun v => !v.isNull

end Json

end SchemaGen
