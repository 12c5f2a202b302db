import SchemaGen.Json.Basic
import SchemaGen.Decimal.Shortest
import SchemaGen.Text.Quoted

/-! What goes wrong when a JSON value is read as something it is not, and how it is told. -/

namespace SchemaGen.Schema

set_option autoImplicit false

/-! ## Causes -/

/-- What a place in a record asks for. -/
inductive Wanted where
  | text
  | boolean
  /-- A natural number below `2 ^ 32`. -/
  | count
  | sequence
  | record (name : String)
  deriving DecidableEq, Repr

inductive Mismatch where
  /-- A value of another kind. -/
  | kind (found : Json) (wanted : Wanted)
  /-- An integer out of range. -/
  | range (found : JsonNumber) (wanted : Wanted)
  /-- An array with more items than the record has members. -/
  | length (found : Nat)
  deriving Repr

/-! ## Wording -/

def Wanted.describe : Wanted → String
  | .text => "a string"
  | .boolean => "a boolean"
  | .count => "u32"
  | .sequence => "a sequence"
  | .record name => "struct " ++ name

/-- A number as it is shown in messages. -/
def describeNumber : JsonNumber → String
  | .natural n => "integer `" ++ toString n ++ "`"
  | .negative n => "integer `-" ++ toString n ++ "`"
  | .real d => "floating point `" ++ Decimal.Format.document.render d ++ "`"

/-- A value as it is shown in messages. -/
def describeFound : Json → String
  | .null => "null"
  | .bool b => "boolean `" ++ (if b then "true" else "false") ++ "`"
  | .number n => describeNumber n
  | .string s => "string " ++ Text.quoted s
  | .array _ => "sequence"
  | .object _ => "map"

def Mismatch.message : Mismatch → String
  | .kind found wanted =>
    "invalid type: " ++ describeFound found ++ ", expected " ++ wanted.describe
  | .range found wanted =>
    "invalid value: " ++ describeNumber found ++ ", expected " ++ wanted.describe
  | .length found =>
    "invalid length " ++ toString found ++ ", expected fewer elements in array"

end SchemaGen.Schema
