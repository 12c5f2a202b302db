import SchemaGen.Schema.Field

/-! Collections and their two readings from JSON. The strict one takes a collection as a record. The
lenient one takes what servers of several versions send: an object whose name and type count only
if they are text, and whose field list stands under `fields` or under `schema`. -/

namespace SchemaGen.Schema

set_option autoImplicit false

/-! ## Type -/

structure Collection where
  name : String := ""
  kind : CollectionKind := .base
  fields : Option (List Field) := none
  deriving DecidableEq, Repr

/-- Has a name and a field list. -/
def Collection.wellFormed (c : Collection) : Bool := c.name != "" && c.fields.isSome

/-! ## Errors -/

/-- Why a value is no list of collections. -/
inductive SchemaError where
  | notAnArray
  | entryNotAnObject
  /-- The table has neither of the columns that can hold field lists. -/
  | noFieldColumn
  | value (cause : Mismatch)
  deriving Repr

/-- The text of the cause inside an error, where it has one. -/
def SchemaError.cause? : SchemaError → Option String
  | .value cause => some cause.message
  | _ => none

def SchemaError.message : SchemaError → String
  | .notAnArray => "Invalid schema document: expected a JSON array of collections"
  | .entryNotAnObject => "Invalid schema document: collection entry is not a JSON object"
  | .noFieldColumn =>
    "Invalid schema document: _collections table has neither a `fields` nor a `schema` column"
  | .value cause => "JSON error: " ++ cause.message

/-! ## Strict reading -/

def Collection.shape : Shape Collection where
  name := "CollectionDescriptor"
  initial := {}
  members := [
    member "name" readText fun r v => { r with name := v },
    member "type" readText fun r v => { r with kind := CollectionKind.ofTag v },
    member "fields" (readOption (readList Field.shape.read)) fun r v => { r with fields := v }]

/-! ## Lenient reading -/

/-- The value that holds the field list, if one is there that is not null. -/
def fieldListOf (value : Json) : Option Json :=
  (value.present? "fields").orElse fun _ => value.present? "schema"

/-- One collection. -/
def Collection.ofJson (value : Json) : Except SchemaError Collection :=
  match value with
  | .object _ =>
    let name := ((value.get? "name").bind Json.text?).getD ""
    let kind := ((value.get? "type").bind Json.text?).elim .base CollectionKind.ofTag
    match fieldListOf value with
    | none => .ok { name, kind }
    | some list =>
      match readList Field.shape.read list with
      | .ok fields => .ok { name, kind, fields := some fields }
      | .error cause => .error (.value cause)
  | _ => .error .entryNotAnObject

/-- A list of collections. The first entry that cannot be read gives the error. -/
def collectionsOfJson : Json → Except SchemaError (List Collection)
  | .array items => items.mapM Collection.ofJson
  | _ => .error .notAnArray

/-! ## Writing -/

def Collection.toJson (c : Collection) : Json :=
  .ofEntries ([("name", .string c.name), ("type", .string c.kind.tag)] ++
    optionalEntry "fields" (fun fields => .array (fields.map Field.toJson)) c.fields)

end SchemaGen.Schema
