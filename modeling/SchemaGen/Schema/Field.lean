import SchemaGen.Schema.Kind
import SchemaGen.Schema.Record

/-! Fields of collections. A field carries its members and its cap itself, or in an options record
as older servers write it; what counts is the direct value unless it is empty or zero. -/

namespace SchemaGen.Schema

set_option autoImplicit false

/-! ## Types -/

structure FieldOptions where
  values : Option (List String) := none
  maxSelect : Option UInt32 := none
  deriving DecidableEq, Repr

structure Field where
  name : String := ""
  kind : FieldKind := .unknown ""
  required : Bool := false
  values : Option (List String) := none
  maxSelect : Option UInt32 := none
  options : Option FieldOptions := none
  deriving DecidableEq, Repr

namespace Field

/-- A field of a name and the kind of a tag, with nothing else set. -/
def ofTag (name tag : String) : Field := { name, kind := FieldKind.ofTag tag }

/-! ## What counts -/

/-- The members: the direct ones if there are any, else those of the options. -/
def members (field : Field) : List String :=
  match field.values with
  | some (v :: vs) => v :: vs
  | _ => (field.options.bind (·.values)).getD []

/-- The cap: the direct one unless it is zero, else that of the options. -/
def cap (field : Field) : Option UInt32 :=
  match field.maxSelect.filter (· != 0) with
  | some n => some n
  | none => field.options.bind (·.maxSelect)

/-- More than one value can be chosen. -/
def isMulti (field : Field) : Bool := field.cap.any (1 < ·)

/-! ## Two shapes -/

/-- The same field with members and cap written directly. -/
def direct (field : Field) : Field :=
  { field with values := some field.members, maxSelect := field.cap, options := none }

/-- The same field with members and cap written as options. -/
def legacy (field : Field) : Field :=
  { field with
    values := none, maxSelect := none,
    options := some { values := some field.members, maxSelect := field.cap } }

end Field

/-! ## Reading -/

def FieldOptions.shape : Shape FieldOptions where
  name := "FieldOptions"
  initial := {}
  members := [
    member "values" (readOption (readList readText)) fun r v => { r with values := v },
    member "maxSelect" (readOption readCount) fun r v => { r with maxSelect := v }]

def Field.shape : Shape Field where
  name := "FieldDescriptor"
  initial := {}
  members := [
    member "name" readText fun r v => { r with name := v },
    member "type" readText fun r v => { r with kind := FieldKind.ofTag v },
    member "required" readBool fun r v => { r with required := v },
    member "values" (readOption (readList readText)) fun r v => { r with values := v },
    member "maxSelect" (readOption readCount) fun r v => { r with maxSelect := v },
    member "options" (readOption FieldOptions.shape.read) fun r v => { r with options := v }]

/-! ## Writing -/

/-- An entry that is written only if it has a value. -/
def optionalEntry {α : Type} (key : String) (write : α → Json) (value : Option α) :
    List (String × Json) :=
  match value with
  | some v => [(key, write v)]
  | none => []

/-- A count as a number. -/
def writeCount (n : UInt32) : Json := .number (.natural n.toNat)

def FieldOptions.toJson (options : FieldOptions) : Json :=
  .ofEntries (optionalEntry "values" Json.ofTexts options.values ++
    optionalEntry "maxSelect" writeCount options.maxSelect)

def Field.toJson (field : Field) : Json :=
  .ofEntries ([("name", .string field.name), ("type", .string field.kind.tag),
      ("required", .bool field.required)] ++
    optionalEntry "values" Json.ofTexts field.values ++
    optionalEntry "maxSelect" writeCount field.maxSelect ++
    optionalEntry "options" FieldOptions.toJson field.options)

end SchemaGen.Schema
