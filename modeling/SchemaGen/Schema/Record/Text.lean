import SchemaGen.Json.Reader
import SchemaGen.Schema.Record

/-! Records from JSON text. A member is checked as soon as it is read, so the first fault in the
text is told, whether it is one of the grammar or of a value. Each member may stand once. -/

namespace SchemaGen.Schema

set_option autoImplicit false

/-- Why a value is not what a reading asks for. -/
def refusal? {α : Type} (reading : Reading α) (v : Json) : Option String :=
  match reading v with
  | .ok _ => none
  | .error e => some e.message

namespace Shape

variable {ρ : Type}

/-- A record is an object or an array. -/
def wholeRefusal? (shape : Shape ρ) (v : Json) : Option String :=
  match v with
  | .object _ | .array _ => none
  | v => some (Mismatch.kind v (.record shape.name)).message

/-- What a text must hold to be read as the record. -/
def outline (shape : Shape ρ) : Json.Reader.Outline where
  whole := shape.wholeRefusal?
  member key := (shape.members.lookup key).map fun read => refusal? (read shape.initial)
  item n := shape.members[n]?.map fun m => refusal? (m.2 shape.initial)
  repeats := false

/-- The record of a text. -/
def ofText (shape : Shape ρ) (text : String) : Except Json.ReadError ρ := do
  let value ← Json.parseOutlined shape.outline text
  (shape.read value).mapError fun e => ⟨.refused e.message, {}⟩

end Shape

end SchemaGen.Schema
