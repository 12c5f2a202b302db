import SchemaGen.Schema.Collection
import SchemaGen.Json.Writer
import SchemaGen.Zod.Validator

/-! The declarations of one collection: a constant for each select field that has members, the
record schema, the response schema that adds the system fields, and the types of both. -/

namespace SchemaGen.Zod

set_option autoImplicit false

open SchemaGen.Schema

/-! ## Declarations -/

inductive Declaration where
  /-- A constant that lists texts. -/
  | options (name : String) (members : List String)
  /-- An object schema with its field lines. -/
  | object (name : String) (lines : List String)
  /-- A schema extended by another. -/
  | merged (name base extension : String)
  /-- The type of a schema. -/
  | inferred (name schema : String)
  deriving DecidableEq, Repr

namespace Declaration

def render : Declaration → String
  | .options name members =>
    "export const " ++ name ++ " = " ++ (Json.ofTexts members).compact ++ " as const;"
  | .object name lines =>
    "export const " ++ name ++ " = z.object(\x7b\n" ++ "\n".intercalate lines ++ "\n\x7d);"
  | .merged name base extension =>
    "export const " ++ name ++ " = " ++ base ++ ".merge(" ++ extension ++ ");"
  | .inferred name schema => "export type " ++ name ++ " = z.infer<typeof " ++ schema ++ ">;"

/-- The name that is declared. -/
def name : Declaration → String
  | .options name _ | .object name _ | .merged name _ _ | .inferred name _ => name

/-- Declares a type and no value. -/
def isType : Declaration → Bool
  | .inferred .. => true
  | _ => false

end Declaration

/-- Declarations with an empty line between them. -/
def renderAll (declarations : List Declaration) : String :=
  "\n\n".intercalate (declarations.map Declaration.render)

/-! ## Constants -/

/-- A select field with at least one member. -/
def hasOptions (field : Field) : Bool := field.kind = .select && !field.members.isEmpty

/-- Each value at its first place. -/
def firstOccurrences (values : List String) : List String :=
  (values.foldl (fun seen v => if seen.contains v then seen else v :: seen) []).reverse

/-- The constant of a select field. -/
def optionsOf (collection : String) (field : Field) : Declaration :=
  .options (Naming.optionsName collection field.name) (firstOccurrences field.members)

/-- The constants of the select fields that have members, in the order of the fields. -/
def optionDeclarations (collection : String) (fields : List Field) : List Declaration :=
  (fields.filter hasOptions).map (optionsOf collection)

/-! ## Blocks -/

/-- The lines of the record schema, in the order of their text. -/
def recordLines (s : Settings) (collection : String) (fields : List Field) : List String :=
  (fields.map (fieldLine s collection)).mergeSort fun a b => decide (a ≤ b)

/-- All declarations of a collection. -/
def declarations (s : Settings) (collection : String) (kind : CollectionKind)
    (fields : List Field) : List Declaration :=
  let title := Naming.identifier collection
  let recordSchema := title ++ "RecordSchema"
  let responseSchema := title ++ "ResponseSchema"
  optionDeclarations collection fields ++ [
    .object recordSchema (recordLines s collection fields),
    .merged responseSchema recordSchema (s.systemSchema kind),
    .inferred (title ++ "Record") recordSchema,
    .inferred (title ++ "Response") responseSchema]

/-- The declarations of a collection that has a name and a field list. -/
def block? (s : Settings) (c : Collection) : Option (List Declaration) :=
  if c.wellFormed then some (declarations s c.name c.kind (c.fields.getD [])) else none

/-! ## Warnings -/

/-- One warning for each field that has the name of an earlier one. -/
def duplicateWarnings (collection : String) (seen : List String) : List Field → List Warning
  | [] => []
  | field :: rest =>
    if seen.contains field.name then
      .duplicateField collection field.name :: duplicateWarnings collection seen rest
    else duplicateWarnings collection (field.name :: seen) rest

/-- The warnings of a collection: repeated names, then unknown kinds. -/
def blockWarnings (c : Collection) : List Warning :=
  if c.wellFormed then
    let fields := c.fields.getD []
    duplicateWarnings c.name [] fields ++ fields.filterMap (kindWarning? c.name)
  else []

end SchemaGen.Zod
