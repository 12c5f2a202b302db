import SchemaGen.Schema.Kind

/-! The texts and names of a generated module that can be chosen, and the part of it that does not
depend on any collection: alias definitions and the system fields of records. -/

namespace SchemaGen.Zod

set_option autoImplicit false

open SchemaGen.Schema

structure Settings where
  header : String := "/**\n* This file was @generated using pocketbase-typegen\n*/"
  imports : String := "import \x7b z \x7d from 'zod'"
  enumName : String := "Collections"
  aliasComment : String := "// Alias types for improved usability"
  schemasComment : String := "// ===== ZOD SCHEMAS ====="
  recordIdAlias : String := "RecordIdString"
  isoDateAlias : String := "IsoDateString"
  htmlAlias : String := "HTMLString"
  baseSystemSchema : String := "BaseSystemFieldsSchema"
  authSystemSchema : String := "AuthSystemFieldsSchema"
  deriving DecidableEq, Repr

namespace Settings

/-- Definitions of the three aliases, after an empty line. -/
def aliasDefinitions (s : Settings) : String :=
  "\nexport const " ++ s.recordIdAlias ++ " = z.string().length(15)\n" ++
  "export const " ++ s.isoDateAlias ++ " = z.string().datetime()\n" ++
  "export const " ++ s.htmlAlias ++ " = z.string()"

/-- System fields that every record has. -/
def baseSystemFields (s : Settings) : String :=
  "export const " ++ s.baseSystemSchema ++ " = z.object(\x7b\n" ++
  "\tid: " ++ s.recordIdAlias ++ ",\n" ++
  "\tcollectionId: z.string(),\n" ++
  "\tcollectionName: z.string(),\n" ++
  "\tcreated: " ++ s.isoDateAlias ++ ",\n" ++
  "\tupdated: " ++ s.isoDateAlias ++ ",\n" ++
  "\texpand: z.record(z.any()).optional(),\n" ++
  "\x7d)"

/-- System fields of records that can sign in. -/
def authSystemFields (s : Settings) : String :=
  "export const " ++ s.authSystemSchema ++ " = " ++ s.baseSystemSchema ++
  ".merge(z.object(\x7b\n" ++
  "\temail: z.string().email(),\n" ++
  "\temailVisibility: z.boolean(),\n" ++
  "\tusername: z.string(),\n" ++
  "\tverified: z.boolean(),\n" ++
  "\x7d))"

/-- The schema of the system fields of a kind of collection. -/
def systemSchema (s : Settings) : CollectionKind → String
  | .auth => s.authSystemSchema
  | .base | .view => s.baseSystemSchema

end Settings

end SchemaGen.Zod
