import SchemaGen.Schema.Field
import SchemaGen.Naming
import SchemaGen.Zod.Settings

/-! Validators of fields. Each kind of field has an expression; a field that may be left out is
marked optional, and nullable too if it holds JSON. -/

namespace SchemaGen.Zod

set_option autoImplicit false

open SchemaGen.Schema

/-- What is noticed while a collection is rendered. -/
inductive Warning where
  /-- A field has the name of an earlier one. -/
  | duplicateField (collection field : String)
  /-- A field has a kind that has no validator of its own. -/
  | unknownKind (collection field tag : String)
  deriving DecidableEq, Repr

/-! ## Expressions -/

/-- A validator expression. -/
inductive Expr where
  /-- A fixed expression or the name of one. -/
  | term (text : String)
  /-- One of the members of a constant. -/
  | member (constant : String)
  | arrayOf (item : Expr)
  deriving DecidableEq, Repr

def Expr.render : Expr → String
  | .term text => text
  | .member constant => "z.enum(" ++ constant ++ ")"
  | .arrayOf item => "z.array(" ++ item.render ++ ")"

/-- An array if several values can be chosen. -/
def Expr.several (multi : Bool) (item : Expr) : Expr := if multi then .arrayOf item else item

/-- The validator of a field in a collection. A relation is a single record only under a cap of
exactly one. -/
def validator (s : Settings) (collection : String) (field : Field) : Expr :=
  match field.kind with
  | .text | .password => .term "z.string()"
  | .number => .term "z.number()"
  | .bool => .term "z.boolean()"
  | .email => .term "z.string().email()"
  | .url => .term "z.string().url()"
  | .date | .autodate => .term s.isoDateAlias
  | .json => .term "z.any()"
  | .select => .several field.isMulti (.member (Naming.optionsName collection field.name))
  | .file => .several field.isMulti (.term "z.string()")
  | .relation | .user => .several (field.cap != some 1) (.term s.recordIdAlias)
  | .editor => .term s.htmlAlias
  | .unknown _ => .term "z.any()"

/-- The warning that the validator of a field calls for. -/
def kindWarning? (collection : String) (field : Field) : Option Warning :=
  match field.kind with
  | .unknown tag => some (.unknownKind collection field.name tag)
  | _ => none

/-! ## Lines -/

/-- The marks of a field that may be left out. -/
def optionalMarks (field : Field) : String :=
  if field.required then ""
  else if field.kind = .json then ".nullable().optional()"
  else ".optional()"

/-- The line of a field in a record schema. -/
def fieldLine (s : Settings) (collection : String) (field : Field) : String :=
  "\t" ++ Naming.propertyKey field.name ++ ": " ++ (validator s collection field).render ++
    optionalMarks field ++ ","

end SchemaGen.Zod
