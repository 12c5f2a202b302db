import SchemaGen.Text.Letters
import SchemaGen.Text.Pieces
import SchemaGen.Text.Casing

/-! Names in generated code. An identifier is made of the words of a name, a word being a maximal
run of letters and digits, each with its first character in upper case. A name that is a single word
keeps the case of the rest; the words of any other name have their rest in lower case. -/

namespace SchemaGen.Naming

set_option autoImplicit false

open SchemaGen.Text

/-! ## Words -/

/-- A word with its first character in upper case and the rest in lower case. -/
def capitalize : List Char → List Char
  | [] => []
  | c :: rest => upperChar c ++ lower rest

/-- The text with its first character in upper case. -/
def upperFirst : List Char → List Char
  | [] => []
  | c :: rest => upperChar c ++ rest

/-! ## Identifiers -/

/-- A single word. -/
def isSingleWord (cs : List Char) : Bool := !cs.isEmpty && cs.all isWord

/-- The identifier of a name as characters. What a case mapping brings in beside letters and digits
is dropped, unless the name is a single word. -/
def identifierChars (cs : List Char) : List Char :=
  if isSingleWord cs then upperFirst cs
  else ((pieces (fun c => !isWord c) cs).flatMap capitalize).filter isWord

/-- The identifier of a name. -/
def identifier (name : String) : String := String.ofList (identifierChars name.toList)

/-- The name of the constant that lists the members of a select field. -/
def optionsName (collection field : String) : String :=
  identifier collection ++ identifier field ++ "Options"

/-! ## Keys -/

/-- The key of a field in an object literal: in quotes if it starts with a digit or holds a hyphen,
else as it is. -/
def propertyKey (name : String) : String :=
  let cs := name.toList
  if (cs.head?.any Char.isDigit) || cs.contains '-' then "\"" ++ name ++ "\"" else name

end SchemaGen.Naming
