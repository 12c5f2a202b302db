import SchemaGen.Source.Error

/-! Exports of collections as JSON text: an array of collection objects. An object without a field
list counts as one with an empty list. -/

namespace SchemaGen.Source

set_option autoImplicit false

open SchemaGen.Schema

/-- Adds an empty field list to an object that has none under either key. -/
def withFieldList : Json → Json
  | .object entries =>
    if (fieldListOf (.object entries)).isSome then .object entries
    else .object (Entries.insert "fields" (.array []) entries)
  | v => v

/-- The same for each item of an array. -/
def withFieldLists : Json → Json
  | .array items => .array (items.map withFieldList)
  | v => v

/-- The collections of an export. -/
def parseExport (text : String) : Except SourceError (List Collection) :=
  match Json.parse text with
  | .error e => .error (.text e)
  | .ok value => (collectionsOfJson (withFieldLists value)).mapError .schema

end SchemaGen.Source
