/-! Kinds of fields and of collections, named by their tags. Tags are told apart by case. A tag that
is no known field kind is kept; one that is no known collection kind stands for a base collection.
-/

namespace SchemaGen.Schema

set_option autoImplicit false

/-! ## Fields -/

inductive FieldKind where
  | text | password | number | bool | email | url | date | autodate | json | select | file
  | relation | user | editor
  | unknown (tag : String)
  deriving DecidableEq, Repr

namespace FieldKind

/-- The known kinds with their tags. -/
def known : List (String × FieldKind) := [
  ("text", .text), ("password", .password), ("number", .number), ("bool", .bool),
  ("email", .email), ("url", .url), ("date", .date), ("autodate", .autodate), ("json", .json),
  ("select", .select), ("file", .file), ("relation", .relation), ("user", .user),
  ("editor", .editor)]

/-- The kind of a tag. -/
def ofTag (tag : String) : FieldKind := (known.lookup tag).getD (.unknown tag)

/-- The tag of a kind. -/
def tag : FieldKind → String
  | .text => "text"
  | .password => "password"
  | .number => "number"
  | .bool => "bool"
  | .email => "email"
  | .url => "url"
  | .date => "date"
  | .autodate => "autodate"
  | .json => "json"
  | .select => "select"
  | .file => "file"
  | .relation => "relation"
  | .user => "user"
  | .editor => "editor"
  | .unknown tag => tag

def isKnown : FieldKind → Bool
  | .unknown _ => false
  | _ => true

theorem tag_ofTag (tag : String) : (ofTag tag).tag = tag := by
  unfold ofTag known
  simp only [List.lookup_cons, List.lookup_nil]
  repeat' split
  all_goals simp_all [FieldKind.tag]

end FieldKind

/-! ## Collections -/

inductive CollectionKind where
  | base | auth | view
  deriving DecidableEq, Repr

namespace CollectionKind

/-- The kind of a tag; base, where the tag is none of the others. -/
def ofTag (tag : String) : CollectionKind :=
  if tag = "auth" then .auth else if tag = "view" then .view else .base

/-- The tag of a kind. -/
def tag : CollectionKind → String
  | .base => "base"
  | .auth => "auth"
  | .view => "view"

theorem ofTag_tag (kind : CollectionKind) : ofTag kind.tag = kind := by
  cases kind <;> decide

end CollectionKind

end SchemaGen.Schema
