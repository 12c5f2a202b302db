/-! Tables as a database holds them. -/

namespace SchemaGen.Source

set_option autoImplicit false

/-- What stands in one cell. Of byte strings only the length is looked at. -/
inductive Cell where
  | null
  | text (s : String)
  | number
  | bytes (length : Nat)
  deriving DecidableEq, Repr

/-- A table with its columns, and its rows in their order. -/
structure Table where
  name : String
  columns : List String
  rows : List (List Cell)
  deriving DecidableEq, Repr

end SchemaGen.Source
