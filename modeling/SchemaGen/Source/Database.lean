import SchemaGen.Files.Tree
import SchemaGen.Source.Attempt
import SchemaGen.Text.Blank

/-! Collections in a database: one row each in the table `_collections`, with the field list as JSON
text. Older tables name that column `schema`, and some have no column for the type. -/

namespace SchemaGen.Source.Database

set_option autoImplicit false

open SchemaGen.Schema

/-! ## Columns -/

/-- Names in a database are told apart without regard to the case of ASCII letters. -/
def sameName (a b : String) : Bool := a.toLower == b.toLower

/-- The place of a column. -/
def columnOf (columns : List String) (name : String) : Option Nat :=
  columns.findIdx? (sameName name)

/-- The column of the field lists, and whether there is one for types. -/
structure Layout where
  fieldColumn : String
  hasType : Bool
  deriving DecidableEq, Repr

/-- The layout of a table with the given columns. -/
def Layout.of? (columns : List String) : Option Layout :=
  let hasType := (columnOf columns "type").isSome
  if (columnOf columns "fields").isSome then some ⟨"fields", hasType⟩
  else if (columnOf columns "schema").isSome then some ⟨"schema", hasType⟩
  else none

/-! ## Rows -/

/-- The text of a cell, which ends at the first zero. Nothing but text and null may stand in it; a
string of no bytes is as good as null. -/
def cellText : Cell → Attempt (Option String)
  | .null | .bytes 0 => pure none
  | .text s => pure (some (String.ofList (s.toList.takeWhile (· != '\x00'))))
  | .number | .bytes _ => .abort

/-- The cell of a row in a column. -/
def cellAt (row : List Cell) (column : Nat) : Cell := (row[column]?).getD .null

/-- The value of a field list's text. A blank one is as good as none. -/
def fieldValue : Option String → Except SourceError Json
  | none => .ok .null
  | some text =>
    if Text.allBlank text then .ok .null else (Json.parse text).mapError .text

/-- The collection object of a row. -/
def rowValue (name kind : Option String) (fields : Json) : Json :=
  .ofEntries [("name", .string (name.getD "")), ("type", .string (kind.getD "")),
    ("fields", fields)]

/-- The collection of a row. All its cells are looked at before any of them is read. -/
def readRow (nameColumn : Nat) (kindColumn : Option Nat) (fieldColumn : Nat) (row : List Cell) :
    Attempt Collection := do
  let name ← cellText (cellAt row nameColumn)
  let kind ← cellText (kindColumn.elim (.text "base") (cellAt row))
  let fields ← cellText (cellAt row fieldColumn)
  let value ← .ofExcept (fieldValue fields)
  .ofExcept ((Collection.ofJson (rowValue name kind value)).mapError .schema)

/-! ## Tables -/

/-- The name of the table of collections. -/
def tableName : String := "_collections"

/-- The columns and rows of the table of collections; none where there is no such table. -/
def collectionTable (table : Option Table) : List String × List (List Cell) :=
  match table with
  | some t => if sameName t.name tableName then (t.columns, t.rows) else ([], [])
  | none => ([], [])

/-- The collections of a database. -/
def readTable (table : Option Table) : Attempt (List Collection) := do
  let (columns, rows) := collectionTable table
  match Layout.of? columns with
  | none => .fail (.schema .noFieldColumn)
  | some layout =>
    .notify (.readingTable layout.fieldColumn layout.hasType)
    match columnOf columns "name", columnOf columns layout.fieldColumn with
    | some name, some fields => rows.mapM (readRow name (columnOf columns "type") fields)
    | _, _ => .fail (.database .noNameColumn)

/-- The collections of a file. An empty file is a database without tables. -/
def readContent (content : Files.Content) : Attempt (List Collection) :=
  match content with
  | .database table => readTable table
  | content =>
    if content.text? = some "" then readTable none else .fail (.database .notADatabase)

/-! ## Places -/

/-- The content of the file that a place means. One that is made is empty. -/
def contentAt (tree : Files.Tree) (cwd : Files.Place) :
    Location → Except OpenFault Files.Content
  | .memory => .ok (.database none)
  | .file path access =>
    match tree.find cwd path with
    | .ok (.file content) => .ok content
    | .error .notFound =>
      if access = .create && (tree.target cwd path).isOk then .ok (.database none)
      else .error .missing
    | _ => .error .missing

/-- The collections of the database that a path means. -/
def readPath (tree : Files.Tree) (cwd : Files.Place) (path : String) :
    Attempt (List Collection) :=
  match locate path >>= contentAt tree cwd with
  | .ok content => readContent content
  | .error fault => .fail (.database (.unopened path fault))

end SchemaGen.Source.Database
