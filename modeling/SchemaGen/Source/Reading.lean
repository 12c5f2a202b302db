import SchemaGen.Files.Tree
import SchemaGen.Source.Basic
import SchemaGen.Source.Database
import SchemaGen.Source.Remote

/-! Reading a source of any kind. -/

namespace SchemaGen.Source

set_option autoImplicit false

open SchemaGen.Files SchemaGen.Schema

/-- The collections of an export file. -/
def readExport (tree : Tree) (cwd : Place) (path : String) : Except SourceError (List Collection) :=
  match tree.readText cwd path with
  | .ok text => parseExport text
  | .error .notFound => .error (.missingFile path)
  | .error e => .error (.file e)

/-- The collections of a database. There must be a file at the path, whatever place the path means
as that of a database. -/
def readDatabase (tree : Tree) (cwd : Place) (path : String) : Attempt (List Collection) :=
  if tree.isFile cwd path then Database.readPath tree cwd path else .fail (.missingFile path)

/-- The collections of a source. -/
def read (tree : Tree) (cwd : Place) (server : Web.Server) (source : Source) :
    Attempt (List Collection) := do
  .notify (.fetching source.describe)
  match source with
  | .database path => readDatabase tree cwd path
  | .exported path => .ofExcept (readExport tree cwd path)
  | .token url granted => Remote.listCollections server (Remote.baseAddress url) granted
  | .password url email secret => do
    let base := Remote.baseAddress url
    let granted ← Remote.signIn server base email secret
    Remote.listCollections server base granted

end SchemaGen.Source
