import SchemaGen.Entries
import SchemaGen.Files.Content
import SchemaGen.Files.OsError
import SchemaGen.Files.Path

/-! A tree of files, and the operations on it that a program asks an operating system for. A place
is the list of names from the root down; a path is followed name by name from a directory. -/

namespace SchemaGen.Files

set_option autoImplicit false

/-! ## Trees -/

/-- Names from the root down. -/
abbrev Place := List String

inductive Node where
  | directory
  | file (content : Content)

/-- What stands at places other than the root, which is a directory always. -/
structure Tree where
  nodes : List (Place × Node)

namespace Tree

def empty : Tree := ⟨[]⟩

/-- What stands at a place. -/
def node? (tree : Tree) (place : Place) : Option Node :=
  if place = [] then some .directory else tree.nodes.lookup place

/-- Puts a node at a place, in place of what stood there. -/
def put (tree : Tree) (place : Place) (node : Node) : Tree :=
  ⟨Entries.replace place node tree.nodes⟩

/-- The places that hold files, with their contents. -/
def files (tree : Tree) : List (Place × Content) :=
  tree.nodes.filterMap fun (place, node) =>
    match node with
    | .file content => some (place, content)
    | .directory => none

/-! ## Following paths -/

/-- Bytes of a name, and of a path, that a file system takes. -/
def maxNameBytes : Nat := 255
def maxPathBytes : Nat := 4095

/-- Fails unless a directory stands at the place. -/
def requireDirectory (tree : Tree) (place : Place) : Except OsError Unit :=
  match tree.node? place with
  | some .directory => .ok ()
  | some (.file _) => .error .notDirectory
  | none => .error .notFound

/-- From a directory to the place of a name in it, which may be empty. -/
def enter (tree : Tree) (place : Place) (name : String) : Except OsError Place := do
  tree.requireDirectory place
  if name = "." then return place
  else if name = ".." then return place.dropLast
  else if maxNameBytes < name.utf8ByteSize then throw .nameTooLong
  else return place ++ [name]

/-- Fails on a path that no file system takes. -/
def checkPath (path : String) : Except OsError Unit :=
  if path.toList.contains '\x00' then .error .nulInPath
  else if path = "" then .error .notFound
  else if maxPathBytes < path.utf8ByteSize then .error .nameTooLong
  else .ok ()

/-- Where a path starts. -/
def origin (cwd : Place) (path : String) : Place := if Path.isAbsolute path then [] else cwd

/-- The place that a path leads to from the directory `cwd`. -/
def walk (tree : Tree) (cwd : Place) (path : String) : Except OsError Place := do
  checkPath path
  (Path.names path).foldlM tree.enter (origin cwd path)

/-- What a path leads to. A slash at its end asks for a directory. -/
def find (tree : Tree) (cwd : Place) (path : String) : Except OsError Node := do
  let place ← tree.walk cwd path
  match tree.node? place with
  | none => throw .notFound
  | some .directory => return .directory
  | some (.file content) =>
    if Path.endsInSlash path then throw .notDirectory else return .file content

/-- The path leads to a file. -/
def isFile (tree : Tree) (cwd : Place) (path : String) : Bool :=
  match tree.find cwd path with
  | .ok (.file _) => true
  | _ => false

/-- The path leads to a directory. -/
def isDirectory (tree : Tree) (cwd : Place) (path : String) : Bool :=
  match tree.find cwd path with
  | .ok .directory => true
  | _ => false

/-! ## Reading -/

/-- The content of a file. -/
def read (tree : Tree) (cwd : Place) (path : String) : Except OsError Content := do
  match ← tree.find cwd path with
  | .directory => throw .isDirectory
  | .file content => return content

/-- The text of a file. -/
def readText (tree : Tree) (cwd : Place) (path : String) : Except OsError String := do
  match (← tree.read cwd path).text? with
  | some text => return text
  | none => throw .notText

/-! ## Writing -/

/-- The place of the directory that holds a path's last name, and that name; none where the path
ends in no name of its own. -/
def target (tree : Tree) (cwd : Place) (path : String) :
    Except OsError (Place × Option String) := do
  checkPath path
  let names := Path.names path
  let place ← names.dropLast.foldlM tree.enter (origin cwd path)
  tree.requireDirectory place
  match names.getLast? with
  | none | some "." | some ".." => return (place, none)
  | some name => return (place, some name)

/-- Puts content into a file, which is made if it is not there. -/
def write (tree : Tree) (cwd : Place) (path : String) (content : Content) :
    Except OsError Tree := do
  match ← tree.target cwd path with
  | (_, none) => throw .isDirectory
  | (place, some name) =>
    if Path.endsInSlash path then throw .isDirectory
    let goal ← tree.enter place name
    match tree.node? goal with
    | some .directory => throw .isDirectory
    | _ => return tree.put goal (.file content)

/-- Makes one directory. -/
def makeDirectory (tree : Tree) (cwd : Place) (path : String) : Except OsError Tree := do
  match ← tree.target cwd path with
  | (_, none) => throw .exists
  | (place, some name) =>
    let goal ← tree.enter place name
    match tree.node? goal with
    | some _ => throw .exists
    | none => return tree.put goal .directory

/-- Makes the first of the directories after those that follow it, as far as they are missing. The
tree holds what was made also where this fails. -/
def makeDirectories (tree : Tree) (cwd : Place) : List String → Tree × Except OsError Unit
  | [] => (tree, .ok ())
  | path :: outer =>
    match tree.makeDirectory cwd path with
    | .ok made => (made, .ok ())
    | .error .notFound =>
      match makeDirectories tree cwd outer with
      | (made, .error e) => (made, .error e)
      | (made, .ok ()) =>
        match made.makeDirectory cwd path with
        | .ok all => (all, .ok ())
        | .error e => (made, if made.isDirectory cwd path then .ok () else .error e)
    | .error e => (tree, if tree.isDirectory cwd path then .ok () else .error e)

end Tree

/-! ## Documents -/

/-- Why a document was not written. -/
inductive WriteError where
  | directory (path : String) (cause : OsError)
  | file (path : String) (cause : OsError)
  deriving DecidableEq, Repr

/-- The cause is told after what failed. -/
def WriteError.message : WriteError → String
  | .directory path cause => "failed to create directory " ++ path ++ ": " ++ cause.message
  | .file path cause => "failed to write " ++ path ++ ": " ++ cause.message

/-- Writes a text to a path, and makes the directories that it lies in. -/
def Tree.writeDocument (tree : Tree) (cwd : Place) (path document : String) :
    Tree × Except WriteError Unit :=
  let parent := (Path.parent? path).getD ""
  match tree.makeDirectories cwd (Path.ancestors parent) with
  | (made, .error e) => (made, .error (.directory parent e))
  | (made, .ok ()) =>
    match made.write cwd path (.text document) with
    | .ok written => (written, .ok ())
    | .error e => (made, .error (.file path e))

end SchemaGen.Files
