import SchemaGen.Files.Tree

/-! Files that are looked for upwards: in a directory, or else in the nearest one above it that has
them. Such a file is named by the way from the directory to it. -/

namespace SchemaGen.Files

set_option autoImplicit false

/-! ## Ways -/

/-- The way from one place to another: up to where the two part, and down again. -/
def wayTo : Place → List String → List String
  | here :: start, there :: goal =>
    if here = there then wayTo start goal
    else List.replicate (start.length + 1) ".." ++ there :: goal
  | start, goal => List.replicate start.length ".." ++ goal

/-- The names of a path without those that lead nowhere. -/
def plainNames (path : String) : List String := (Path.names path).filter (· != ".")

/-- A path for people: the way to it, if that has fewer names, the root being one more. -/
def shownPath (cwd : Place) (names : List String) (path : String) : String :=
  let way := wayTo cwd names
  if way.length ≤ names.length then "/".intercalate way else path

/-! ## Searching -/

/-- A directory and all above it, innermost first. -/
def upwards (place : Place) : List Place :=
  (List.range (place.length + 1)).map fun k => place.take (place.length - k)

namespace Tree

/-- The content of the file that a path leads to. -/
def file? (tree : Tree) (cwd : Place) (path : String) : Option Content :=
  match tree.find cwd path with
  | .ok (.file content) => some content
  | _ => none

/-- A file of a directory or of the nearest one above it, and the directory. -/
def nearestFile? (tree : Tree) (cwd : Place) (path : String) : Option (Place × Content) :=
  (upwards cwd).findSome? fun place => (tree.file? place path).map fun content => (place, content)

end Tree

end SchemaGen.Files
