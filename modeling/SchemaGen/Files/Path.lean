import SchemaGen.Text.Pieces

/-! Paths as text: names with slashes between them. A path starts at the root if it starts with a
slash. The names `.` and `..` mean a directory itself and the one that holds it. -/

namespace SchemaGen.Files.Path

set_option autoImplicit false

open SchemaGen.Text

/-! ## Names -/

def isSlash (c : Char) : Bool := c == '/'

def isAbsolute (path : String) : Bool := path.toList.head?.any isSlash

/-- Ends in a slash that follows a name. -/
def endsInSlash (path : String) : Bool := path.toList.getLast?.any isSlash

/-- The names of a path in their order. -/
def names (path : String) : List String :=
  ((pieces isSlash path.toList).filter fun piece => !piece.isEmpty).map String.ofList

/-! ## Parents -/

/-- Length of what stands before the names: the slash of the root, or a leading `.`. -/
def leadLength (cs : List Char) : Nat :=
  match cs with
  | '/' :: _ => 1
  | ['.'] => 1
  | '.' :: '/' :: _ => 1
  | _ => 0

/-- A piece that names nothing of its own. -/
def isIdle (piece : List Char) : Bool := piece.isEmpty || piece == ['.']

/-- Drops the pieces at the end that name nothing. -/
def dropIdle (pieces : List (List Char)) : List (List Char) :=
  (pieces.reverse.dropWhile isIdle).reverse

/-- The path of the directory that holds the target, cut out of the path itself. The root and the
empty path have none. -/
def parent? (path : String) : Option String :=
  let cs := path.toList
  let lead := cs.take (leadLength cs)
  match (dropIdle (pieces isSlash (cs.drop (leadLength cs)))).reverse with
  | [] => if lead == ['.'] then some "" else none
  | _ :: rest => some (String.ofList (lead ++ joinWith '/' (dropIdle rest.reverse)))

/-- The path and its parents, each after the one it holds, up to `fuel` of them; the empty path is
left out. -/
def ancestorsWithin (fuel : Nat) (path : String) : List String :=
  match fuel with
  | 0 => []
  | fuel + 1 =>
    if path = "" then []
    else
      match parent? path with
      | none => [path]
      | some parent => path :: ancestorsWithin fuel parent

/-- The path and its parents, innermost first. A parent is shorter than its path. -/
def ancestors (path : String) : List String := ancestorsWithin (path.length + 1) path

/-- The path of a name in a directory. -/
def child (directory name : String) : String :=
  if directory = "" then name
  else if endsInSlash directory then directory ++ name
  else directory ++ "/" ++ name

end SchemaGen.Files.Path
