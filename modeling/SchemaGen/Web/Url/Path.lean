import SchemaGen.Text.Pieces
import SchemaGen.Web.Percent
import SchemaGen.Web.Url.Scheme

/-! Paths of addresses in their normal form: segments with slashes between them, none of which means
the directory itself or the one above. A segment that looks like the name of a drive is never left
for the directory above. -/

namespace SchemaGen.Web.Url

set_option autoImplicit false

open SchemaGen.Text

/-! ## Segments -/

/-- A segment that means the directory itself. -/
def isDot (cs : List Char) : Bool :=
  cs == ['.'] || cs.map Char.toLower == ['%', '2', 'e']

/-- A segment that means the directory above. -/
def isDoubleDot (cs : List Char) : Bool :=
  match cs.map Char.toLower with
  | '.' :: rest => isDot rest
  | '%' :: '2' :: 'e' :: rest => isDot rest
  | _ => false

/-- A letter and a colon, or a bar in its place. -/
def isDrive : List Char → Bool
  | [c, d] => c.isAlpha && (d == ':' || d == '|')
  | _ => false

/-- A drive, and maybe more after a backslash. -/
def startsAsDrive (cs : List Char) : Bool :=
  isDrive (cs.take 2) && (cs.drop 2).head?.all (· == '\\')

/-- The name of a drive with its colon. -/
def withColon (cs : List Char) : List Char := cs.take 1 ++ [':']

/-! ## Following -/

/-- The segments without the latest one, unless that is a drive. -/
def leave : List (List Char) → List (List Char)
  | segment :: done => if startsAsDrive segment then segment :: done else done
  | [] => []

/-- A segment after others, encoded. The first one of a file gets the colon of a drive. -/
def enter (kind : SchemeKind) (done : List (List Char)) (segment : List Char) :
    List (List Char) :=
  if kind == .file && done.isEmpty && isDrive segment then [withColon segment]
  else percentEncode keptInPath segment :: done

/-- Follows segments, those passed so far latest first. -/
def follow (kind : SchemeKind) : List (List Char) → List (List Char) → List (List Char)
  | done, [] => done.reverse
  | done, [last] =>
    if isDoubleDot last then ([] :: leave done).reverse
    else if isDot last then ([] :: done).reverse
    else (enter kind done last).reverse
  | done, segment :: rest =>
    if isDoubleDot segment then follow kind (leave done) rest
    else if isDot segment then follow kind done rest
    else follow kind (enter kind done segment) rest

/-- The segments of a path. A slash in front of them does not count. -/
def segments (kind : SchemeKind) (cs : List Char) : List (List Char) :=
  match cs with
  | [] => [[]]
  | c :: rest => pieces kind.isSlash (if kind.isSlash c then rest else c :: rest)

/-! ## Paths -/

/-- The path of segments. -/
def pathOf (segments : List (List Char)) : List Char := '/' :: joinWith '/' segments

/-- The path of an address that is no file, in its normal form. -/
def plainPath (kind : SchemeKind) (cs : List Char) : List Char :=
  pathOf (follow kind [] (segments kind cs))

/-- The segments of a file's path. An empty one in front keeps a drive from being told. -/
def fileSegments (behindEmpty : Bool) (cs : List Char) : List (List Char) :=
  follow .file (if behindEmpty then [[]] else []) (segments .file cs)

/-- The path of a file, in its normal form. Empty segments in front do not count. -/
def filePath (behindEmpty : Bool) (cs : List Char) : List Char :=
  '/' :: (joinWith '/' (fileSegments behindEmpty cs)).dropWhile (· == '/')

/-- The path of a file starts with a drive. -/
def startsInDrive (cs : List Char) : Bool := (fileSegments false cs).head?.any isDrive

end SchemaGen.Web.Url
