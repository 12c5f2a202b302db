import SchemaGen.Text.Pieces
import SchemaGen.Web.Percent

/-! What the path of a database means: a file, or memory, which starts empty. A path may be written
as an address, whose options say how the database is opened. -/

namespace SchemaGen.Source.Database

set_option autoImplicit false

open SchemaGen.Text

/-! ## Places -/

/-- How a file is opened. -/
inductive Access where
  | read
  | write
  /-- A file that is missing is made. -/
  | create
  deriving DecidableEq, Repr

/-- Greater for what allows more. -/
def Access.rank : Access → Nat
  | .read => 1
  | .write => 2
  | .create => 6

/-- Where a database is kept. -/
inductive Location where
  | memory
  | file (path : String) (access : Access)
  deriving DecidableEq, Repr

/-- Why a database is not opened. -/
inductive OpenFault where
  /-- The path means a server. -/
  | remote
  | invalid
  | notAllowed
  /-- There is no such file. -/
  | missing
  deriving DecidableEq, Repr

/-- The number that a failure is told by, if a connection was tried. -/
def OpenFault.code? : OpenFault → Option Nat
  | .remote => none
  | .invalid => some 1
  | .notAllowed => some 3
  | .missing => some 14

/-! ## Options -/

/-- How a database is opened: with which access, unless it is kept in memory, and by which means. -/
structure Opening where
  access : Option Access := some .create
  means : String := "unix"
  deriving DecidableEq, Repr

/-- The means of access to files. -/
def fileMeans : List String := ["unix", "unix-none", "unix-dotfile", "unix-excl"]

/-- The means of keeping a database in memory. -/
def memoryMeans : String := "memdb"

/-- An access by its name; none for memory. -/
def access? : String → Option (Option Access)
  | "ro" => some (some .read)
  | "rw" => some (some .write)
  | "rwc" => some (some .create)
  | "memory" => some none
  | _ => none

/-- No option allows more than the one before it. -/
def allows (given : Option Access) (wanted : Option Access) : Bool :=
  match given, wanted with
  | some g, some w => w.rank ≤ g.rank
  | _, _ => true

/-- An opening with one more option. -/
def Opening.with (o : Opening) (option : String × String) : Except OpenFault Opening :=
  match option.1 with
  | "vfs" => .ok { o with means := option.2 }
  | "cache" =>
    if option.2 == "shared" || option.2 == "private" then .ok o else .error .invalid
  | "mode" =>
    match access? option.2 with
    | none => .error .invalid
    | some access =>
      if allows o.access access then .ok { o with access } else .error .notAllowed
  | _ => .ok o

/-- The text of a part, up to the first escape for a zero. -/
def decodePart (cs : List Char) : String :=
  String.ofList (((Web.decodedText? cs).getD "").toList.takeWhile (· != '\x00'))

/-- The options of an address. Those without a name do not count. -/
def optionsOf (cs : List Char) : List (String × String) :=
  (pieces (· == '&') cs).filterMap fun part =>
    let (name, value) := cutAt (· == '=') part
    let name := decodePart name
    if name = "" then none else some (name, decodePart (value.getD []))

/-! ## Addresses -/

/-- What follows the host of an address, which can only be this machine. -/
def withoutHost? : List Char → Option (List Char)
  | '/' :: '/' :: rest =>
    let host := String.ofList (rest.takeWhile (· != '/'))
    if host = "" || host = "localhost" then some (rest.dropWhile (· != '/')) else none
  | cs => some cs

/-- The place of a name in an opening. -/
def Opening.locate (o : Opening) (name : String) : Except OpenFault Location :=
  if o.means == memoryMeans then .ok .memory
  else if !fileMeans.contains o.means then .error .invalid
  else
    match o.access with
    | none => .ok .memory
    | some access =>
      if name = "" || name = ":memory:" then .ok .memory else .ok (.file name access)

/-- The place that an address without its scheme means. -/
def locateAddress (cs : List Char) : Except OpenFault Location := do
  match withoutHost? cs with
  | none => throw .invalid
  | some cs =>
    let (name, options) := cutAt (· == '?') (cutAt (· == '#') cs).1
    let opening ← (optionsOf (options.getD [])).foldlM Opening.with {}
    opening.locate (decodePart name)

/-- The place that a path means. -/
def locate (path : String) : Except OpenFault Location :=
  let startsWith (mark : String) : Bool := mark.toList.isPrefixOf path.toList
  if ["libsql:", "http:", "https:"].any startsWith then .error .remote
  else if startsWith "file:" then locateAddress (path.toList.drop "file:".length)
  else ({} : Opening).locate path

end SchemaGen.Source.Database
