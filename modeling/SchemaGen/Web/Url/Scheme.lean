/-! Schemes of addresses. A few of them have rules of their own: those of the web imply the number
of the service, and an address of a file may name a drive. -/

namespace SchemaGen.Web

set_option autoImplicit false

/-- Whose rules an address follows. -/
inductive SchemeKind where
  | web
  | file
  | other
  deriving DecidableEq, Repr

namespace Scheme

/-- The schemes of the web, with the service numbers that they imply. -/
def impliedServices : List (String × Nat) :=
  [("http", 80), ("https", 443), ("ws", 80), ("wss", 443), ("ftp", 21)]

/-- The service number that a scheme implies. -/
def service? (scheme : String) : Option Nat := impliedServices.lookup scheme

def kind (scheme : String) : SchemeKind :=
  if (service? scheme).isSome then .web else if scheme == "file" then .file else .other

end Scheme

namespace SchemeKind

/-- Parts of a path, and what follows a host. Only other addresses do not take a backslash for it.
-/
def isSlash (kind : SchemeKind) (c : Char) : Bool := c == '/' || (kind != .other && c == '\\')

/-- Ends the part that names a host. -/
def endsHost (kind : SchemeKind) (c : Char) : Bool := kind.isSlash c || c == '?' || c == '#'

end SchemeKind

end SchemaGen.Web
