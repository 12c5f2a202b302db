/-! Places in a text: the line, counted from one, and the bytes before the place in that line. -/

namespace SchemaGen.Text

set_option autoImplicit false

structure Place where
  line : Nat := 1
  column : Nat := 0
  deriving DecidableEq, Repr

namespace Place

/-- The place behind one more character. -/
def next (p : Place) (c : Char) : Place :=
  if c = '\n' then ⟨p.line + 1, 0⟩ else ⟨p.line, p.column + c.utf8Size⟩

/-- The place so many bytes further in a text, which may be inside a character. -/
def advance (p : Place) : List Char → Nat → Place
  | [], _ => p
  | c :: cs, bytes =>
    if bytes < c.utf8Size then ⟨p.line, p.column + bytes⟩
    else (p.next c).advance cs (bytes - c.utf8Size)

def describe (p : Place) : String :=
  "line " ++ toString p.line ++ " column " ++ toString p.column

end Place

end SchemaGen.Text
