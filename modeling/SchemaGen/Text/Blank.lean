import SchemaGen.Text.Ranges

/-! Blank characters and trimming. Two classes are in use: every character with the property
White_Space, and its ASCII part without the vertical tab. -/

namespace SchemaGen.Text

set_option autoImplicit false

/-! ## Classes -/

/-- Code points with the property White_Space. -/
def blankRanges : List (Nat × Nat) := [
  (0x9, 0xD), (0x20, 0x20), (0x85, 0x85), (0xA0, 0xA0), (0x1680, 0x1680), (0x2000, 0x200A),
  (0x2028, 0x2029), (0x202F, 0x202F), (0x205F, 0x205F), (0x3000, 0x3000)]

/-- White space of any kind. -/
def isBlank (c : Char) : Bool := inRanges blankRanges c

/-- Space, tab, line feed, form feed or carriage return. -/
def isAsciiBlank (c : Char) : Bool :=
  c == ' ' || c == '\t' || c == '\n' || c == '\x0c' || c == '\r'

/-! ## Trimming -/

/-- Drops what `p` holds of from both ends. -/
def trimBy (p : Char → Bool) (cs : List Char) : List Char :=
  ((cs.dropWhile p).reverse.dropWhile p).reverse

/-- Holds nothing but white space. -/
def allBlank (s : String) : Bool := s.toList.all isBlank

end SchemaGen.Text
