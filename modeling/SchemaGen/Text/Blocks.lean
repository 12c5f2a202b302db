import SchemaGen.Text.Hexadecimal
import SchemaGen.Text.Pieces

/-! Tables of what characters stand for. A table is a list of blocks in ascending order. A block
covers consecutive code points from its first one on; for each of them it names the characters that
it stands for in hexadecimal, with `+` between them. -/

namespace SchemaGen.Text

set_option autoImplicit false

/-- The characters that one word of a block names. -/
def readImage (word : List Char) : List Char := (pieces (· == '+') word).filterMap hexChar?

/-- What a block says of its code points. -/
def readBlock (block : Nat × String) : List (Nat × List Char) :=
  (pieces (· == ' ') block.2.toList).zipIdx.map fun (word, k) => (block.1 + k, readImage word)

/-- What a character stands for. Only the last block that does not start behind it can tell. -/
def imageIn? (table : List (Nat × String)) (c : Char) : Option (List Char) :=
  ((table.takeWhile fun block => block.1 ≤ c.toNat).getLast?).bind fun block =>
    (readBlock block).lookup c.toNat

end SchemaGen.Text
