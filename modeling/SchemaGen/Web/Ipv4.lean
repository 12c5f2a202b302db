import SchemaGen.Text.Hexadecimal
import SchemaGen.Text.Pieces

/-! Hosts of four bytes. They are written as up to four numbers with points between them, of which
the last fills all that is left. A number is decimal, octal after `0`, or hexadecimal after `0x`. -/

namespace SchemaGen.Web.Ipv4

set_option autoImplicit false

open SchemaGen.Text

/-! ## Numbers -/

/-- The value of digits to a base. -/
def digits? (base : Nat) (cs : List Char) : Option Nat :=
  cs.foldl (fun acc c => do
    let n ← acc
    let d ← hexDigit? c
    if d < base then some (n * base + d) else none) (some 0)

/-- The value of a number. -/
def number? : List Char → Option Nat
  | [] => none
  | '0' :: 'x' :: rest | '0' :: 'X' :: rest => digits? 16 rest
  | '0' :: d :: rest => digits? 8 (d :: rest)
  | cs => digits? 10 cs

/-- The parts of a host without an empty one at its end. -/
def parts (cs : List Char) : List (List Char) :=
  match (pieces (· == '.') cs).reverse with
  | [] :: q :: rest => (q :: rest).reverse
  | parts => parts.reverse

/-! ## Hosts -/

/-- The last part is a number, so that the host can only be four bytes. -/
def endsInNumber (cs : List Char) : Bool :=
  match (parts cs).getLast? with
  | some part => !part.isEmpty && (part.all Char.isDigit || (number? part).isSome)
  | none => false

/-- The four bytes as one number. -/
def parse? (cs : List Char) : Option Nat := do
  let numbers ← (parts cs).mapM number?
  let heads := numbers.dropLast
  let last ← numbers.getLast?
  let room := Nat.pow 256 (4 - heads.length)
  if 4 < numbers.length || heads.any (255 < ·) || room ≤ last then none
  else some (heads.foldl (fun acc n => acc * 256 + n) 0 * room + last)

/-- A byte in decimal, without a zero in front. -/
def byte? (cs : List Char) : Option Nat :=
  match cs with
  | ['0'] => some 0
  | '0' :: _ => none
  | cs =>
    if cs.isEmpty || 3 < cs.length then none else (digits? 10 cs).filter (· < 256)

/-- Four bytes, each in decimal, as one number. -/
def strict? (cs : List Char) : Option Nat := do
  let bytes ← (pieces (· == '.') cs).mapM byte?
  if bytes.length = 4 then some (bytes.foldl (fun acc n => acc * 256 + n) 0) else none

/-- Four bytes in decimal. -/
def render (n : Nat) : String :=
  ".".intercalate ([n / 0x1000000, n / 0x10000 % 256, n / 0x100 % 256, n % 256].map toString)

end SchemaGen.Web.Ipv4
