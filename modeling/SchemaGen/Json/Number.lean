import SchemaGen.Json.Basic

/-! From the spelling of a JSON number to its value: an integer that fits a word of 64 bits is
exact, and any other number is the double nearest to it, if there is one. -/

namespace SchemaGen.Json.Number

set_option autoImplicit false

open SchemaGen.Decimal

/-! ## Digits -/

def digitValue (c : Char) : Nat := c.toNat - '0'.toNat

/-- The number that digits spell. -/
def digitsValue (digits : List Char) : Nat := digits.foldl (fun n c => n * 10 + digitValue c) 0

/-! ## Spellings -/

/-- The parts of a spelling: sign, digits before the point, digits after it, sign and digits of the
exponent. -/
structure Spelling where
  negative : Bool
  whole : List Char
  fraction : Option (List Char)
  exponent : Option (Bool × List Char)

/-- Splits a well-formed spelling. -/
def Spelling.ofChars (cs : List Char) : Spelling :=
  let (negative, cs) := match cs with
    | '-' :: rest => (true, rest)
    | cs => (false, cs)
  let whole := cs.takeWhile Char.isDigit
  let (fraction, cs) := match cs.dropWhile Char.isDigit with
    | '.' :: rest => (some (rest.takeWhile Char.isDigit), rest.dropWhile Char.isDigit)
    | cs => (none, cs)
  let exponent := match cs with
    | _ :: '-' :: digits => some (true, digits)
    | _ :: '+' :: digits => some (false, digits)
    | _ :: digits => some (false, digits)
    | [] => none
  ⟨negative, whole, fraction, exponent⟩

/-- Written with digits alone. -/
def Spelling.isInteger (s : Spelling) : Bool := s.fraction.isNone && s.exponent.isNone

/-- The integer, if it fits a word. A negative zero is no integer. -/
def Spelling.integer? (s : Spelling) : Option JsonNumber :=
  let n := digitsValue s.whole
  if !s.isInteger then none
  else if s.negative then if n = 0 || 0x8000000000000000 < n then none else some (.negative n)
  else if n < 0x10000000000000000 then some (.natural n) else none

/-- The exponent with its sign. -/
def Spelling.scale (s : Spelling) : Int :=
  match s.exponent with
  | none => 0
  | some (down, digits) => if down then -(digitsValue digits : Int) else digitsValue digits

/-- The exponent is beyond all bounds, and the number is not zero. -/
def Spelling.outgrows (s : Spelling) : Bool :=
  match s.exponent with
  | some (false, digits) =>
    0x7FFFFFFF < digitsValue digits && (s.whole ++ s.fraction.getD []).any (· != '0')
  | _ => false

/-- The double nearest to the number. -/
def Spelling.nearest (s : Spelling) : Double :=
  let fraction := s.fraction.getD []
  .ofDecimal s.negative (digitsValue (s.whole ++ fraction)) (s.scale - fraction.length)

/-- The value of a spelling, none where it is too great for a double. -/
def Spelling.value? (s : Spelling) : Option JsonNumber :=
  match s.integer? with
  | some n => some n
  | none =>
    match s.nearest with
    | .finite negative m e => some (.real (.finite negative m e))
    | _ => none

/-- A spelling is that of a number too great for a double, whatever digits follow. -/
def outgrows (spelling : List Char) : Bool := (Spelling.ofChars spelling).outgrows

/-- The value of a spelling that the grammar allows. -/
def value? (spelling : List Char) : Option JsonNumber := (Spelling.ofChars spelling).value?

end SchemaGen.Json.Number
