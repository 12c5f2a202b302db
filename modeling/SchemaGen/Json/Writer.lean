import SchemaGen.Json.Basic
import SchemaGen.Decimal.Shortest

/-! Writing JSON without blanks. A quote, a backslash and the controls are escaped, all other
characters stand as they are. -/

namespace SchemaGen

set_option autoImplicit false

namespace Json

/-! ## Strings -/

/-- A control as `\u` and four digits. -/
def escapeControl (c : Char) : List Char :=
  let digits := Nat.toDigits 16 c.toNat
  ['\\', 'u'] ++ List.replicate (4 - digits.length) '0' ++ digits

/-- One character between quotes. -/
def writeChar (c : Char) : List Char :=
  if c = '"' then ['\\', '"']
  else if c = '\\' then ['\\', '\\']
  else if c = '\x08' then ['\\', 'b']
  else if c = '\x0c' then ['\\', 'f']
  else if c = '\n' then ['\\', 'n']
  else if c = '\r' then ['\\', 'r']
  else if c = '\t' then ['\\', 't']
  else if c.toNat < 0x20 then escapeControl c
  else [c]

/-- A text between quotes. -/
def writeString (s : String) : List Char := '"' :: s.toList.flatMap writeChar ++ ['"']

end Json

/-! ## Numbers -/

/-- The spelling of a number. -/
def JsonNumber.write : JsonNumber → String
  | .natural n => toString n
  | .negative n => "-" ++ toString n
  | .real d => Decimal.Format.document.render d

namespace Json

/-! ## Values -/

mutual

/-- A value without blanks. -/
def write : Json → List Char
  | .null => ['n', 'u', 'l', 'l']
  | .bool true => ['t', 'r', 'u', 'e']
  | .bool false => ['f', 'a', 'l', 's', 'e']
  | .number n => n.write.toList
  | .string s => writeString s
  | .array items => '[' :: writeItems items ++ [']']
  | .object entries => '\x7b' :: writeEntries entries ++ ['\x7d']

def writeItems : List Json → List Char
  | [] => []
  | [item] => write item
  | item :: rest => write item ++ ',' :: writeItems rest

def writeEntries : List (String × Json) → List Char
  | [] => []
  | [(key, value)] => writeString key ++ ':' :: write value
  | (key, value) :: rest => writeString key ++ ':' :: write value ++ ',' :: writeEntries rest

end

/-- The text of a value. -/
def compact (value : Json) : String := String.ofList value.write

end Json

end SchemaGen
