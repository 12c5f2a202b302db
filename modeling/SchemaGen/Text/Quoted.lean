import SchemaGen.Text.Hexadecimal
import SchemaGen.Text.Printable

/-! Text in double quotes for messages. A quote and a backslash take a backslash, the common
controls their letter, and what has no visible form of its own its code point in braces. -/

namespace SchemaGen.Text

set_option autoImplicit false

/-- A code point in braces after `\u`. -/
def escapeCodePoint (c : Char) : List Char :=
  ['\\', 'u', '\x7b'] ++ hexDigits c.toNat ++ ['\x7d']

/-- One character inside double quotes. -/
def quoteChar (c : Char) : List Char :=
  if c = '\x00' then ['\\', '0']
  else if c = '\t' then ['\\', 't']
  else if c = '\r' then ['\\', 'r']
  else if c = '\n' then ['\\', 'n']
  else if c = '\\' then ['\\', '\\']
  else if c = '"' then ['\\', '"']
  else if isExtender c || !isPrintable c then escapeCodePoint c
  else [c]

/-- The text in double quotes. -/
def quoted (s : String) : String :=
  String.ofList ('"' :: s.toList.flatMap quoteChar ++ ['"'])

end SchemaGen.Text
