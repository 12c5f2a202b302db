import SchemaGen.Source.Table

/-! What files hold: text, bytes that are no text, or a database of at most one table. -/

namespace SchemaGen.Files

set_option autoImplicit false

inductive Content where
  | text (s : String)
  | bytes (data : ByteArray)
  | database (table : Option Source.Table)

namespace Content

/-- Bytes, taken as text where they encode one. -/
def ofBytes (data : ByteArray) : Content :=
  match String.fromUTF8? data with
  | some s => .text s
  | none => .bytes data

/-- The content as text. A database without tables is an empty file. -/
def text? : Content → Option String
  | .text s => some s
  | .bytes data => String.fromUTF8? data
  | .database none => some ""
  | .database (some _) => none

/-! ## Lines -/

/-- Cuts text after each line feed. -/
def cutLines : List Char → List (List Char)
  | [] => []
  | c :: cs =>
    if c = '\n' then [c] :: cutLines cs
    else
      match cutLines cs with
      | [] => [[c]]
      | line :: rest => (c :: line) :: rest

/-- Cuts bytes after each line feed. -/
def cutByteLines : List UInt8 → List (List UInt8)
  | [] => []
  | b :: bs =>
    if b = 10 then [b] :: cutByteLines bs
    else
      match cutByteLines bs with
      | [] => [[b]]
      | line :: rest => (b :: line) :: rest

/-- The lines with their line feeds; none in place of a line that is no text. -/
def lines : Content → List (Option String)
  | .text s => (cutLines s.toList).map fun line => some (String.ofList line)
  | .bytes data => (cutByteLines data.toList).map fun line => String.fromUTF8? line.toByteArray
  | .database none => []
  | .database (some _) => [none]

end Content

end SchemaGen.Files
