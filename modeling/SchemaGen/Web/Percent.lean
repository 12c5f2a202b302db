import SchemaGen.Text.Hexadecimal

/-! Percent encoding. A character outside the allowed set stands as its bytes, each as `%` and two
upper-case hexadecimal digits. -/

namespace SchemaGen.Web

set_option autoImplicit false

/-! ## Encoding -/

def upperHex (n : Nat) : List Char := (Text.hexDigits n).map Char.toUpper

def encodeByte (b : UInt8) : List Char :=
  '%' :: (if b.toNat < 16 then '0' :: upperHex b.toNat else upperHex b.toNat)

/-- A character as it stands, or its bytes encoded. -/
def encodeChar (keep : Char → Bool) (c : Char) : List Char :=
  if keep c then [c] else (String.singleton c).toUTF8.toList.flatMap encodeByte

def percentEncode (keep : Char → Bool) (cs : List Char) : List Char :=
  cs.flatMap (encodeChar keep)

/-! ## Decoding -/

/-- The bytes of a character. -/
def charBytes (c : Char) : List UInt8 := (String.singleton c).toUTF8.toList

/-- The bytes of a text, where `%` and two hexadecimal digits are one byte. -/
def percentDecode : List Char → List UInt8
  | '%' :: a :: b :: rest =>
    match Text.hexNumber? [a, b] with
    | some n => UInt8.ofNat n :: percentDecode rest
    | none => charBytes '%' ++ percentDecode (a :: b :: rest)
  | c :: rest => charBytes c ++ percentDecode rest
  | [] => []

/-- The text that the bytes of an encoded text make, if they make one. -/
def decodedText? (cs : List Char) : Option String :=
  String.fromUTF8? (percentDecode cs).toByteArray

/-! ## What is kept -/

/-- ASCII characters but the controls. -/
def isPlain (c : Char) : Bool := 0x20 ≤ c.toNat && c.toNat < 0x7F

/-- Visible ASCII characters. -/
def isVisible (c : Char) : Bool := 0x20 < c.toNat && c.toNat < 0x7F

/-- Kept in a name that stands as one segment. -/
def keptInName (c : Char) : Bool :=
  c.isAlphanum || c == '-' || c == '_' || c == '.' || c == '~'

/-- Kept in the segments of a path. -/
def keptInPath (c : Char) : Bool :=
  isVisible c && !(['"', '#', '<', '>', '?', '\x60', '\x7b', '\x7d'] : List Char).contains c

/-- Kept in the name and the password before a host. -/
def keptInUserinfo (c : Char) : Bool :=
  keptInPath c && !(['/', ':', ';', '=', '@', '[', '\\', ']', '^', '|'] : List Char).contains c

/-- Kept in a query. -/
def keptInQuery (c : Char) : Bool :=
  isVisible c && !(['"', '#', '<', '>'] : List Char).contains c

/-- Kept in the query of an address on the web. -/
def keptInWebQuery (c : Char) : Bool := keptInQuery c && c != '\''

/-- Kept in a fragment. -/
def keptInFragment (c : Char) : Bool :=
  isVisible c && !(['"', '<', '>', '\x60'] : List Char).contains c

end SchemaGen.Web
