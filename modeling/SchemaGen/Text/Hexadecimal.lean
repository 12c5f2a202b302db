/-! Numbers in hexadecimal, and the characters that they name. -/

namespace SchemaGen.Text

set_option autoImplicit false

/-! ## Writing -/

/-- Lower-case hexadecimal digits without padding. -/
def hexDigits (n : Nat) : List Char := Nat.toDigits 16 n

/-! ## Reading -/

/-- The value of a digit in either case. -/
def hexDigit? (c : Char) : Option Nat :=
  if '0' ≤ c && c ≤ '9' then some (c.toNat - '0'.toNat)
  else if 'a' ≤ c && c ≤ 'f' then some (c.toNat - 'a'.toNat + 10)
  else if 'A' ≤ c && c ≤ 'F' then some (c.toNat - 'A'.toNat + 10)
  else none

/-- The number that digits spell. -/
def hexNumber? (digits : List Char) : Option Nat :=
  digits.foldl (fun acc c => do return (← acc) * 16 + (← hexDigit? c)) (some 0)

/-- The character of a code point. -/
def charOf? (n : Nat) : Option Char :=
  if n < 0xD800 || (0xDFFF < n && n < 0x110000) then some (Char.ofNat n) else none

/-- The character whose code point digits spell. -/
def hexChar? (digits : List Char) : Option Char := (hexNumber? digits).bind charOf?

end SchemaGen.Text
