import SchemaGen.Web.Url

/-! Credentials of a request. A name and a password in an address go into a header: three bytes at a
time as four characters, with `=` where bytes are missing at the end. -/

namespace SchemaGen.Web.Credentials

set_option autoImplicit false

/-! ## Bytes as characters -/

/-- The character for six bits. -/
def sixBits (n : Nat) : Char :=
  if n < 26 then Char.ofNat ('A'.toNat + n)
  else if n < 52 then Char.ofNat ('a'.toNat + n - 26)
  else if n < 62 then Char.ofNat ('0'.toNat + n - 52)
  else if n = 62 then '+' else '/'

/-- Bytes as characters of six bits each. -/
def encode : List UInt8 → List Char
  | a :: b :: c :: rest =>
    let n := a.toNat * 0x10000 + b.toNat * 0x100 + c.toNat
    sixBits (n / 0x40000) :: sixBits (n / 0x1000 % 64) :: sixBits (n / 64 % 64) ::
      sixBits (n % 64) :: encode rest
  | [a, b] =>
    let n := a.toNat * 0x100 + b.toNat
    [sixBits (n / 0x400), sixBits (n / 16 % 64), sixBits (n % 16 * 4), '=']
  | [a] => [sixBits (a.toNat / 4), sixBits (a.toNat % 4 * 16), '=', '=']
  | [] => []

/-- The header for a name and a password. -/
def basic (username password : String) : String :=
  "Basic " ++ String.ofList (encode (username ++ ":" ++ password).toUTF8.toList)

/-! ## Addresses -/

/-- The header for the name and the password of an address, and the address without them. A name
that is no text stays where it is, and a password that is none is left out. -/
def extract (u : Url) : Option String × Url :=
  match u.authority with
  | none => (none, u)
  | some a =>
    let password := a.password.bind fun p => decodedText? p.toList
    match decodedText? a.username.toList with
    | none => (none, u)
    | some username =>
      if username = "" && password.isNone then (none, u)
      else (some (basic username (password.getD "")), u.anonymous)

end SchemaGen.Web.Credentials
