import SchemaGen.Config.Value
import SchemaGen.Json.Reader
import SchemaGen.Text.Blank

/-! Values of environment variables. A text that is a literal stands for its value: a truth value, a
number, a list, a table or a quoted text. Any other text stands for itself. -/

namespace SchemaGen.Config.Literal

set_option autoImplicit false

open SchemaGen.Text SchemaGen.Json.Number

/-! ## Numbers -/

/-- Digits, at least one. -/
def isDigits (cs : List Char) : Bool := !cs.isEmpty && cs.all Char.isDigit

/-- The sign in front, and what follows it. -/
def splitSign : List Char → Bool × List Char
  | '-' :: rest => (true, rest)
  | '+' :: rest => (false, rest)
  | cs => (false, cs)

/-- An integer of one word: without a minus sign up to `2 ^ 64`, with one down to `-2 ^ 63`. -/
def integer? (cs : List Char) : Option Scalar :=
  let (negative, digits) := splitSign cs
  if !isDigits digits then none
  else
    let n := digitsValue digits
    if negative then if n ≤ 0x8000000000000000 then some (.signed (-(n : Int))) else none
    else if n < 0x10000000000000000 then some (.unsigned n) else none

/-- The exponent behind a mark, zero where there is nothing. -/
def exponent? : List Char → Option Int
  | [] => some 0
  | c :: cs =>
    if c = 'e' || c = 'E' then
      let (negative, digits) := splitSign cs
      if !isDigits digits then none
      else if negative then some (-(digitsValue digits : Int)) else some (digitsValue digits)
    else none

/-- A decimal with a point, digits on at least one side of it, and perhaps an exponent. -/
def decimal? (cs : List Char) : Option Decimal.Double :=
  let (negative, cs) := splitSign cs
  let whole := cs.takeWhile Char.isDigit
  match cs.dropWhile Char.isDigit with
  | '.' :: rest =>
    let fraction := rest.takeWhile Char.isDigit
    if whole.isEmpty && fraction.isEmpty then none
    else
      (exponent? (rest.dropWhile Char.isDigit)).map fun e =>
        Decimal.Double.ofDecimal negative (digitsValue (whole ++ fraction)) (e - fraction.length)
  | _ => none

/-- A number, or else the text itself. -/
def bare (cs : List Char) : Scalar :=
  match decimal? cs with
  | some d => .real d
  | none => (integer? cs).getD (.text (String.ofList cs))

/-! ## Quoted texts -/

/-- What a letter after a backslash stands for. -/
def escaped? : Char → Option Char
  | '"' => some '"'
  | '\\' => some '\\'
  | 'b' => some '\x08'
  | 't' => some '\t'
  | 'n' => some '\n'
  | 'f' => some '\x0c'
  | 'r' => some '\r'
  | _ => none

/-- A character that stands in quotes as it is: no control but the tab. -/
def isPlain (c : Char) : Bool := c == '\t' || (0x20 ≤ c.toNat && c.toNat != 0x7F)

/-- The text up to the closing quote, and what follows it. -/
def quotedText (before : List Char) : List Char → Option (String × List Char)
  | '"' :: rest => some (String.ofList before.reverse, rest)
  | '\\' :: 'u' :: a :: b :: c :: d :: rest => do
    quotedText ((← Text.hexChar? [a, b, c, d]) :: before) rest
  | '\\' :: 'U' :: a :: b :: c :: d :: e :: f :: g :: h :: rest => do
    quotedText ((← Text.hexChar? [a, b, c, d, e, f, g, h]) :: before) rest
  | '\\' :: c :: rest => do quotedText ((← escaped? c) :: before) rest
  | '\\' :: [] => none
  | c :: rest => if isPlain c then quotedText (c :: before) rest else none
  | [] => none

/-! ## Literals -/

def skipBlank (cs : List Char) : List Char := cs.dropWhile isAsciiBlank

/-- Ends a bare text. -/
def isSeparator (c : Char) : Bool := [',', '\x7b', '\x7d', '[', ']'].contains c

def isKeyChar (c : Char) : Bool := c.isAlphanum || c == '_' || c == '-'

/-- A key in quotes or bare. -/
def key? : List Char → Option (String × List Char)
  | '"' :: rest => quotedText [] rest
  | cs =>
    match cs.takeWhile isKeyChar with
    | [] => none
    | name => some (String.ofList name, cs.dropWhile isKeyChar)

/-- A value that is not built of others. -/
def scalar? : List Char → Option (Scalar × List Char)
  | 't' :: 'r' :: 'u' :: 'e' :: rest => some (.bool true, rest)
  | 'f' :: 'a' :: 'l' :: 's' :: 'e' :: rest => some (.bool false, rest)
  | '"' :: rest => (quotedText [] rest).map fun (s, rest) => (.text s, rest)
  | '\'' :: c :: '\'' :: rest => some (.text (String.singleton c), rest)
  | '\'' :: _ => none
  | cs =>
    let text := cs.takeWhile fun c => !isSeparator c
    some (bare (trimBy isBlank text), cs.dropWhile fun c => !isSeparator c)

mutual

/-- A value between blanks, and what follows it. -/
def value? (fuel : Nat) (cs : List Char) : Option (Value × List Char) :=
  match fuel with
  | 0 => none
  | fuel + 1 => do
    let (value, rest) ← match skipBlank cs with
      | '[' :: rest => (items? fuel [] rest).map fun (l, rest) => (.list .environment l, rest)
      | '\x7b' :: rest => (members? fuel [] rest).map fun (t, rest) => (.table .environment t, rest)
      | cs => (scalar? cs).map fun (s, rest) => (.scalar .environment s, rest)
    return (value, skipBlank rest)

/-- The items of a list up to its bracket; a comma may end them. -/
def items? (fuel : Nat) (before : List Value) (cs : List Char) :
    Option (List Value × List Char) :=
  match fuel with
  | 0 => none
  | fuel + 1 =>
    match cs with
    | ']' :: rest => some (before.reverse, rest)
    | cs => do
      match ← value? fuel cs with
      | (v, ',' :: rest) => items? fuel (v :: before) rest
      | (v, ']' :: rest) => some ((v :: before).reverse, rest)
      | _ => none

/-- The members of a table up to its brace; a comma may end them. -/
def members? (fuel : Nat) (before : List (String × Value)) (cs : List Char) :
    Option (List (String × Value) × List Char) :=
  match fuel with
  | 0 => none
  | fuel + 1 =>
    match cs with
    | '\x7d' :: rest => some (before, rest)
    | cs => do
      let (key, rest) ← key? (skipBlank cs)
      match skipBlank rest with
      | '=' :: rest =>
        match ← value? fuel rest with
        | (v, ',' :: rest) => members? fuel (Entries.insert key v before) rest
        | (v, '\x7d' :: rest) => some (Entries.insert key v before, rest)
        | _ => none
      | _ => none

end

/-- The value of a text. -/
def parse (text : String) : Value :=
  match value? (2 * text.length + 2) text.toList with
  | some (v, []) => v
  | _ => .scalar .environment (.text text)

end SchemaGen.Config.Literal
