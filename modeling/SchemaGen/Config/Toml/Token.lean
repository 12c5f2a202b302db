import SchemaGen.Config.Literal
import SchemaGen.Text.Pieces

/-! Parts of TOML text: blanks and comments, strings, keys, numbers and dates. A reader takes the
text and gives what it read with the text that follows, or nothing where the text has another form.
-/

namespace SchemaGen.Config.Toml

set_option autoImplicit false

/-! ## Blanks and comments -/

def isGap (c : Char) : Bool := c == ' ' || c == '\t'

/-- Stands in comments and strings as it is: a tab, or no control. -/
def isPlain (c : Char) : Bool := c == '\t' || (0x20 ≤ c.toNat && c.toNat != 0x7F)

def skipGap (cs : List Char) : List Char := cs.dropWhile isGap

/-- What follows a line end. -/
def afterLineEnd? : List Char → Option (List Char)
  | '\n' :: rest => some rest
  | '\r' :: '\n' :: rest => some rest
  | _ => none

/-- What follows the rest of a line that holds nothing but blanks and a comment. -/
def afterLine? (cs : List Char) : Option (List Char) :=
  let rest := match skipGap cs with
    | '#' :: comment => comment.dropWhile isPlain
    | rest => rest
  if rest.isEmpty then some [] else afterLineEnd? rest

/-- Skips blanks, comments and line ends. -/
def skipLines (inComment : Bool) : List Char → Option (List Char)
  | [] => some []
  | '\n' :: rest => skipLines false rest
  | '\r' :: '\n' :: rest => skipLines false rest
  | c :: rest =>
    if inComment then if isPlain c then skipLines true rest else none
    else if isGap c then skipLines false rest
    else if c = '#' then skipLines true rest
    else some (c :: rest)

/-! ## Strings -/

/-- The character after a backslash. -/
def escape? : List Char → Option (Char × List Char)
  | 'u' :: a :: b :: c :: d :: rest => (Text.hexChar? [a, b, c, d]).map (·, rest)
  | 'U' :: a :: b :: c :: d :: e :: f :: g :: h :: rest =>
    (Text.hexChar? [a, b, c, d, e, f, g, h]).map (·, rest)
  | c :: rest => (Literal.escaped? c).map (·, rest)
  | [] => none

/-- Skips blanks and line ends. -/
def skipSpace : List Char → List Char
  | ' ' :: rest | '\t' :: rest | '\n' :: rest | '\r' :: '\n' :: rest => skipSpace rest
  | cs => cs

/-- Skips blanks up to a line end, and all blanks and line ends that follow. -/
def afterContinuation? (cs : List Char) : Option (List Char) :=
  (afterLineEnd? (skipGap cs)).map skipSpace

/-- A string in quotes, with escapes, on one line. -/
def basic? (fuel : Nat) (before : List Char) (cs : List Char) : Option (String × List Char) :=
  match fuel, cs with
  | 0, _ | _, [] => none
  | _, '"' :: rest => some (String.ofList before.reverse, rest)
  | fuel + 1, '\\' :: rest => do
    let (c, rest) ← escape? rest
    basic? fuel (c :: before) rest
  | fuel + 1, c :: rest => if isPlain c then basic? fuel (c :: before) rest else none

/-- A string in three quotes. Up to two quotes may stand before the last three. -/
def basicLines? (fuel : Nat) (before : List Char) (cs : List Char) : Option (String × List Char) :=
  match fuel, cs with
  | 0, _ | _, [] => none
  | _, '"' :: '"' :: '"' :: '"' :: '"' :: rest =>
    some (String.ofList ('"' :: '"' :: before).reverse, rest)
  | _, '"' :: '"' :: '"' :: '"' :: rest => some (String.ofList ('"' :: before).reverse, rest)
  | _, '"' :: '"' :: '"' :: rest => some (String.ofList before.reverse, rest)
  | fuel + 1, '\\' :: rest =>
    match afterContinuation? rest with
    | some rest => basicLines? fuel before rest
    | none => do
      let (c, rest) ← escape? rest
      basicLines? fuel (c :: before) rest
  | fuel + 1, '\r' :: '\n' :: rest => basicLines? fuel ('\n' :: before) rest
  | fuel + 1, c :: rest =>
    if isPlain c || c == '\n' then basicLines? fuel (c :: before) rest else none

/-- A string in single quotes, on one line. -/
def literal? (before : List Char) : List Char → Option (String × List Char)
  | [] => none
  | '\'' :: rest => some (String.ofList before.reverse, rest)
  | c :: rest => if isPlain c then literal? (c :: before) rest else none

/-- A string in three single quotes. -/
def literalLines? (before : List Char) : List Char → Option (String × List Char)
  | [] => none
  | '\'' :: '\'' :: '\'' :: '\'' :: '\'' :: rest =>
    some (String.ofList ('\'' :: '\'' :: before).reverse, rest)
  | '\'' :: '\'' :: '\'' :: '\'' :: rest => some (String.ofList ('\'' :: before).reverse, rest)
  | '\'' :: '\'' :: '\'' :: rest => some (String.ofList before.reverse, rest)
  | '\r' :: '\n' :: rest => literalLines? ('\n' :: before) rest
  | c :: rest => if isPlain c || c == '\n' then literalLines? (c :: before) rest else none

/-- The text without a line end at its start. -/
def dropLineEnd (cs : List Char) : List Char := (afterLineEnd? cs).getD cs

/-- A string of any of the four forms. -/
def string? (cs : List Char) : Option (String × List Char) :=
  match cs with
  | '"' :: '"' :: '"' :: rest => basicLines? (cs.length + 1) [] (dropLineEnd rest)
  | '"' :: rest => basic? (cs.length + 1) [] rest
  | '\'' :: '\'' :: '\'' :: rest => literalLines? [] (dropLineEnd rest)
  | '\'' :: rest => literal? [] rest
  | _ => none

/-! ## Keys -/

/-- One part of a key: bare, or a string on one line. -/
def keyPart? (cs : List Char) : Option (String × List Char) :=
  match cs with
  | '"' :: rest => basic? (cs.length + 1) [] rest
  | '\'' :: rest => literal? [] rest
  | cs =>
    match cs.takeWhile Literal.isKeyChar with
    | [] => none
    | name => some (String.ofList name, cs.dropWhile Literal.isKeyChar)

/-- Parts of keys, and levels of nesting, that are read. -/
def maxParts : Nat := 79

/-- A key of parts with points between them, and blanks around. -/
def key? (fuel : Nat) (cs : List Char) : Option (List String × List Char) :=
  match fuel with
  | 0 => none
  | fuel + 1 => do
    let (part, rest) ← keyPart? (skipGap cs)
    match skipGap rest with
    | '.' :: rest => do
      let (parts, rest) ← key? fuel rest
      return (part :: parts, rest)
    | rest => return ([part], rest)

/-! ## Numbers -/

/-- Digits without the underscores between them. An underscore needs a digit on both sides. -/
def digits? (isDigit : Char → Bool) : List Char → Option (List Char)
  | [] => none
  | [c] => if isDigit c then some [c] else none
  | c :: '_' :: rest => if isDigit c then (digits? isDigit rest).map (c :: ·) else none
  | c :: rest => if isDigit c then (digits? isDigit rest).map (c :: ·) else none

/-- Digits that start with a zero only if there is no other. -/
def wholeDigits? (cs : List Char) : Option (List Char) := do
  match ← digits? Char.isDigit cs with
  | '0' :: _ :: _ => none
  | ds => some ds

/-- The value of digits to a base. -/
def baseValue (base : Nat) (digits : List Char) : Nat :=
  digits.foldl (fun n c => n * base + (Text.hexDigit? c).getD 0) 0

/-- An integer of 64 bits. -/
def integer? (cs : List Char) : Option Int :=
  let small (n : Nat) : Option Int := if n < 0x8000000000000000 then some n else none
  match cs with
  | '0' :: 'x' :: ds =>
    (digits? (fun c => (Text.hexDigit? c).isSome) ds).bind (small ∘ baseValue 16)
  | '0' :: 'o' :: ds => (digits? (fun c => '0' ≤ c && c ≤ '7') ds).bind (small ∘ baseValue 8)
  | '0' :: 'b' :: ds => (digits? (fun c => c == '0' || c == '1') ds).bind (small ∘ baseValue 2)
  | cs => do
    let (negative, ds) := Literal.splitSign cs
    let n := Json.Number.digitsValue (← wholeDigits? ds)
    if negative then if n ≤ 0x8000000000000000 then some (-(n : Int)) else none else small n

/-- Splits at a mark of an exponent. -/
def splitExponent (cs : List Char) : List Char × Option (List Char) :=
  Text.cutAt (fun c => c == 'e' || c == 'E') cs

/-- A number with a fraction, an exponent or both, or one of the words for what is no number. One
too great is refused, if it is positive. -/
def real? (cs : List Char) : Option Decimal.Double :=
  let (negative, body) := Literal.splitSign cs
  if body == ['i', 'n', 'f'] then some (.infinite negative)
  else if body == ['n', 'a', 'n'] then some .nan
  else do
    let (mantissa, exponent) := splitExponent body
    let (whole, fraction) := Text.cutAt (· == '.') mantissa
    if fraction.isNone && exponent.isNone then none
    let whole ← wholeDigits? whole
    let fraction ← match fraction with
      | some ds => digits? Char.isDigit ds
      | none => some []
    let scale : Int ← match exponent with
      | some cs => do
        let (down, ds) := Literal.splitSign cs
        let n : Int := Json.Number.digitsValue (← digits? Char.isDigit ds)
        some (if down then -n else n)
      | none => some 0
    match Decimal.Double.ofDecimal negative (Json.Number.digitsValue (whole ++ fraction))
        (scale - fraction.length) with
    | .infinite false => none
    | d => some d

/-! ## Dates -/

/-- A number of exactly `width` digits between two bounds. -/
def ranged? (width low high : Nat) (cs : List Char) : Option (Nat × List Char) :=
  let ds := cs.take width
  let n := Json.Number.digitsValue ds
  if ds.length = width && ds.all Char.isDigit && low ≤ n && n ≤ high then some (n, cs.drop width)
  else none

/-- What follows one certain character. -/
def after? (c : Char) : List Char → Option (List Char)
  | d :: rest => if d = c then some rest else none
  | [] => none

def daysIn (year month : Nat) : Nat :=
  if month = 2 then
    if year % 4 = 0 && (year % 100 != 0 || year % 400 = 0) then 29 else 28
  else if [4, 6, 9, 11].contains month then 30 else 31

/-- Year, month and day. -/
def afterDate? (cs : List Char) : Option (List Char) := do
  let (year, rest) ← ranged? 4 0 9999 cs
  let (month, rest) ← ranged? 2 1 12 (← after? '-' rest)
  let (_, rest) ← ranged? 2 1 (daysIn year month) (← after? '-' rest)
  return rest

/-- Hour, minute and second, and perhaps a fraction of it. -/
def afterTime? (cs : List Char) : Option (List Char) := do
  let (_, rest) ← ranged? 2 0 23 cs
  let (_, rest) ← ranged? 2 0 59 (← after? ':' rest)
  let (_, rest) ← ranged? 2 0 60 (← after? ':' rest)
  match rest with
  | '.' :: c :: rest => if c.isDigit then some (rest.dropWhile Char.isDigit) else none
  | rest => some rest

/-- The offset of a time from universal time; there may be none. -/
def afterOffset? : List Char → Option (List Char)
  | 'Z' :: rest | 'z' :: rest => some rest
  | '+' :: rest | '-' :: rest => do
    let (_, rest) ← ranged? 2 0 23 rest
    let (_, rest) ← ranged? 2 0 59 (← after? ':' rest)
    return rest
  | rest => some rest

def isTime (cs : List Char) : Bool := afterTime? cs == some []

/-- A time with its offset. -/
def isZonedTime (cs : List Char) : Bool := (afterTime? cs).bind afterOffset? == some []

def isDate (cs : List Char) : Bool := afterDate? cs == some []

/-- A date, a time, or a date with a time. -/
def isStamp (cs : List Char) : Bool :=
  isTime cs ||
    match afterDate? cs with
    | some [] => true
    | some (c :: time) => (c == 'T' || c == 't') && isZonedTime time
    | none => false

/-! ## Words -/

/-- Part of a value that is no string, array or table. -/
def isWordChar (c : Char) : Bool :=
  c.isAlphanum || c == '_' || c == '+' || c == '-' || c == '.' || c == ':'

/-- A date as a value: a table, so that it is no setting. -/
def stampValue (origin : Origin) (cs : List Char) : Value :=
  .table origin [("date", .scalar origin (.text (String.ofList cs)))]

/-- The value of a word. -/
def wordValue? (origin : Origin) (word : List Char) : Option Value :=
  if word == ['t', 'r', 'u', 'e'] then some (.scalar origin (.bool true))
  else if word == ['f', 'a', 'l', 's', 'e'] then some (.scalar origin (.bool false))
  else if isStamp word then some (stampValue origin word)
  else
    match integer? word with
    | some n => some (.scalar origin (.signed n))
    | none => (real? word).map fun d => .scalar origin (.real d)

/-- A value of one word. A date and the time after it are two words with a space between them. -/
def word? (origin : Origin) (cs : List Char) : Option (Value × List Char) :=
  let word := cs.takeWhile isWordChar
  let rest := cs.dropWhile isWordChar
  match isDate word, rest with
  | true, ' ' :: d :: more =>
    if d.isDigit then
      let time := (d :: more).takeWhile isWordChar
      if isZonedTime time then
        some (stampValue origin (word ++ ' ' :: time), (d :: more).dropWhile isWordChar)
      else none
    else (wordValue? origin word).map (·, rest)
  | _, _ => (wordValue? origin word).map (·, rest)

end SchemaGen.Config.Toml
