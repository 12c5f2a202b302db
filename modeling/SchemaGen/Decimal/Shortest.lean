import SchemaGen.Decimal.Double

/-! Decimal text of doubles: the fewest digits that read back to the same number, of two such the
nearer one, laid out by a format record. -/

namespace SchemaGen.Decimal

set_option autoImplicit false

/-! ## Digits -/

/-- The reals that round to a magnitude, counted in quarters of its unit: least, greatest, and
whether the ends belong. Below a power of two the neighbour is twice as near. -/
def roundingInterval (mantissa : Nat) (exponent : Int) : Nat × Nat × Bool :=
  let low := if mantissa = Double.fullMantissa && Double.minExponent < exponent then 1 else 2
  (4 * mantissa - low, 4 * mantissa + 2, mantissa % 2 == 0)

/-- `digits * 10 ^ scale` lies among the reals that round to the magnitude. -/
def readsBack (mantissa : Nat) (exponent : Int) (digits : Nat) (scale : Int) : Bool :=
  let (lo, hi, ends) := roundingInterval mantissa exponent
  let quarter := exponent - 2
  let left := digits * Nat.pow 10 scale.toNat * Nat.pow 2 (-quarter).toNat
  let unit := Nat.pow 10 (-scale).toNat * Nat.pow 2 quarter.toNat
  if ends then lo * unit ≤ left && left ≤ hi * unit else lo * unit < left && left < hi * unit

/-- The power of ten of the leading digit of `num / den`. -/
def leadingExponent (num den : Nat) : Int :=
  if den ≤ num then (Double.digitCount (num / den) : Int) - 1
  else
    let guess := Double.digitCount (den / num) - 1
    if den ≤ num * Nat.pow 10 guess then -(guess : Int)
    else if den ≤ num * Nat.pow 10 (guess + 1) then -((guess + 1 : Nat) : Int)
    else -((guess + 2 : Nat) : Int)

/-- The point of the grid of step `10 ^ scale` next to the magnitude that reads back, the nearer
one if both do, the even one if they are equally near. -/
def gridPoint (mantissa : Nat) (exponent : Int) (scale : Int) : Option Nat :=
  let (num, den) := Double.fraction mantissa exponent
  let (n, d) := if 0 ≤ scale then (num, den * Nat.pow 10 scale.toNat)
    else (num * Nat.pow 10 (-scale).toNat, den)
  let below := n / d
  let rest := 2 * (n % d)
  let nearer := if d < rest || (rest == d && below % 2 == 1) then below + 1 else below
  let farther := if nearer == below then below + 1 else below
  if readsBack mantissa exponent nearer scale then some nearer
  else if readsBack mantissa exponent farther scale then some farther
  else none

/-- Drops trailing zeros and counts them in the scale. -/
def dropZeros (fuel digits : Nat) (scale : Int) : Nat × Int :=
  match fuel with
  | 0 => (digits, scale)
  | fuel + 1 =>
    if digits != 0 && digits % 10 == 0 then dropZeros fuel (digits / 10) (scale + 1)
    else (digits, scale)

/-- The fewest digits, and the power of ten of the last of them. Seventeen always suffice. -/
def shortest (mantissa : Nat) (exponent : Int) : Nat × Int :=
  let (num, den) := Double.fraction mantissa exponent
  let lead := leadingExponent num den
  let found := (List.range 17).findSome? fun (k : Nat) =>
    let scale := lead - k
    (gridPoint mantissa exponent scale).map fun digits => (digits, scale)
  match found with
  | some (digits, scale) => dropZeros 20 digits scale
  | none => (mantissa, 0)

/-! ## Layout -/

/-- How digits become text. -/
structure Format where
  /-- Exponents of the leading digit that are written without an exponent; all, where absent. -/
  positional : Option (Int × Int)
  /-- Whole numbers keep `.0`. -/
  keepPoint : Bool

/-- `n` zeros. -/
def zeros (n : Nat) : List Char := List.replicate n '0'

/-- Digits with the point put where the leading digit has the power `lead`. -/
def positionalText (keepPoint : Bool) (digits : List Char) (lead : Int) : List Char :=
  if lead < 0 then '0' :: '.' :: zeros (-lead - 1).toNat ++ digits
  else
    let whole := lead.toNat + 1
    if digits.length ≤ whole then
      digits ++ zeros (whole - digits.length) ++ (if keepPoint then ['.', '0'] else [])
    else digits.take whole ++ '.' :: digits.drop whole

/-- One digit before the point, and a signed exponent. -/
def exponentText (digits : List Char) (lead : Int) : List Char :=
  let fractional := digits.drop 1
  digits.take 1 ++ (if fractional.isEmpty then [] else '.' :: fractional) ++
    ['e', if lead < 0 then '-' else '+'] ++ Nat.toDigits 10 lead.natAbs

/-- The text of a number. -/
def Format.render (format : Format) : Double → String
  | .nan => "NaN"
  | .infinite negative => if negative then "-inf" else "inf"
  | .finite negative mantissa exponent =>
    let sign := if negative then ['-'] else []
    let body :=
      if mantissa = 0 then if format.keepPoint then ['0', '.', '0'] else ['0']
      else
        let (digits, scale) := shortest mantissa exponent
        let text := Nat.toDigits 10 digits
        let lead := scale + text.length - 1
        match format.positional with
        | some (least, greatest) =>
          if least ≤ lead && lead ≤ greatest then positionalText format.keepPoint text lead
          else exponentText text lead
        | none => positionalText format.keepPoint text lead
    String.ofList (sign ++ body)

/-- Positional from `1e-5` up to below `1e16`, whole numbers with `.0`. -/
def Format.document : Format := ⟨some (-5, 15), true⟩

/-- Positional throughout, whole numbers bare. -/
def Format.plain : Format := ⟨none, false⟩

end SchemaGen.Decimal
