import SchemaGen.Text.Ranges
import SchemaGen.Text.CaseTables

/-! Full case mappings. A character may map to several. A capital sigma becomes the final sigma
where a cased character stands before it and none after it, case-ignorable characters passed over.
-/

namespace SchemaGen.Text

set_option autoImplicit false

/-! ## Single characters -/

/-- The code point a run maps `n` to, when the run holds `n`. -/
def CaseRun.map? (r : CaseRun) (n : Nat) : Option Nat :=
  if r.first ≤ n && n ≤ r.last && (n - r.first) % r.step == 0 then
    some (r.target + (n - r.first))
  else none

/-- The image of a character under one-to-one runs and expansions; itself where neither holds it. -/
def mapCase (runs : List CaseRun) (expansions : List (Nat × List Nat)) (c : Char) : List Char :=
  match expansions.lookup c.toNat with
  | some several => several.map Char.ofNat
  | none =>
    match runs.findSome? (·.map? c.toNat) with
    | some n => [Char.ofNat n]
    | none => [c]

/-- Upper case of one character. -/
def upperChar (c : Char) : List Char := mapCase upperRuns upperExpansions c

/-- Lower case of one character taken alone. -/
def lowerChar (c : Char) : List Char := mapCase lowerRuns lowerExpansions c

/-! ## Sigma -/

/-- The first character that is not case-ignorable exists and is cased. -/
def meetsCased (cs : List Char) : Bool :=
  match cs.dropWhile (inRanges caseIgnorableRanges) with
  | [] => false
  | c :: _ => inRanges casedRanges c

/-- Lower case of a capital sigma between `before`, read backwards, and `after`. -/
def lowerSigma (before after : List Char) : Char :=
  if meetsCased before && !meetsCased after then 'ς' else 'σ'

/-! ## Texts -/

/-- Lower case of a text that follows `before`, read backwards. -/
def lowerAfter (before : List Char) : List Char → List Char
  | [] => []
  | c :: after =>
    (if c = 'Σ' then [lowerSigma before after] else lowerChar c) ++ lowerAfter (c :: before) after

/-- Lower case of a text. -/
def lower (cs : List Char) : List Char := lowerAfter [] cs

end SchemaGen.Text
