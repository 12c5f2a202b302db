/-! Text as letters, digits and hyphens. What is no ASCII is left out of the text and told after it,
behind a hyphen: in ascending order, each character by the number of steps from the one before it,
where a step is a place in the text or the next character. A number has digits to the base 36, the
lowest first, of which the last is the first to lie below a threshold. -/

namespace SchemaGen.Web.Punycode

set_option autoImplicit false

/-! ## Digits -/

/-- Letters come before digits. -/
def digitChar (d : Nat) : Char :=
  if d < 26 then Char.ofNat ('a'.toNat + d) else Char.ofNat ('0'.toNat + d - 26)

def digit? (c : Char) : Option Nat :=
  if 'a' ≤ c && c ≤ 'z' then some (c.toNat - 'a'.toNat)
  else if '0' ≤ c && c ≤ '9' then some (c.toNat - '0'.toNat + 26)
  else none

/-- The threshold of the digit at a place, where places are counted in steps of 36. -/
def threshold (place bias : Nat) : Nat :=
  if place ≤ bias then 1 else if bias + 26 ≤ place then 26 else place - bias

theorem one_le_threshold (place bias : Nat) : 1 ≤ threshold place bias := by
  unfold threshold
  split
  · omega
  · split <;> omega

/-! ## Bias -/

/-- Divides a number until it is small, and adds up the places. -/
def settle (delta place : Nat) : Nat :=
  if _h : 455 < delta then settle (delta / 35) (place + 36)
  else place + 36 * delta / (delta + 38)
termination_by delta
decreasing_by omega

/-- The bias after a number of steps, which stood for the first character or a later one. -/
def adapt (delta count : Nat) (isFirst : Bool) : Nat :=
  let delta := if isFirst then delta / 700 else delta / 2
  settle (delta + delta / count) 0

/-! ## Writing -/

/-- The digits of a number from a place on. -/
def writeNumber (bias place n : Nat) : List Char :=
  let t := threshold place bias
  if n < t then [digitChar n]
  else digitChar (t + (n - t) % (36 - t)) :: writeNumber bias (place + 36) ((n - t) / (36 - t))
termination_by n
decreasing_by
  have := one_le_threshold place bias
  have := Nat.div_le_self (n - threshold place bias) (36 - threshold place bias)
  omega

/-- What is written so far: the digits, the steps since the last character, the bias, and how many
characters there are. -/
structure Writing where
  written : List Char := []
  delta : Nat := 0
  bias : Nat := 72
  count : Nat

/-- Passes one character of the text while those of a code point are written. -/
def Writing.pass (start codePoint : Nat) (w : Writing) (c : Char) : Writing :=
  if c.toNat < codePoint then { w with delta := w.delta + 1 }
  else if c.toNat = codePoint then
    { written := w.written ++ writeNumber w.bias 36 w.delta
      delta := 0
      bias := adapt w.delta (w.count + 1) (w.count == start)
      count := w.count + 1 }
  else w

/-- Writes the characters of ascending code points, all of which are at least `next`. -/
def Writing.run (text : List Char) (start : Nat) (w : Writing) (next : Nat) : List Nat → Writing
  | [] => w
  | n :: rest =>
    let w := { w with delta := w.delta + (n - next) * (w.count + 1) }
    let w := text.foldl (Writing.pass start n) w
    Writing.run text start { w with delta := w.delta + 1 } (n + 1) rest

/-- A number in an ascending list, once. -/
def insertOnce (n : Nat) : List Nat → List Nat
  | [] => [n]
  | m :: ms => if n < m then n :: m :: ms else if n = m then m :: ms else m :: insertOnce n ms

/-- The ASCII characters of a text. -/
def plain (text : List Char) : List Char := text.filter (·.toNat < 0x80)

/-- The code points of the others in ascending order. -/
def others (text : List Char) : List Nat :=
  (text.filter (0x80 ≤ ·.toNat)).foldl (fun found c => insertOnce c.toNat found) []

/-- A text in letters, digits and hyphens. -/
def encode (text : List Char) : List Char :=
  let head := plain text
  let head := if head.isEmpty then [] else head ++ ['-']
  let count := (plain text).length
  head ++ (Writing.run text count { count } 0x80 (others text)).written

/-! ## Reading -/

/-- A number added to another from a place on, whose digits weigh `weight` there, and what follows.
Nothing exceeds 32 bits. -/
def readNumber (bias : Nat) : List Char → Nat → Nat → Nat → Option (Nat × List Char)
  | [], _, _, _ => none
  | c :: rest, place, weight, n =>
    match digit? c with
    | none => none
    | some d =>
      let n := n + d * weight
      let t := threshold place bias
      if 0xFFFFFFFF < n then none
      else if d < t then some (n, rest)
      else if 0xFFFFFFFF < weight * (36 - t) then none
      else readNumber bias rest (place + 36) (weight * (36 - t)) n

theorem readNumber_length {bias : Nat} {cs rest : List Char} {place weight n m : Nat}
    (h : readNumber bias cs place weight n = some (m, rest)) : rest.length < cs.length := by
  induction cs generalizing place weight n with
  | nil => simp [readNumber] at h
  | cons c cs ih =>
    unfold readNumber at h
    split at h
    · simp at h
    · dsimp only at h
      split at h
      · simp at h
      · split at h
        · simp only [Option.some.injEq, Prod.mk.injEq] at h
          simp [← h.2]
        · split at h
          · simp at h
          · have := ih h
            simp only [List.length_cons]
            omega

/-- The text with the characters that numbers tell. -/
def readOthers (bias codePoint n : Nat) (text : List Char) (cs : List Char) :
    Option (List Char) :=
  match cs with
  | [] => some text
  | c :: rest =>
    match _h : readNumber bias (c :: rest) 36 1 n with
    | none => none
    | some (m, after) =>
      let count := text.length + 1
      let codePoint := codePoint + m / count
      if codePoint < 0xD800 || (0xDFFF < codePoint && codePoint < 0x110000) then
        readOthers (adapt (m - n) count (n == 0)) codePoint (m % count + 1)
          (text.insertIdx (m % count) (Char.ofNat codePoint)) after
      else none
termination_by cs.length
decreasing_by
  have := readNumber_length _h
  simpa using this

/-- Parts a text at its last hyphen, unless it starts with that one. -/
def splitLast (cs : List Char) : List Char × List Char :=
  let tail := (cs.reverse.takeWhile (· != '-')).reverse
  let head := cs.take (cs.length - tail.length - 1)
  if head.isEmpty then ([], cs) else (head, tail)

/-- The text that letters, digits and hyphens stand for. -/
def decode? (cs : List Char) : Option (List Char) :=
  let (head, tail) := splitLast cs
  if head.all (·.toNat < 0x80) then readOthers 72 0x80 0 head tail else none

end SchemaGen.Web.Punycode
