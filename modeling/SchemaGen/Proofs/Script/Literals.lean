import SchemaGen.Proofs.Script.Characters
import SchemaGen.Text.Hexadecimal

/-! # String literals and names in a script

The value of a string in a script is a sequence of UTF-16 units. A literal gives them one character
at a time, in strict mode and on one line: a backslash at the end of a line, which would carry the
literal over to the next, is refused with the other breaks. A reader never gives more units than it
takes from the text and fewer once it meets a backslash (`length_of_readString`), so a text is the
value of its own characters in quotes exactly if it holds no quote, no backslash and no break
(`readString_eq_iff`). The same count settles names, whose characters can be escapes too
(`readName_eq_iff`).
-/

namespace SchemaGen.Script

set_option autoImplicit false
set_option maxRecDepth 20000

open SchemaGen.Text

/-! ## Units -/

/-- The UTF-16 units of a code point. -/
def pointUnits (n : Nat) : List Nat :=
  if n < 0x10000 then [n]
  else [0xD800 + (n - 0x10000) / 0x400, 0xDC00 + (n - 0x10000) % 0x400]

def units (cs : List Char) : List Nat := cs.flatMap fun c => pointUnits c.toNat

theorem units_cons (c : Char) (cs : List Char) :
    units (c :: cs) = pointUnits c.toNat ++ units cs := List.flatMap_cons

theorem units_append (as bs : List Char) : units (as ++ bs) = units as ++ units bs :=
  List.flatMap_append

theorem length_pointUnits (n : Nat) : 1 ≤ (pointUnits n).length ∧ (pointUnits n).length ≤ 2 := by
  unfold pointUnits
  split <;> simp

theorem pointUnits_ne_nil (n : Nat) : pointUnits n ≠ [] :=
  List.ne_nil_of_length_pos (length_pointUnits n).1

theorem toNat_valid (c : Char) : c.toNat < 0xD800 ∨ 0xDFFF < c.toNat ∧ c.toNat < 0x110000 := c.valid

/-- No character starts with the units of another, as none is a surrogate. -/
theorem pointUnits_append_inj {c d : Char} {us vs : List Nat}
    (h : pointUnits c.toNat ++ us = pointUnits d.toNat ++ vs) : c = d ∧ us = vs := by
  have hc := toNat_valid c
  have hd := toNat_valid d
  have heq : c.toNat = d.toNat ∧ us = vs := by
    unfold pointUnits at h
    split at h <;> split at h <;>
      simp only [List.cons_append, List.nil_append, List.cons.injEq] at h
    · exact h
    · omega
    · omega
    · obtain ⟨hhigh, hlow, hrest⟩ := h
      exact ⟨by omega, hrest⟩
  exact ⟨Char.toNat_inj.mp heq.1, heq.2⟩

theorem units_injective : Function.Injective units := by
  intro as
  induction as with
  | nil =>
    intro bs h
    cases bs with
    | nil => rfl
    | cons d bs =>
      rw [units_cons] at h
      exact absurd (List.append_eq_nil_iff.mp h.symm).1 (pointUnits_ne_nil _)
  | cons c as ih =>
    intro bs h
    cases bs with
    | nil =>
      rw [units_cons] at h
      exact absurd (List.append_eq_nil_iff.mp h).1 (pointUnits_ne_nil _)
    | cons d bs =>
      rw [units_cons, units_cons] at h
      obtain ⟨rfl, hrest⟩ := pointUnits_append_inj h
      rw [ih hrest]

/-! ## Code points by their number -/

/-- A code point given by its number, as far as it has been read. -/
inductive Numeral where
  /-- Behind `\u`. -/
  | opening
  /-- Some digits are left to come. -/
  | digits (left value : Nat)
  /-- In braces, where at least one digit has to come. -/
  | braced (value : Option Nat)
  deriving DecidableEq, Repr

namespace Numeral

/-- One character further: still a numeral, or the code point. -/
def step : Numeral → Char → Option (Numeral ⊕ Nat)
  | .opening, c =>
    if c = '\x7b' then some (.inl (.braced none))
    else (hexDigit? c).map fun d => .inl (.digits 3 d)
  | .digits left value, c =>
    (hexDigit? c).map fun d =>
      if left = 1 then .inr (value * 16 + d) else .inl (.digits (left - 1) (value * 16 + d))
  | .braced value, c =>
    if c = '\x7d' then value.map .inr
    else (hexDigit? c).bind fun d =>
      if value.getD 0 * 16 + d < 0x110000 then some (.inl (.braced (some (value.getD 0 * 16 + d))))
      else none

/-- How many units a numeral may give beyond the characters that follow. -/
def slack : Numeral → Nat
  | .opening => 0
  | .digits .. | .braced _ => 1

theorem slack_le (n : Numeral) : n.slack ≤ 1 := by cases n <;> simp [slack]

theorem slack_of_step_eq_inr {n : Numeral} {c : Char} {v : Nat} (h : n.step c = some (.inr v)) :
    n.slack = 1 := by
  cases n with
  | opening =>
    simp only [step] at h
    split at h
    · cases h
    · obtain ⟨d, -, hd⟩ := Option.map_eq_some_iff.mp h
      cases hd
  | digits left value => rfl
  | braced value => rfl

end Numeral

/-! ## String literals -/

/-- Where a literal stands between two of its characters. -/
inductive Part where
  | plain
  /-- Behind a backslash. -/
  | escape
  /-- Behind `\0`, where no digit may follow. -/
  | zero
  | numeral (n : Numeral)
  deriving DecidableEq, Repr

/-- The breaks that a literal cannot hold. -/
def isBreak (c : Char) : Bool := c == '\n' || c == '\r'

/-- What a character stands for behind a backslash. -/
def escapeValue (c : Char) : Nat :=
  match c with
  | 'b' => 8
  | 't' => 9
  | 'n' => 10
  | 'v' => 11
  | 'f' => 12
  | 'r' => 13
  | _ => c.toNat

def plainStep (c : Char) : Option (Part × List Nat) :=
  if c = '\\' then some (.escape, [])
  else if isBreak c then none
  else some (.plain, pointUnits c.toNat)

def escapeStep (c : Char) : Option (Part × List Nat) :=
  if c = 'x' then some (.numeral (.digits 2 0), [])
  else if c = 'u' then some (.numeral .opening, [])
  else if c = '0' then some (.zero, [0])
  else if c.isDigit || isBreak c || c == '\u2028' || c == '\u2029' then none
  else some (.plain, pointUnits (escapeValue c))

namespace Part

/-- One character further, with the units it gives. -/
def step : Part → Char → Option (Part × List Nat)
  | .plain, c => plainStep c
  | .escape, c => escapeStep c
  | .zero, c => if c.isDigit then none else plainStep c
  | .numeral n, c =>
    match n.step c with
    | some (.inl m) => some (.numeral m, [])
    | some (.inr v) => some (.plain, pointUnits v)
    | none => none

/-- A quote ends the literal here. -/
def closes : Part → Bool
  | .plain | .zero => true
  | .escape | .numeral _ => false

def slack : Part → Nat
  | .numeral n => n.slack
  | _ => 0

end Part

/-- The value of a literal from some part on, and the text behind its quote. -/
def readString (quote : Char) : Part → List Char → Option (List Nat × List Char)
  | _, [] => none
  | part, c :: cs =>
    if part.closes && c == quote then some ([], cs)
    else
      match part.step c with
      | none => none
      | some (next, us) => (readString quote next cs).map fun read => (us ++ read.1, read.2)

theorem length_escapeValue (c : Char) :
    (pointUnits (escapeValue c)).length ≤ (pointUnits c.toNat).length := by
  unfold escapeValue
  split <;> exact Nat.le_refl _

theorem length_of_plainStep {c : Char} {next : Part} {us : List Nat}
    (h : plainStep c = some (next, us)) :
    us.length + next.slack ≤ (pointUnits c.toNat).length := by
  unfold plainStep at h
  split at h
  · cases h
    exact Nat.zero_le _
  · split at h
    · cases h
    · cases h
      exact Nat.le_refl _

theorem length_of_escapeStep {c : Char} {next : Part} {us : List Nat}
    (h : escapeStep c = some (next, us)) :
    us.length + next.slack ≤ (pointUnits c.toNat).length := by
  have hpos := (length_pointUnits c.toNat).1
  unfold escapeStep at h
  repeat' split at h
  all_goals cases h
  · exact hpos
  · exact Nat.zero_le _
  · exact hpos
  · exact length_escapeValue c

/-- A step gives no more units than it takes. -/
theorem length_of_step {part next : Part} {c : Char} {us : List Nat}
    (h : part.step c = some (next, us)) :
    us.length + next.slack ≤ (pointUnits c.toNat).length + part.slack := by
  have hpos := (length_pointUnits c.toNat).1
  cases part with
  | plain => exact length_of_plainStep h
  | escape => exact length_of_escapeStep h
  | zero =>
    simp only [Part.step] at h
    split at h
    · cases h
    · exact length_of_plainStep h
  | numeral n =>
    simp only [Part.step] at h
    split at h
    · next m _ =>
      cases h
      have hm := m.slack_le
      simp only [Part.slack, List.length_nil]
      omega
    · next v hv =>
      cases h
      have hn := Numeral.slack_of_step_eq_inr hv
      have hv := (length_pointUnits v).2
      simp only [Part.slack]
      omega
    · cases h

/-- A literal takes one unit more than it gives, for its quote, unless it takes more still. -/
theorem length_of_readString {quote : Char} {part : Part} {cs rest : List Char} {us : List Nat}
    (h : readString quote part cs = some (us, rest)) :
    us.length + (units rest).length + 1 ≤ (units cs).length + part.slack := by
  induction cs generalizing part us with
  | nil => cases h
  | cons c cs ih =>
    have hpos := (length_pointUnits c.toNat).1
    rw [units_cons, List.length_append]
    rw [readString] at h
    split at h
    · cases h
      simp only [List.length_nil]
      omega
    · split at h
      · cases h
      · next next vs hstep =>
        obtain ⟨read, hread, hpair⟩ := Option.map_eq_some_iff.mp h
        cases hpair
        have hrest := ih hread
        have htaken := length_of_step hstep
        rw [List.length_append]
        omega

example : readString '"' .plain "\\u\x7b1F600\x7d\",".toList = some ([0xD83D, 0xDE00], [',']) := by
  decide

/-- The text stands for itself between double quotes. -/
def Verbatim (cs : List Char) : Prop := ∀ c ∈ cs, c ≠ '"' ∧ c ≠ '\\' ∧ isBreak c = false

instance (cs : List Char) : Decidable (Verbatim cs) := List.decidableBAll _ cs

theorem Verbatim.cons_iff {c : Char} {cs : List Char} :
    Verbatim (c :: cs) ↔ (c ≠ '"' ∧ c ≠ '\\' ∧ isBreak c = false) ∧ Verbatim cs :=
  List.forall_mem_cons

theorem readString_plain {c : Char} (hquote : c ≠ '"') (hslash : c ≠ '\\')
    (hbreak : isBreak c = false) (cs : List Char) :
    readString '"' .plain (c :: cs) =
      (readString '"' .plain cs).map fun read => (pointUnits c.toNat ++ read.1, read.2) := by
  simp [readString, Part.closes, Part.step, plainStep, hquote, hslash, hbreak]

theorem readString_escape (cs : List Char) :
    readString '"' .plain ('\\' :: cs) =
      (readString '"' .escape cs).map fun read => (read.1, read.2) := by
  simp [readString, Part.closes, Part.step, plainStep]

theorem readString_break {c : Char} (hbreak : isBreak c = true) (cs : List Char) :
    readString '"' .plain (c :: cs) = none := by
  have hquote : c ≠ '"' := by
    rintro rfl
    exact absurd hbreak (by decide)
  have hslash : c ≠ '\\' := by
    rintro rfl
    exact absurd hbreak (by decide)
  simp [readString, Part.closes, Part.step, plainStep, hquote, hslash, hbreak]

/-- A text in double quotes is read as itself, up to the quote behind it, exactly if it is
verbatim. -/
theorem readString_eq_iff (cs tail : List Char) :
    readString '"' .plain (cs ++ '"' :: tail) = some (units cs, tail) ↔ Verbatim cs := by
  induction cs with
  | nil => exact ⟨fun _ _ h => absurd h List.not_mem_nil, fun _ => rfl⟩
  | cons c cs ih =>
    rw [Verbatim.cons_iff, List.cons_append, units_cons]
    by_cases hquote : c = '"'
    · -- The literal would be empty.
      refine iff_of_false (fun h => ?_) fun h => h.1.1 hquote
      have hnil : ([] : List Nat) = pointUnits c.toNat ++ units cs := by
        rw [hquote] at h ⊢
        exact (Prod.mk.inj (Option.some.inj h)).1
      exact pointUnits_ne_nil _ (List.append_eq_nil_iff.mp hnil.symm).1
    by_cases hslash : c = '\\'
    · -- A backslash costs a unit that the text would have to give.
      refine iff_of_false (fun h => ?_) fun h => h.1.2.1 hslash
      rw [hslash, readString_escape, Option.map_id'] at h
      have hlength := length_of_readString h
      simp only [units_append, units_cons, List.length_append, Part.slack] at hlength
      have hone : (pointUnits '\\'.toNat).length = 1 := by decide
      have hend : (pointUnits '"'.toNat).length = 1 := by decide
      omega
    cases hbreak : isBreak c with
    | true =>
      rw [readString_break hbreak]
      simp
    | false =>
      rw [readString_plain hquote hslash hbreak, ← ih, Option.map_eq_some_iff]
      simp [hquote, hslash]

/-! ## Names -/

/-- Where a name stands between two of its characters. -/
inductive Spot where
  | between
  /-- Behind a backslash. -/
  | slash
  | numeral (n : Numeral)
  deriving DecidableEq, Repr

/-- A character that a name can start with, or go on with. -/
def isAllowed (first : Bool) (c : Char) : Bool := if first then isNameStart c else isNamePart c

namespace Spot

/-- One character further, with the units it gives. The characters that are given by their number
have to be allowed too. -/
def step (first : Bool) : Spot → Char → Option (Spot × List Nat)
  | .between, c =>
    if c = '\\' then some (.slash, [])
    else if isAllowed first c then some (.between, pointUnits c.toNat)
    else none
  | .slash, c => if c = 'u' then some (.numeral .opening, []) else none
  | .numeral n, c =>
    match n.step c with
    | some (.inl m) => some (.numeral m, [])
    | some (.inr v) => if isAllowed first (Char.ofNat v) then some (.between, pointUnits v) else none
    | none => none

/-- The name may end here. -/
def closes (first : Bool) (spot : Spot) : Bool := !first && spot == .between

def slack : Spot → Nat
  | .numeral n => n.slack
  | _ => 0

end Spot

/-- The value of a name from some spot on, and the text behind its last character. -/
def readName (first : Bool) (spot : Spot) : List Char → Option (List Nat × List Char)
  | [] => if spot.closes first then some ([], []) else none
  | c :: cs =>
    match spot.step first c with
    | some (next, us) =>
      (readName (first && us.isEmpty) next cs).map fun read => (us ++ read.1, read.2)
    | none => if spot.closes first then some ([], c :: cs) else none

theorem length_of_spotStep {first : Bool} {spot next : Spot} {c : Char} {us : List Nat}
    (h : spot.step first c = some (next, us)) :
    us.length + next.slack ≤ (pointUnits c.toNat).length + spot.slack := by
  have hpos := (length_pointUnits c.toNat).1
  cases spot with
  | between =>
    simp only [Spot.step] at h
    split at h
    · cases h
      exact Nat.zero_le _
    · split at h <;> cases h
      exact Nat.le_refl _
  | slash =>
    simp only [Spot.step] at h
    split at h <;> cases h
    exact Nat.zero_le _
  | numeral n =>
    simp only [Spot.step] at h
    split at h
    · next m _ =>
      cases h
      have hm := m.slack_le
      simp only [Spot.slack, List.length_nil]
      omega
    · next v hv =>
      split at h <;> cases h
      have hn := Numeral.slack_of_step_eq_inr hv
      have hunits := (length_pointUnits v).2
      simp only [Spot.slack]
      omega
    · cases h

theorem length_of_readName {first : Bool} {spot : Spot} {cs rest : List Char} {us : List Nat}
    (h : readName first spot cs = some (us, rest)) :
    us.length + (units rest).length ≤ (units cs).length + spot.slack := by
  induction cs generalizing first spot us with
  | nil =>
    rw [readName] at h
    split at h <;> cases h
    exact Nat.zero_le _
  | cons c cs ih =>
    rw [readName] at h
    split at h
    · next next vs hstep =>
      obtain ⟨read, hread, hpair⟩ := Option.map_eq_some_iff.mp h
      cases hpair
      have hrest := ih hread
      have htaken := length_of_spotStep hstep
      rw [units_cons, List.length_append, List.length_append]
      omega
    · split at h <;> cases h
      rw [List.length_nil]
      omega

/-- A name, or the rest of one. -/
def isNameFrom (first : Bool) : List Char → Bool
  | [] => !first
  | c :: cs => isAllowed first c && isNameFrom false cs

theorem isNameFrom_false (cs : List Char) : isNameFrom false cs = cs.all isNamePart := by
  induction cs with
  | nil => rfl
  | cons c cs ih => rw [isNameFrom, ih, isAllowed, List.all_cons]; rfl

theorem isNameFrom_true (cs : List Char) : isNameFrom true cs = isName cs := by
  cases cs with
  | nil => rfl
  | cons c cs => rw [isNameFrom, isNameFrom_false, isName, isAllowed]; rfl

/-- No name goes on with this text. -/
def EndsName (tail : List Char) : Prop := ∀ c ∈ tail.head?, c ≠ '\\' ∧ isNamePart c = false

theorem EndsName.not_isAllowed {c : Char} {cs : List Char} (h : EndsName (c :: cs))
    (first : Bool) : c ≠ '\\' ∧ isAllowed first c = false := by
  obtain ⟨hslash, hpart⟩ := h c rfl
  cases first with
  | false => exact ⟨hslash, hpart⟩
  | true => exact ⟨hslash, (Bool.or_eq_false_iff.mp hpart).1⟩

theorem readName_of_endsName {tail : List Char} (h : EndsName tail) (first : Bool) :
    readName first .between tail = if first then none else some ([], tail) := by
  cases tail with
  | nil => cases first <;> rfl
  | cons c cs =>
    obtain ⟨hslash, hallowed⟩ := h.not_isAllowed first
    have hstep : Spot.step first .between c = none := by simp [Spot.step, hslash, hallowed]
    rw [readName, hstep]
    cases first <;> rfl

/-- What stands before such a text is read as itself exactly if it is a name. -/
theorem readName_eq_iff {first : Bool} {cs tail : List Char} (htail : EndsName tail) :
    readName first .between (cs ++ tail) = some (units cs, tail) ↔ isNameFrom first cs = true := by
  induction cs generalizing first with
  | nil =>
    rw [List.nil_append, readName_of_endsName htail, isNameFrom]
    cases first <;> simp [units]
  | cons c cs ih =>
    rw [List.cons_append, units_cons, isNameFrom, Bool.and_eq_true, ← ih, readName]
    by_cases hslash : c = '\\'
    · -- As in a literal, a backslash costs a unit.
      have hnot : isAllowed first '\\' = false := by cases first <;> decide
      subst hslash
      refine iff_of_false (fun h => ?_) fun h => by rw [hnot] at h; cases h.1
      obtain ⟨read, hread, hpair⟩ := Option.map_eq_some_iff.mp h
      have hlength := length_of_readName hread
      have hone : (pointUnits '\\'.toNat).length = 1 := by decide
      obtain ⟨hvalue, hrest⟩ := Prod.mk.inj hpair
      rw [List.nil_append] at hvalue
      rw [hvalue, hrest] at hlength
      simp only [units_append, List.length_append, Spot.slack] at hlength
      omega
    cases hallowed : isAllowed first c with
    | true =>
      have hstep : Spot.step first .between c = some (.between, pointUnits c.toNat) := by
        simp [Spot.step, hslash, hallowed]
      have hlater : (first && (pointUnits c.toNat).isEmpty) = false := by
        simp [pointUnits_ne_nil]
      rw [hstep]
      dsimp only
      rw [hlater, Option.map_eq_some_iff]
      simp
    | false =>
      have hstep : Spot.step first .between c = none := by simp [Spot.step, hslash, hallowed]
      rw [hstep]
      refine iff_of_false (fun h => ?_) fun h => Bool.false_ne_true h.1
      dsimp only at h
      split at h
      · have hnil := (Prod.mk.inj (Option.some.inj h)).1
        exact pointUnits_ne_nil _ (List.append_eq_nil_iff.mp hnil.symm).1
      · cases h

/-! ## Keys -/

/-- The value of a key in an object literal, a literal or a name, and the text behind it. -/
def readKey : List Char → Option (List Nat × List Char)
  | '"' :: cs => readString '"' .plain cs
  | '\'' :: cs => readString '\'' .plain cs
  | cs => readName true .between cs

theorem readKey_quoted_iff (cs tail : List Char) :
    readKey ('"' :: (cs ++ '"' :: tail)) = some (units cs, tail) ↔ Verbatim cs :=
  readString_eq_iff cs tail

theorem readKey_of_head {text : List Char} (h : ∀ c ∈ text.head?, c ≠ '"' ∧ c ≠ '\'') :
    readKey text = readName true .between text := by
  unfold readKey
  split
  · exact absurd rfl (h _ rfl).1
  · exact absurd rfl (h _ rfl).2
  · rfl

theorem readKey_bare_iff {cs tail : List Char} (htail : EndsName tail)
    (hquote : ∀ c ∈ tail.head?, c ≠ '"' ∧ c ≠ '\'') :
    readKey (cs ++ tail) = some (units cs, tail) ↔ isName cs = true := by
  -- A literal takes its two quotes more than it gives.
  have hliteral : ∀ (quote : Char) (rest : List Char), isNameStart quote = false →
      (readString quote .plain (rest ++ tail) = some (units (quote :: rest), tail) ↔
        isName (quote :: rest) = true) := by
    intro quote rest hstart
    refine iff_of_false (fun h => ?_) (by simp [isName, hstart])
    have hlength := length_of_readString h
    have hpos := (length_pointUnits quote.toNat).1
    simp only [units_append, units_cons, List.length_append, Part.slack] at hlength
    omega
  cases cs with
  | nil =>
    rw [List.nil_append, readKey_of_head hquote, readName_of_endsName htail]
    simp [isName]
  | cons c cs =>
    by_cases hdouble : c = '"'
    · subst hdouble
      exact hliteral '"' cs (by decide)
    by_cases hsingle : c = '\''
    · subst hsingle
      exact hliteral '\'' cs (by decide)
    have hhead : ∀ d ∈ (c :: cs ++ tail).head?, d ≠ '"' ∧ d ≠ '\'' := by
      rintro d ⟨⟩
      exact ⟨hdouble, hsingle⟩
    rw [readKey_of_head hhead, readName_eq_iff htail, isNameFrom_true]

end SchemaGen.Script
