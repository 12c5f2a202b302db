import SchemaGen.Proofs.Json.Steps
import SchemaGen.Text.Blank

/-! # Characters of JSON text

Text that has a value is not blank (`allBlank_eq_false_of_parse`) and holds no zero
(`zero_not_mem_of_parse`). A zero is refused wherever it comes, except among the four digits of an
escape, where it shows when they are complete: until then they stay spoiled.
-/

namespace SchemaGen.Json

set_option autoImplicit false

namespace Reader

variable {o : Outline} {s : State} {c : Char}

/-! ## Awaited letters -/

/-- The letters that must follow in a word. -/
def Mode.letters : Mode → List Char
  | .word rest _ => rest
  | _ => []

/-- No zero is awaited. -/
def Sound (s : State) : Prop := '\x00' ∉ s.mode.letters

theorem lasting_noZero : Lasting fun m => '\x00' ∉ m.letters where
  pending m hm := by
    cases m with
    | word | done => cases hm
    | _ => exact List.not_mem_nil
  composed _ _ := List.not_mem_nil
  truth := by decide
  falsehood := by decide
  null := by decide
  letter h hmem := h (List.mem_cons_of_mem _ hmem)
  spelled _ := List.not_mem_nil

theorem sound_step (hs : Sound s) : Yields Sound (step o s c) := lasting_noZero.step hs

/-! ## Zeros -/

/-- The digits of an escape that is not complete, latest first. -/
def Mode.digits : Mode → List Char
  | .string _ (.hex digits) _ | .string _ (.pairedHex _ digits) _ => digits
  | _ => []

/-- A zero stands among the digits of an escape. -/
def Spoiled (s : State) : Prop := '\x00' ∈ s.mode.digits

theorem hexNumber?_of_zero_mem {digits : List Char} (h : '\x00' ∈ digits) :
    Text.hexNumber? digits = none := by
  have hnone (cs : List Char) : cs.foldl (fun acc c => do
      return (← acc) * 16 + (← Text.hexDigit? c)) (none : Option Nat) = none := by
    induction cs with
    | nil => rfl
    | cons c cs ih => exact ih
  obtain ⟨before, after, rfl⟩ := List.append_of_mem h
  have hdigit : Text.hexDigit? '\x00' = none := by decide
  rw [Text.hexNumber?, List.foldl_append, List.foldl_cons, hdigit]
  cases before.foldl _ (some 0) <;> exact hnone after

theorem yields_hexUnit {P : State → Prop} {digits : List Char} (h : '\x00' ∈ digits)
    (f : Nat → Step) : Yields P (hexUnit digits >>= f) := by
  rw [hexUnit, hexNumber?_of_zero_mem (List.mem_reverse.mpr h)]
  exact yields_error _

section Digits

variable {isKey : Bool} {digits chars : List Char}

/-- Digits with a zero among them stay until they are complete, and then they are refused. -/
theorem spoiled_hex (h : '\x00' ∈ c :: digits) :
    Yields Spoiled (stepString o s isKey (.hex digits) chars c) := by
  simp only [stepString]
  split
  · exact yields_hexUnit h _
  · exact yields_ok.mpr h

theorem spoiled_pairedHex {lead : Nat} (h : '\x00' ∈ c :: digits) :
    Yields Spoiled (stepString o s isKey (.pairedHex lead digits) chars c) := by
  simp only [stepString]
  split
  · exact yields_hexUnit h _
  · exact yields_ok.mpr h

end Digits

theorem spoiled_step_of_spoiled (hs : Spoiled s) : Yields Spoiled (step o s c) := by
  unfold Spoiled Mode.digits at hs
  split at hs
  · next hmode =>
    simp only [step, hmode]
    exact spoiled_hex (List.mem_cons_of_mem c hs)
  · next hmode =>
    simp only [step, hmode]
    exact spoiled_pairedHex (List.mem_cons_of_mem c hs)
  · cases hs

theorem spoiled_stepNext_zero : Yields Spoiled (stepNext o s '\x00') := by
  unfold stepNext
  repeat' split
  all_goals simp_all [isGap]

theorem spoiled_stepNumber_zero (part : NumberPart) (spelling : List Char) :
    Yields Spoiled (stepNumber o s part spelling '\x00') := by
  have hnext : part.next? '\x00' = none := by cases part <;> decide
  unfold stepNumber
  rw [hnext]
  dsimp only
  split
  · simp
  · exact .bind fun t _ => spoiled_stepNext_zero

theorem spoiled_stepString_zero (isKey : Bool) (part : StringPart) (chars : List Char) :
    Yields Spoiled (stepString o s isKey part chars '\x00') := by
  cases part with
  | plain => simp [stepString]
  | escape => simp [stepString, escaped?]
  | hex digits => exact spoiled_hex List.mem_cons_self
  | paired lead => simp [stepString]
  | pairedEscape lead => simp [stepString]
  | pairedHex lead digits => exact spoiled_pairedHex List.mem_cons_self

theorem spoiled_beginValue_zero : Yields Spoiled (beginValue o s '\x00') := by
  simp [beginValue]

theorem spoiled_stepValue_zero : Yields Spoiled (stepValue o s '\x00') := by
  unfold stepValue
  repeat' split
  all_goals first | exact spoiled_beginValue_zero | simp

/-- A zero either is refused or spoils an escape. -/
theorem spoiled_step_zero (hs : Sound s) : Yields Spoiled (step o s '\x00') := by
  have hgap : isGap '\x00' = false := by decide
  cases hmode : s.mode with
  | value =>
    simp only [step, hmode, hgap, Bool.false_eq_true, if_false]
    exact spoiled_stepValue_zero
  | firstItem => simp [step, hmode, hgap, spoiled_beginValue_zero]
  | firstKey => simp [step, hmode, hgap]
  | key => simp [step, hmode, hgap, stepKey]
  | colon key =>
    simp only [step, hmode, hgap, Bool.false_eq_true, if_false, stepColon]
    repeat' split
    all_goals simp_all
  | next =>
    simp only [step, hmode]
    exact spoiled_stepNext_zero
  | done v =>
    simp only [step, hmode]
    exact spoiled_stepNext_zero
  | word rest v =>
    rw [Sound, hmode, Mode.letters] at hs
    rcases rest with _ | ⟨first, _ | ⟨second, rest⟩⟩
    · simp only [step, hmode]
      exact .bind fun t _ => spoiled_stepNext_zero
    · have hlast : '\x00' ≠ first := fun h => hs (h ▸ List.mem_cons_self)
      simp [step, hmode, hlast]
    · have hfirst : '\x00' ≠ first := fun h => hs (h ▸ List.mem_cons_self)
      simp [step, hmode, hfirst]
  | number part spelling =>
    simp only [step, hmode]
    exact spoiled_stepNumber_zero part spelling
  | string isKey part chars =>
    simp only [step, hmode]
    exact spoiled_stepString_zero isKey part chars

/-! ## Runs -/

theorem finish_of_spoiled (hs : Spoiled s) (v : Json) : finish o s ≠ .ok v := by
  unfold Spoiled Mode.digits at hs
  split at hs
  · next hmode => simp [finish, hmode, missing, bind, Except.bind, throw, throwThe,
      MonadExceptOf.throw]
  · next hmode => simp [finish, hmode, missing, bind, Except.bind, throw, throwThe,
      MonadExceptOf.throw]
  · cases hs

theorem feed_of_spoiled (hs : Spoiled s) (n : Nat) (cs : List Char) (v : Json) :
    feed o s n cs ≠ .ok v := by
  induction cs generalizing s n with
  | nil =>
    intro h
    cases hfinish : finish o s with
    | error e => rw [feed, hfinish] at h; cases h
    | ok w => exact finish_of_spoiled hs w hfinish
  | cons c cs ih =>
    intro h
    obtain ⟨t, m, ht, hrest⟩ := feed_cons_eq_ok h
    exact ih (spoiled_step_of_spoiled hs t ht) m hrest

theorem zero_not_mem_of_feed (hs : Sound s) {n : Nat} {cs : List Char} {v : Json}
    (h : feed o s n cs = .ok v) : '\x00' ∉ cs := by
  induction cs generalizing s n with
  | nil => exact List.not_mem_nil
  | cons c cs ih =>
    obtain ⟨t, m, ht, hrest⟩ := feed_cons_eq_ok h
    -- A zero that comes first spoils the rest of the run; another one stands in what is left.
    rintro (_ | ⟨_, hmem⟩)
    · exact feed_of_spoiled (spoiled_step_zero hs t ht) m cs v hrest
    · exact ih (sound_step hs t ht) hrest hmem

/-! ## Blanks -/

theorem isDigit_of_isBlank (hc : Text.isBlank c = true) : c.isDigit = false := by
  refine Bool.eq_false_iff.mpr fun hdigit => ?_
  obtain ⟨r, hr, hlow, hhigh⟩ := Text.inRanges_iff.mp hc
  have hapart : ∀ r ∈ Text.blankRanges, r.2 < 48 ∨ 57 < r.1 := by decide
  have hbounds : 48 ≤ c.toNat ∧ c.toNat ≤ 57 := by
    simpa [Char.isDigit, UInt32.le_iff_toNat_le] using hdigit
  have := hapart r hr
  omega

/-- Before a value, a blank is passed over or refused. -/
theorem step_start_of_blank (hc : Text.isBlank c = true) : Yields (· = start) (step o start c) := by
  have hne {d : Char} (hd : Text.isBlank d = false) : c ≠ d := by
    rintro rfl
    rw [hc] at hd
    cases hd
  have hbegin : Yields (· = start) (beginValue o start c) := by
    unfold beginValue
    rw [if_neg (hne (by decide)), if_neg (hne (by decide)), if_neg (hne (by decide)),
      if_neg (hne (by decide)), if_neg (hne (by decide)), isDigit_of_isBlank hc,
      if_neg Bool.false_ne_true, if_neg (hne (by decide)), if_neg (hne (by decide)),
      if_neg (hne (by decide))]
    simp
  show Yields _ (if isGap c then .ok start else beginValue o start c)
  split
  · simp
  · exact hbegin

theorem feed_start_of_blank {cs : List Char} (hcs : cs.all Text.isBlank = true) (n : Nat) (v : Json) :
    feed o start n cs ≠ .ok v := by
  induction cs generalizing n with
  | nil => exact nofun
  | cons c cs ih =>
    obtain ⟨hc, hrest⟩ : Text.isBlank c = true ∧ cs.all Text.isBlank = true := by simpa using hcs
    intro h
    obtain ⟨t, m, ht, hfeed⟩ := feed_cons_eq_ok h
    obtain rfl := step_start_of_blank hc t ht
    exact ih hrest m hfeed

end Reader

/-! ## Texts -/

variable {text : String} {v : Json}

theorem feed_of_parse (h : parse text = .ok v) : Reader.feed {} Reader.start 0 text.toList = .ok v := by
  unfold parse Reader.run at h
  cases hfeed : Reader.feed {} Reader.start 0 text.toList with
  | error e => rw [hfeed] at h; cases h
  | ok w => rw [hfeed] at h; cases h; rfl

theorem zero_not_mem_of_parse (h : parse text = .ok v) : '\x00' ∉ text.toList :=
  have hstart : Reader.Sound Reader.start := List.not_mem_nil
  Reader.zero_not_mem_of_feed hstart (feed_of_parse h)

theorem allBlank_eq_false_of_parse (h : parse text = .ok v) : Text.allBlank text = false := by
  refine Bool.eq_false_iff.mpr fun hblank => ?_
  exact Reader.feed_start_of_blank hblank 0 v (feed_of_parse h)

end SchemaGen.Json
