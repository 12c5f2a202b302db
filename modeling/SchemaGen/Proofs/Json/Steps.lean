import SchemaGen.Json.Reader
import SchemaGen.Proofs.Entries
import SchemaGen.Proofs.Traversal

/-! # What every step of the reader keeps

A state waits for something, or spells a word, or has its value. A property of modes that holds
wherever no value is there yet and goes with a word to its value (`Lasting`) is kept by each step
(`Lasting.step`), and so holds of whatever a run gives (`Lasting.feed`). Thus an object that is read
has its keys in ascending order (`ascending_of_parseOutlined`).
-/

namespace SchemaGen.Json

set_option autoImplicit false

namespace Reader

variable {o : Outline} {s : State} {c : Char}

/-! ## States that may follow -/

/-- What holds of the state that a step leads to, if it does not fail. -/
def Yields {ε : Type} (P : State → Prop) (result : Except ε State) : Prop :=
  ∀ t, result = .ok t → P t

section Yields

variable {ε : Type} {P : State → Prop}

@[simp] theorem yields_error (e : ε) : Yields P (.error e) := nofun

@[simp] theorem yields_ok {t : State} : Yields P (.ok t : Except ε State) ↔ P t :=
  ⟨fun h => h t rfl, fun h _ ht => by cases ht; exact h⟩

@[simp] theorem yields_pure {t : State} : Yields P (pure t : Except ε State) ↔ P t := yields_ok

@[simp] theorem yields_refuse (fault : Fault) (reach : Nat) : Yields P (refuse fault reach) := nofun

@[simp] theorem yields_reaching {reach : Nat} {result : Except Fault State} :
    Yields P (reaching reach result) ↔ Yields P result := by
  cases result with
  | error e => exact ⟨fun _ => yields_error e, fun _ => yields_error _⟩
  | ok t => exact yields_ok.trans yields_ok.symm

theorem Yields.bind {α : Type} {x : Except ε α} {f : α → Except ε State}
    (h : ∀ a, x = .ok a → Yields P (f a)) : Yields P (x >>= f) := by
  cases x with
  | error e => exact yields_error e
  | ok a => exact h a rfl

end Yields

/-! ## Lasting properties -/

/-- The value that is there, or will be when its letters are. -/
def Mode.value? : Mode → Option Json
  | .done v | .word _ v => some v
  | _ => none

/-- A value that is put together from its parts. -/
inductive Composed : Json → Prop where
  | number (n : JsonNumber) : Composed (.number n)
  | string (text : String) : Composed (.string text)
  | array (items : List Json) : Composed (.array items)
  | object (written : List (String × Json)) : Composed (ofEntries written)

/-- Holds of all modes without a value and with a composed one, and of words from their first letter
to their value. -/
structure Lasting (P : Mode → Prop) : Prop where
  pending : ∀ m, m.value? = none → P m
  composed : ∀ v, Composed v → P (.done v)
  truth : P (.word ['r', 'u', 'e'] (.bool true))
  falsehood : P (.word ['a', 'l', 's', 'e'] (.bool false))
  null : P (.word ['u', 'l', 'l'] .null)
  letter : ∀ {first rest v}, P (.word (first :: rest) v) → P (.word rest v)
  spelled : ∀ {rest v}, P (.word rest v) → P (.done v)

namespace Lasting

variable {P : Mode → Prop} (hP : Lasting P)

/-! ### Parts -/

include hP

theorem complete {v : Json} (hv : P (.done v)) : Yields (P ·.mode) (complete o s v) := by
  unfold Reader.complete
  split
  · exact yields_error _
  · exact yields_ok.mpr hv
  · exact yields_ok.mpr (hP.pending _ rfl)
  · exact yields_ok.mpr (hP.pending _ rfl)
  · exact yields_error _

theorem close : Yields (P ·.mode) (close o s) := by
  unfold Reader.close
  split
  · exact hP.complete (hP.composed _ (.array _))
  · exact hP.complete (hP.composed _ (.object _))
  · exact yields_error _

theorem finishNumber (spelling : List Char) : Yields (P ·.mode) (finishNumber o s spelling) := by
  unfold Reader.finishNumber
  split
  · exact hP.complete (hP.composed _ (.number _))
  · split
    · exact hP.complete (hP.spelled hP.null)
    · exact yields_error _

/-! ### Steps -/

theorem stepNext (hs : P s.mode) : Yields (P ·.mode) (stepNext o s c) := by
  unfold Reader.stepNext
  repeat' split
  all_goals simp [hs, hP.close, hP.pending _ (show Mode.value? .value = none from rfl),
    hP.pending _ (show Mode.value? .key = none from rfl)]

theorem stepNumber (part : NumberPart) (spelling : List Char) :
    Yields (P ·.mode) (stepNumber o s part spelling c) := by
  unfold Reader.stepNumber
  repeat' split
  · exact yields_refuse _ _
  · exact yields_ok.mpr (hP.pending _ rfl)
  · exact yields_refuse _ _
  · exact .bind fun t ht => hP.stepNext (yields_reaching.mpr (hP.finishNumber spelling) t ht)

theorem stepString (isKey : Bool) (part : StringPart) (chars : List Char) :
    Yields (P ·.mode) (stepString o s isKey part chars c) := by
  have hgo (part : StringPart) (chars : List Char) : P (.string isKey part chars) :=
    hP.pending _ rfl
  have htext (text : String) : P (.done (.string text)) := hP.composed _ (.string text)
  cases part with
  | plain =>
    simp only [Reader.stepString, addChar]
    repeat' split
    · exact yields_ok.mpr (hP.pending _ rfl)
    · exact yields_reaching.mpr (hP.complete (htext _))
    all_goals simp [hgo]
  | escape =>
    simp only [Reader.stepString, addChar]
    repeat' split
    all_goals simp [hgo]
  | hex digits =>
    simp only [Reader.stepString, addChar]
    split
    · refine .bind fun u _ => ?_
      repeat' split
      all_goals simp [hgo]
    · simp [hgo]
  | paired lead =>
    simp only [Reader.stepString]
    split <;> simp [hgo]
  | pairedEscape lead =>
    simp only [Reader.stepString]
    split <;> simp [hgo]
  | pairedHex lead digits =>
    simp only [Reader.stepString, addChar]
    split
    · refine .bind fun u _ => ?_
      split <;> simp [hgo]
    · simp [hgo]

theorem beginValue : Yields (P ·.mode) (beginValue o s c) := by
  unfold Reader.beginValue enter
  repeat' split
  all_goals first
    | exact yields_refuse _ _
    | exact yields_ok.mpr (hP.pending _ rfl)
    | simp [hP.truth, hP.falsehood, hP.null]

theorem stepValue : Yields (P ·.mode) (stepValue o s c) := by
  unfold Reader.stepValue
  repeat' split
  all_goals first | exact hP.beginValue | exact yields_refuse _ _

theorem stepKey : Yields (P ·.mode) (stepKey s c) := by
  unfold Reader.stepKey
  split
  · exact yields_ok.mpr (hP.pending _ rfl)
  · exact yields_refuse _ _

theorem stepColon (key : String) : Yields (P ·.mode) (stepColon o s key c) := by
  unfold Reader.stepColon
  repeat' split
  all_goals first | exact yields_ok.mpr (hP.pending _ rfl) | exact yields_refuse _ _

/-- Only a word and its value need what held before the step. -/
theorem step (hs : P s.mode) : Yields (P ·.mode) (step o s c) := by
  have hstay : Yields (P ·.mode) (.ok s : Step) := yields_ok.mpr hs
  cases hmode : s.mode with
  | value =>
    simp only [Reader.step, hmode]
    split
    · exact hstay
    · exact hP.stepValue
  | firstItem =>
    simp only [Reader.step, hmode]
    repeat' split
    · exact hstay
    · exact yields_reaching.mpr hP.close
    · exact hP.beginValue
  | firstKey =>
    simp only [Reader.step, hmode]
    repeat' split
    · exact hstay
    · exact yields_reaching.mpr hP.close
    · exact yields_ok.mpr (hP.pending _ rfl)
    · exact yields_refuse _ _
  | key =>
    simp only [Reader.step, hmode]
    split
    · exact hstay
    · exact hP.stepKey
  | colon key =>
    simp only [Reader.step, hmode]
    split
    · exact hstay
    · exact hP.stepColon key
  | next =>
    simp only [Reader.step, hmode]
    exact hP.stepNext hs
  | done v =>
    simp only [Reader.step, hmode]
    exact hP.stepNext hs
  | word rest v =>
    rw [hmode] at hs
    -- Spelled to its end, the word is complete, and what follows it may be the next character.
    have hcomplete : Yields (P ·.mode) (Reader.complete o s v) := hP.complete (hP.spelled hs)
    rcases rest with _ | ⟨first, _ | ⟨second, rest⟩⟩
    · simp only [Reader.step, hmode]
      exact .bind fun t ht => hP.stepNext (yields_reaching.mpr hcomplete t ht)
    · simp only [Reader.step, hmode]
      split
      · exact yields_reaching.mpr hcomplete
      · exact yields_refuse _ _
    · simp only [Reader.step, hmode]
      split
      · exact yields_ok.mpr (hP.letter hs)
      · exact yields_refuse _ _
  | number part spelling =>
    simp only [Reader.step, hmode]
    exact hP.stepNumber part spelling
  | string isKey part chars =>
    simp only [Reader.step, hmode]
    exact hP.stepString isKey part chars

end Lasting

/-! ## Runs -/

theorem feed_cons_eq_ok {n : Nat} {cs : List Char} {v : Json} (h : feed o s n (c :: cs) = .ok v) :
    ∃ t m, step o s c = .ok t ∧ feed o t m cs = .ok v := by
  rw [feed] at h
  cases hstep : step o s c with
  | error e => rw [hstep] at h; cases h
  | ok t => rw [hstep] at h; exact ⟨t, _, rfl, h⟩

theorem finish_eq_ok {v : Json} (h : finish o s = .ok v) :
    ∃ t, (t = s ∨ ∃ spelling, finishNumber o s spelling = .ok t) ∧ t.mode = .done v := by
  unfold Reader.finish at h
  -- Only a number may still have to be finished.
  split at h
  on_goal 1 => split at h
  all_goals
    obtain ⟨t, ht, hv⟩ := bind_eq_ok_iff.mp h
    dsimp only at hv
    split at hv
    · next w hw =>
      cases hv
      first
        | exact ⟨t, .inl (Except.ok.inj ht).symm, hw⟩
        | exact ⟨t, .inr ⟨_, ht⟩, hw⟩
    · cases hv

theorem Lasting.finish {P : Mode → Prop} (hP : Lasting P) (hs : P s.mode) {v : Json}
    (h : finish o s = .ok v) : P (.done v) := by
  obtain ⟨t, rfl | ⟨spelling, ht⟩, hmode⟩ := finish_eq_ok h
  · exact hmode ▸ hs
  · exact hmode ▸ hP.finishNumber spelling t ht

theorem Lasting.feed {P : Mode → Prop} (hP : Lasting P) (hs : P s.mode) {n : Nat} {cs : List Char}
    {v : Json} (h : feed o s n cs = .ok v) : P (.done v) := by
  induction cs generalizing s n with
  | nil =>
    rw [Reader.feed, mapError_eq_ok_iff] at h
    exact hP.finish hs h
  | cons c cs ih =>
    obtain ⟨t, m, ht, hrest⟩ := feed_cons_eq_ok h
    exact ih (hP.step hs t ht) hrest

/-! ## Objects -/

/-- An object has its keys in ascending order. -/
def Arranged (v : Json) : Prop := ∀ entries, v = .object entries → Entries.Ascending entries

theorem lasting_arranged : Lasting fun m => ∀ v ∈ m.value?, Arranged v where
  pending m hm v hv := by
    rw [hm] at hv
    cases hv
  composed v hv w hw := by
    obtain rfl := Option.some.inj hw
    cases hv with
    | object written =>
      intro entries hentries
      cases hentries
      exact Entries.ascending_ofWritten written
    | number | string | array => nofun
  truth v hv := by
    cases hv
    nofun
  falsehood v hv := by
    cases hv
    nofun
  null v hv := by
    cases hv
    nofun
  letter h := h
  spelled h := h

end Reader

theorem ascending_of_parseOutlined {o : Reader.Outline} {text : String}
    {entries : List (String × Json)} (h : parseOutlined o text = .ok (.object entries)) :
    Entries.Ascending entries := by
  rw [parseOutlined, Reader.run, mapError_eq_ok_iff] at h
  exact Reader.lasting_arranged.feed (by rintro v ⟨⟩) h _ rfl entries rfl

end SchemaGen.Json
