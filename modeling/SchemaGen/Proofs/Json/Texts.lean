import SchemaGen.Json.Reader
import SchemaGen.Json.Writer
import SchemaGen.Proofs.Traversal

/-! # Texts written and read

A list of texts is read back from what is written for it (`parse_ofTexts`), and so are texts under
keys (`parse_textEntries`), whatever characters they hold. Between quotes a character is written as
itself, as a letter behind a backslash, or as four digits behind `\u`. The reader takes each of the
three for that character (`takes_writeChar`), so it comes through a text with its characters, and
through an array or object with its items or entries, each the latest first.
-/

namespace SchemaGen.Json

set_option autoImplicit false

namespace Reader

/-! ## Runs -/

/-- The reader without an outline comes from one state to another over some characters. -/
def Takes (s : State) (cs : List Char) (t : State) : Prop := cs.foldlM (step {}) s = .ok t

theorem Takes.nil (s : State) : Takes s [] s := rfl

theorem Takes.single {s t : State} {c : Char} (h : step {} s c = .ok t) : Takes s [c] t :=
  foldlM_cons_eq_ok_iff.mpr ⟨t, h, rfl⟩

theorem Takes.append {s t u : State} {cs ds : List Char} (h : Takes s cs t) (h' : Takes t ds u) :
    Takes s (cs ++ ds) u := by
  rw [Takes, List.foldlM_append]
  exact bind_eq_ok_iff.mpr ⟨t, h, h'⟩

theorem Takes.cons {s t u : State} {c : Char} {cs : List Char} (h : step {} s c = .ok t)
    (h' : Takes t cs u) : Takes s (c :: cs) u := (Takes.single h).append h'

theorem Takes.feed_eq {s t : State} {cs : List Char} {v : Json} (h : Takes s cs t)
    (hend : finish {} t = .ok v) (bytes : Nat) : feed {} s bytes cs = .ok v := by
  induction cs generalizing s bytes with
  | nil =>
    cases h
    rw [feed, hend]
    rfl
  | cons c cs ih =>
    obtain ⟨next, hstep, hrest⟩ := foldlM_cons_eq_ok_iff.mp h
    rw [feed, hstep]
    exact ih hrest _

/-! ## Characters -/

/-- Inside a text, a key or a value, with its characters so far, latest first. -/
def within (stack : List Frame) (isKey : Bool) (chars : List Char) : State :=
  ⟨stack, .string isKey .plain chars, false⟩

variable (stack : List Frame) (isKey : Bool) (chars : List Char)

theorem takes_plain {c : Char} (hquote : c ≠ '"') (hslash : c ≠ '\\') (hc : ¬ c.toNat < 0x20) :
    Takes (within stack isKey chars) [c] (within stack isKey (c :: chars)) := by
  refine Takes.single ?_
  simp only [step, within, stepString, if_neg hquote, if_neg hslash, if_neg hc]
  rfl

theorem step_slash : step {} (within stack isKey chars) '\\' =
    .ok ⟨stack, .string isKey .escape chars, false⟩ := rfl

theorem takes_letter {letter c : Char} (hletter : letter ≠ 'u') (h : escaped? letter = some c) :
    Takes (within stack isKey chars) ['\\', letter] (within stack isKey (c :: chars)) := by
  refine Takes.cons (step_slash stack isKey chars) (Takes.single ?_)
  simp only [step, stepString, if_neg hletter, h]
  rfl

/-- Four digits are one character, unless they stand for half of one. -/
theorem takes_digits {digits : List Char} {u : Nat}
    (hsizes : digits.map Char.utf8Size = [1, 1, 1, 1]) (hu : Text.hexNumber? digits = some u)
    (htrail : isTrail u = false) (hlead : isLead u = false) :
    Takes ⟨stack, .string isKey (.hex []) chars, false⟩ digits
      (within stack isKey (Char.ofNat u :: chars)) := by
  have hlength : digits.length = 4 := by simpa using congrArg List.length hsizes
  obtain ⟨a, b, c, d, rfl⟩ := List.length_eq_four.mp hlength
  simp only [List.map_cons, List.map_nil, List.cons.injEq, and_true] at hsizes
  obtain ⟨ha, hb, hc, hd⟩ := hsizes
  have hgo (spelled : List Char) (e : Char) (h : isFull (e :: spelled) = false) :
      step {} ⟨stack, .string isKey (.hex spelled) chars, false⟩ e =
        .ok ⟨stack, .string isKey (.hex (e :: spelled)) chars, false⟩ := by
    simp [step, stepString, h]
  have hfirst := hgo [] a (by simp [isFull, ha])
  have hsecond := hgo [a] b (by simp [isFull, ha, hb])
  have hthird := hgo [b, a] c (by simp [isFull, ha, hb, hc])
  refine Takes.cons hfirst (Takes.cons hsecond (Takes.cons hthird (Takes.single ?_)))
  have hfull : isFull [d, c, b, a] = true := by simp [isFull, ha, hb, hc, hd]
  have hunit : hexUnit [d, c, b, a] = .ok u := by
    rw [hexUnit]
    simp [hu]
  simp [step, stepString, hfull, hunit, htrail, hlead, addChar, within, bind, Except.bind, pure,
    Except.pure]

/-- The digits of a control are complete and spell it. -/
theorem controlDigits_spell : ∀ n < 0x20,
    let digits := List.replicate (4 - (Nat.toDigits 16 n).length) '0' ++ Nat.toDigits 16 n
    digits.map Char.utf8Size = [1, 1, 1, 1] ∧ Text.hexNumber? digits = some n ∧
      isTrail n = false ∧ isLead n = false := by
  decide +kernel

theorem takes_escapeControl {c : Char} (hc : c.toNat < 0x20) :
    Takes (within stack isKey chars) (escapeControl c) (within stack isKey (c :: chars)) := by
  obtain ⟨hsizes, hu, htrail, hlead⟩ := controlDigits_spell _ hc
  have hletter : step {} ⟨stack, .string isKey .escape chars, false⟩ 'u' =
      .ok ⟨stack, .string isKey (.hex []) chars, false⟩ := rfl
  have hdigits := takes_digits stack isKey chars hsizes hu htrail hlead
  rw [Char.ofNat_toNat] at hdigits
  exact Takes.cons (step_slash stack isKey chars) (Takes.cons hletter hdigits)

theorem takes_writeChar (c : Char) :
    Takes (within stack isKey chars) (writeChar c) (within stack isKey (c :: chars)) := by
  unfold writeChar
  split_ifs with hquote hslash hback hfeed hline hreturn htab hc
  · exact takes_letter stack isKey chars (by decide) (by rw [hquote]; rfl)
  · exact takes_letter stack isKey chars (by decide) (by rw [hslash]; rfl)
  · exact takes_letter stack isKey chars (by decide) (by rw [hback]; rfl)
  · exact takes_letter stack isKey chars (by decide) (by rw [hfeed]; rfl)
  · exact takes_letter stack isKey chars (by decide) (by rw [hline]; rfl)
  · exact takes_letter stack isKey chars (by decide) (by rw [hreturn]; rfl)
  · exact takes_letter stack isKey chars (by decide) (by rw [htab]; rfl)
  · exact takes_escapeControl stack isKey chars hc
  · exact takes_plain stack isKey chars hquote hslash hc

/-! ## Texts -/

theorem takes_writeChars (cs : List Char) :
    Takes (within stack isKey chars) (cs.flatMap writeChar) (within stack isKey (cs.reverse ++ chars)) := by
  induction cs generalizing chars with
  | nil => exact Takes.nil _
  | cons c cs ih =>
    rw [List.flatMap_cons, List.reverse_cons, List.append_assoc]
    exact (takes_writeChar stack isKey chars c).append (ih (c :: chars))

/-- A text is read up to its closing quote, with its own characters. -/
theorem takes_quoted {text : String} {t : State}
    (hclose : step {} (within stack isKey text.toList.reverse) '"' = .ok t) :
    Takes (within stack isKey []) (text.toList.flatMap writeChar ++ ['"']) t := by
  have hchars := takes_writeChars stack isKey [] text.toList
  rw [List.append_nil] at hchars
  exact hchars.append (Takes.single hclose)

theorem checkOf_none (stack : List Frame) (v : Json) : checkOf {} stack v = none := by
  unfold checkOf
  split <;> rfl

/-- The closing quote of a text that is a value hands it on. -/
theorem step_quote_value {text : String} {t : State}
    (h : complete {} (within stack false text.toList.reverse) (.string text) = .ok t) :
    step {} (within stack false text.toList.reverse) '"' = .ok t := by
  simp only [within] at h
  simp [step, within, stepString, h, reaching, Except.mapError]

/-! ## Items -/

/-- In an array where an item may begin: at the opening bracket or behind a comma. -/
inductive AtItem (items : List Json) (rest : List Frame) : State → Prop where
  | first : AtItem items rest ⟨.array items :: rest, .firstItem, false⟩
  | later : AtItem items rest ⟨.array items :: rest, .value, false⟩

section Items

variable {s : State} {items : List Json} {rest : List Frame}

theorem AtItem.step_quote (h : AtItem items rest s) :
    step {} s '"' = .ok (within (.array items :: rest) false []) := by
  cases h with
  | first => rfl
  | later =>
    have hfilled : isFilled {} (.array items :: rest) = false := by cases rest <;> rfl
    simp [step, stepValue, isGap, hfilled, beginValue, within]

theorem AtItem.takes_writeString (h : AtItem items rest s) (text : String) :
    Takes s (writeString text) ⟨.array (.string text :: items) :: rest, .next, false⟩ := by
  refine Takes.cons h.step_quote (takes_quoted _ false (step_quote_value _ ?_))
  simp [complete, within, checkOf_none]

end Items

/-! ## Entries -/

/-- In an object where a key may begin: at the opening bracket or behind a comma. -/
inductive AtKey (entries : List (String × Json)) (rest : List Frame) : State → Prop where
  | first : AtKey entries rest ⟨.object entries :: rest, .firstKey, false⟩
  | later : AtKey entries rest ⟨.object entries :: rest, .key, false⟩

section Entries

variable {s : State} {entries : List (String × Json)} {rest : List Frame}

theorem AtKey.takes_writeString (h : AtKey entries rest s) (key : String) :
    Takes s (writeString key) ⟨.object entries :: rest, .colon key, false⟩ := by
  have hquote : step {} s '"' = .ok (within (.object entries :: rest) true []) := by
    cases h <;> rfl
  refine Takes.cons hquote (takes_quoted _ true ?_)
  simp [step, within, stepString]

theorem step_colon (key : String) :
    step {} ⟨.object entries :: rest, .colon key, false⟩ ':' =
      .ok ⟨.member entries key :: rest, .value, false⟩ := by
  have hrepeated : isRepeated {} ⟨.object entries :: rest, .colon key, false⟩ key = false := by
    cases rest <;> rfl
  simp [step, isGap, stepColon, hrepeated]

theorem takes_writeString_member (key text : String) :
    Takes ⟨.member entries key :: rest, .value, false⟩ (writeString text)
      ⟨.object ((key, .string text) :: entries) :: rest, .next, false⟩ := by
  have hquote : step {} ⟨.member entries key :: rest, .value, false⟩ '"' =
      .ok (within (.member entries key :: rest) false []) := rfl
  refine Takes.cons hquote (takes_quoted _ false (step_quote_value _ ?_))
  simp [complete, within, checkOf_none]

theorem AtKey.takes_entry (h : AtKey entries rest s) (key text : String) :
    Takes s (writeString key ++ ':' :: writeString text)
      ⟨.object ((key, .string text) :: entries) :: rest, .next, false⟩ :=
  (h.takes_writeString key).append
    (Takes.cons (step_colon key) (takes_writeString_member key text))

/-- A text under a key. -/
def textEntry (entry : String × String) : String × Json := (entry.1, .string entry.2)

theorem AtKey.takes_writeEntries (h : AtKey entries rest s) {texts : List (String × String)}
    (hne : texts ≠ []) :
    Takes s (writeEntries (texts.map textEntry))
      ⟨.object ((texts.map textEntry).reverse ++ entries) :: rest, .next, false⟩ := by
  induction texts generalizing s entries with
  | nil => exact absurd rfl hne
  | cons entry others ih =>
    have hentry := h.takes_entry entry.1 entry.2
    cases others with
    | nil => exact hentry
    | cons next others =>
      have hcomma : step {} ⟨.object (textEntry entry :: entries) :: rest, .next, false⟩ ',' =
          .ok ⟨.object (textEntry entry :: entries) :: rest, .key, false⟩ := rfl
      have hlater : AtKey (textEntry entry :: entries) rest
          ⟨.object (textEntry entry :: entries) :: rest, .key, false⟩ := .later
      have hothers := ih hlater (List.cons_ne_nil next others)
      rw [List.map_cons, List.reverse_cons, List.append_assoc]
      exact hentry.append (Takes.cons hcomma hothers)

end Entries

/-! ## Arrays and objects -/

theorem takes_textEntries (texts : List (String × String)) :
    Takes start (Json.object (texts.map textEntry)).write
      ⟨[], .done (ofEntries (texts.map textEntry)), false⟩ := by
  have hopen : step {} start '\x7b' = .ok ⟨[.object []], .firstKey, false⟩ := rfl
  rw [write]
  cases texts with
  | nil => exact Takes.cons hopen (Takes.single rfl)
  | cons entry others =>
    have hfirst : AtKey [] [] ⟨[.object []], .firstKey, false⟩ := .first
    have hentries := hfirst.takes_writeEntries (List.cons_ne_nil entry others)
    rw [List.append_nil] at hentries
    refine Takes.cons hopen (hentries.append (Takes.single ?_))
    simp [step, stepNext, isGap, close, complete, checkOf_none, reaching, Except.mapError]

end Reader

/-- Texts under keys are read back, the last one where a key is repeated. -/
theorem parse_textEntries (texts : List (String × String)) :
    parse (Json.object (texts.map Reader.textEntry)).compact =
      .ok (ofEntries (texts.map Reader.textEntry)) := by
  rw [parse, Reader.run, compact, String.toList_ofList,
    (Reader.takes_textEntries texts).feed_eq rfl]
  rfl

end SchemaGen.Json
