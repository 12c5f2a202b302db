import SchemaGen.Proofs.Config.Ordered
import SchemaGen.Proofs.Config.Settings
import SchemaGen.Proofs.Text.Blank

/-! # Texts that stand for themselves

The value of a variable is its text where the text as a whole is no literal, and where it is a bare
word that is neither a truth value nor a number and has no blank at its ends. In all other cases the
value is another (`readText_parse_iff`): what is quoted or padded is shortened, and the rest is no
text at all.
-/

namespace SchemaGen.Config.Literal

set_option autoImplicit false

open SchemaGen.Text

/-! ## Lengths -/

/-- A text is shorter than its form in quotes. -/
theorem length_quotedText {before cs rest : List Char} {s : String}
    (h : quotedText before cs = some (s, rest)) :
    s.length + rest.length < before.length + cs.length := by
  induction before, cs using quotedText.induct with
  | case1 before rest' =>
    rw [quotedText] at h
    cases h
    simp
  | case2 before a b c d rest' ih =>
    rw [quotedText] at h
    obtain ⟨e, -, h⟩ := Option.bind_eq_some_iff.mp h
    have hlength := ih e h
    simp only [List.length_cons] at hlength ⊢
    omega
  | case3 before a b c d e f g i rest' ih =>
    rw [quotedText] at h
    obtain ⟨x, -, h⟩ := Option.bind_eq_some_iff.mp h
    have hlength := ih x h
    simp only [List.length_cons] at hlength ⊢
    omega
  | case4 before c rest' hshort hlong ih =>
    rw [quotedText] at h
    · obtain ⟨x, -, h⟩ := Option.bind_eq_some_iff.mp h
      have hlength := ih x h
      simp only [List.length_cons] at hlength ⊢
      omega
    · exact hshort
    · exact hlong
  | case5 =>
    rw [quotedText] at h
    cases h
  | case6 before c rest' hquote hshort hlong hescape hend hplain ih =>
    rw [quotedText, if_pos hplain] at h
    · have hlength := ih h
      simp only [List.length_cons] at hlength ⊢
      omega
    · exact hquote
    · exact hshort
    · exact hlong
    · exact hescape
    · exact hend
  | case7 before c rest' hquote hshort hlong hescape hend hplain =>
    rw [quotedText, if_neg hplain] at h
    · cases h
    · exact hquote
    · exact hshort
    · exact hlong
    · exact hescape
    · exact hend
  | case8 =>
    rw [quotedText] at h
    cases h

/-! ## Scalars -/

/-- The text starts with a truth value, and what follows it. -/
def StartsTruth (cs rest : List Char) : Prop :=
  cs = "true".toList ++ rest ∨ cs = "false".toList ++ rest

/-- A bare word up to a separator. -/
structure StartsBare (cs : List Char) : Prop where
  truth : ∀ rest, ¬StartsTruth cs rest
  double : ∀ rest, cs ≠ '"' :: rest
  single : ∀ rest, cs ≠ '\'' :: rest

theorem scalar?_of_bare {cs : List Char} (h : StartsBare cs) :
    scalar? cs = some (bare (trimBy isBlank (cs.takeWhile fun c => !isSeparator c)),
      cs.dropWhile fun c => !isSeparator c) := by
  unfold scalar?
  split
  · next rest => exact absurd (.inl rfl) (h.truth rest)
  · next rest => exact absurd (.inr rfl) (h.truth rest)
  · next rest => exact absurd rfl (h.double rest)
  · next rest => exact absurd rfl (h.single _)
  · exact absurd rfl (h.single _)
  · rfl

theorem scalar?_of_truth {cs rest : List Char} (h : StartsTruth cs rest) :
    ∃ b, scalar? cs = some (.bool b, rest) := by
  rcases h with rfl | rfl
  · exact ⟨true, rfl⟩
  · exact ⟨false, rfl⟩

/-- A text that is read from quotes is shorter. -/
theorem scalar?_cases {cs rest : List Char} {x : Scalar} (h : scalar? cs = some (x, rest)) :
    (∃ b, x = .bool b) ∨ (∃ s, x = .text s ∧ s.length < cs.length) ∨ StartsBare cs := by
  unfold scalar? at h
  split at h
  · cases h
    exact .inl ⟨true, rfl⟩
  · cases h
    exact .inl ⟨false, rfl⟩
  · next inner =>
    obtain ⟨⟨s, after⟩, hs, heq⟩ := Option.map_eq_some_iff.mp h
    cases heq
    have hlength := length_quotedText hs
    simp only [List.length_nil] at hlength
    exact .inr (.inl ⟨s, rfl, by simp only [List.length_cons]; omega⟩)
  · cases h
    exact .inr (.inl ⟨_, rfl, by simp⟩)
  · cases h
  · next htrue hfalse hdouble hshort hsingle =>
    refine .inr (.inr ⟨?_, hdouble, hsingle⟩)
    rintro after (rfl | rfl)
    · exact htrue after rfl
    · exact hfalse after rfl

/-! ## Whole texts -/

/-- The literal that a text is as a whole. -/
def whole? (text : String) : Option Value :=
  match value? (2 * text.length + 2) text.toList with
  | some (v, []) => some v
  | _ => none

theorem parse_eq (text : String) :
    parse text = (whole? text).getD (.scalar .environment (.text text)) := by
  unfold parse whole?
  cases value? (2 * text.length + 2) text.toList with
  | none => rfl
  | some read =>
    obtain ⟨v, rest⟩ := read
    cases rest <;> rfl

theorem integer?_ne_text (cs : List Char) (s : String) : integer? cs ≠ some (.text s) := by
  unfold integer?
  dsimp only
  intro h
  split at h
  · cases h
  · split at h
    · split at h <;> cases h
    · split at h <;> cases h

theorem bare_eq_text_iff {cs : List Char} {s : String} :
    bare cs = .text s ↔ decimal? cs = none ∧ integer? cs = none ∧ cs = s.toList := by
  unfold bare
  cases hdecimal : decimal? cs with
  | some d => simp
  | none =>
    cases hinteger : integer? cs with
    | some x =>
      have hx : x ≠ .text s := fun h => integer?_ne_text cs s (h ▸ hinteger)
      simpa using hx
    | none =>
      simp only [Option.getD_none, Scalar.text.injEq, true_and]
      exact ⟨fun h => by rw [← h, String.toList_ofList], fun h => by rw [h, String.ofList_toList]⟩

/-- A bare word that is neither a truth value nor a number. -/
structure Plain (text : String) : Prop where
  separators : ∀ c ∈ text.toList, isSeparator c = false
  first : ∀ c ∈ text.toList.head?, isBlank c = false ∧ c ≠ '"' ∧ c ≠ '\''
  last : ∀ c ∈ text.toList.getLast?, isBlank c = false
  truth : text ≠ "true" ∧ text ≠ "false"
  number : decimal? text.toList = none ∧ integer? text.toList = none

theorem value?_of_whole? {text : String} {v : Value} (h : whole? text = some v) :
    value? (2 * text.length + 1 + 1) text.toList = some (v, []) := by
  unfold whole? at h
  split at h
  · next hvalue =>
    cases h
    exact hvalue
  · cases h

/-- What is no blank is left behind when blanks are skipped. -/
theorem skipBlank_ne_nil {cs : List Char} {c : Char} (hc : c ∈ cs) (hblank : isBlank c = false) :
    skipBlank cs ≠ [] := by
  intro h
  have hascii : isAsciiBlank c = true := List.dropWhile_eq_nil_iff.mp h c hc
  rw [isBlank_of_isAsciiBlank hascii] at hblank
  cases hblank

theorem isBlank_of_isSeparator {c : Char} (h : isSeparator c = true) : isBlank c = false := by
  simp only [isSeparator, List.contains_iff_mem, List.mem_cons, List.not_mem_nil, or_false] at h
  rcases h with rfl | rfl | rfl | rfl | rfl <;> decide

/-- A bare word is the whole text only if no separator ends it. -/
theorem dropWhile_eq_nil_of_skipBlank {cs : List Char}
    (h : skipBlank (cs.dropWhile fun c => !isSeparator c) = []) :
    (cs.dropWhile fun c => !isSeparator c) = [] := by
  by_contra hne
  obtain ⟨c, rest, hcons⟩ := List.exists_cons_of_ne_nil hne
  have hhead := List.head?_dropWhile_not (fun c => !isSeparator c) cs
  rw [hcons] at hhead h
  have hblank : isBlank c = false := isBlank_of_isSeparator (by simpa using hhead)
  exact skipBlank_ne_nil (List.mem_cons_self ..) hblank h

/-- A bare word that is its text is the whole text, without blanks at its ends. -/
theorem plain_of_bare {text : String} (hbare : StartsBare (skipBlank text.toList))
    (hend : skipBlank ((skipBlank text.toList).dropWhile fun c => !isSeparator c) = [])
    (hread : bare (trimBy isBlank ((skipBlank text.toList).takeWhile fun c => !isSeparator c)) =
      .text text) : Plain text := by
  have hseparators := List.dropWhile_eq_nil_iff.mp (dropWhile_eq_nil_of_skipBlank hend)
  rw [List.takeWhile_eq_self_iff.mpr hseparators] at hread
  obtain ⟨hdecimal, hinteger, htext⟩ := bare_eq_text_iff.mp hread
  have hself : skipBlank text.toList = text.toList := by
    refine dropWhile_eq_self_of_length ?_
    have htrim := length_trimBy_le isBlank (skipBlank text.toList)
    have hdrop := List.length_dropWhile_le isBlank (skipBlank text.toList)
    rw [htext] at htrim
    exact Nat.le_trans htrim hdrop
  rw [htext] at hdecimal hinteger
  rw [hself] at hbare hseparators htext
  obtain ⟨hfirst, hlast⟩ := trimBy_eq_self_iff.mp htext
  refine ⟨fun c hc => by simpa using hseparators c hc, ?_, hlast, ?_, hdecimal, hinteger⟩
  · intro c hc
    obtain ⟨rest, hrest⟩ := List.head?_eq_some_iff.mp hc
    refine ⟨hfirst c hc, ?_, ?_⟩
    · rintro rfl
      exact hbare.double rest hrest
    · rintro rfl
      exact hbare.single rest hrest
  · constructor
    · rintro rfl
      exact hbare.truth [] (.inl rfl)
    · rintro rfl
      exact hbare.truth [] (.inr rfl)

/-- A literal that is read as its own text is a bare word. -/
theorem plain_of_whole? {text : String} {v : Value} (h : whole? text = some v)
    (hread : v.readText = .ok text) : Plain text := by
  obtain ⟨origin, rfl⟩ := scalar_of_readText hread
  rcases value?_cases (value?_of_whole? h) with ⟨_, _, _, _, hv⟩ | ⟨_, _, _, _, hv⟩ |
    ⟨x, last, hscalar, hlast, hv⟩
  · cases hv
  · cases hv
  · cases hv
    rcases scalar?_cases hscalar with ⟨b, hx⟩ | ⟨s, hx, hshort⟩ | hbare
    · cases hx
    · -- What is read from quotes cannot be the whole text.
      cases hx
      have hlength : text.length = text.toList.length := String.length_toList.symm
      have hskip : (skipBlank text.toList).length ≤ text.toList.length :=
        List.length_dropWhile_le isAsciiBlank text.toList
      omega
    · rw [scalar?_of_bare hbare] at hscalar
      obtain ⟨hword, rfl⟩ := Prod.mk.injEq .. ▸ Option.some.inj hscalar
      exact plain_of_bare hbare hlast.symm hword

theorem Plain.skipBlank_eq {text : String} (h : Plain text) :
    skipBlank text.toList = text.toList := by
  refine dropWhile_eq_self_iff.mpr fun c hc => ?_
  cases hascii : isAsciiBlank c with
  | false => rfl
  | true =>
    have hblank := (h.first c hc).1
    rw [isBlank_of_isAsciiBlank hascii] at hblank
    cases hblank

theorem Plain.ne_separator {text : String} (h : Plain text) {c : Char} (hc : isSeparator c = true)
    (rest : List Char) : text.toList ≠ c :: rest := by
  intro heq
  have hnot := h.separators c (heq ▸ List.mem_cons_self ..)
  rw [hc] at hnot
  cases hnot

theorem Plain.value?_eq {text : String} (h : Plain text) (fuel : Nat) :
    value? (fuel + 1) text.toList = (scalar? text.toList).map fun (s, rest) =>
      (.scalar .environment s, skipBlank rest) := by
  have hlist : ∀ rest, skipBlank text.toList ≠ '[' :: rest := by
    rw [h.skipBlank_eq]
    exact h.ne_separator (by decide)
  have htable : ∀ rest, skipBlank text.toList ≠ '\x7b' :: rest := by
    rw [h.skipBlank_eq]
    exact h.ne_separator (by decide)
  rw [value?_scalar hlist htable, h.skipBlank_eq]

/-- What follows a truth value ends in no blank. -/
theorem Plain.skipBlank_ne_nil {text : String} (h : Plain text) {rest : List Char}
    (hrest : StartsTruth text.toList rest) : skipBlank rest ≠ [] := by
  have hne : rest ≠ [] := by
    rintro rfl
    rcases hrest with htrue | hfalse
    · exact h.truth.1 (String.toList_inj.mp (htrue.trans (List.append_nil _)))
    · exact h.truth.2 (String.toList_inj.mp (hfalse.trans (List.append_nil _)))
  obtain ⟨c, hc⟩ := Option.isSome_iff_exists.mp (List.getLast?_isSome.mpr hne)
  have hlast : c ∈ text.toList.getLast? := by
    rcases hrest with htrue | hfalse
    · rw [htrue, List.getLast?_append, hc]
      rfl
    · rw [hfalse, List.getLast?_append, hc]
      rfl
  exact Literal.skipBlank_ne_nil (List.mem_of_getLast? hc) (h.last c hlast)

theorem Plain.scalar?_eq {text : String} (h : Plain text)
    (htruth : ∀ rest, ¬StartsTruth text.toList rest) :
    scalar? text.toList = some (.text text, []) := by
  have hbare : StartsBare text.toList := by
    refine ⟨htruth, ?_, ?_⟩
    · intro rest heq
      exact (h.first '"' (heq ▸ rfl)).2.1 rfl
    · intro rest heq
      exact (h.first '\'' (heq ▸ rfl)).2.2 rfl
  have hseparators : ∀ c ∈ text.toList, (!isSeparator c) = true := fun c hc => by
    simp [h.separators c hc]
  have htrimmed : trimBy isBlank text.toList = text.toList :=
    trimBy_eq_self_iff.mpr ⟨fun c hc => (h.first c hc).1, h.last⟩
  have htext : bare text.toList = .text text :=
    bare_eq_text_iff.mpr ⟨h.number.1, h.number.2, rfl⟩
  rw [scalar?_of_bare hbare, List.takeWhile_eq_self_iff.mpr hseparators,
    List.dropWhile_eq_nil_iff.mpr hseparators, htrimmed, htext]

/-- A bare word is read as its own text. -/
theorem Plain.readText {text : String} (h : Plain text) : (parse text).readText = .ok text := by
  by_cases htruth : ∃ rest, StartsTruth text.toList rest
  · obtain ⟨rest, hrest⟩ := htruth
    obtain ⟨b, hscalar⟩ := scalar?_of_truth hrest
    have hwhole : whole? text = none := by
      unfold whole?
      rw [h.value?_eq, hscalar]
      split
      · next heq =>
        exact absurd (congrArg Prod.snd (Option.some.inj heq)) (h.skipBlank_ne_nil hrest)
      · rfl
    rw [parse_eq, hwhole]
    rfl
  · rw [not_exists] at htruth
    have hwhole : whole? text = some (.scalar .environment (.text text)) := by
      unfold whole?
      rw [h.value?_eq, h.scalar?_eq htruth]
      rfl
    rw [parse_eq, hwhole]
    rfl

/-- A text is read as it is exactly if it is no literal as a whole, or a bare word. -/
theorem readText_parse_iff (text : String) :
    (parse text).readText = .ok text ↔ whole? text = none ∨ Plain text := by
  constructor
  · intro hread
    rw [parse_eq] at hread
    cases hwhole : whole? text with
    | none => exact .inl rfl
    | some v =>
      rw [hwhole] at hread
      exact .inr (plain_of_whole? hwhole hread)
  · rintro (hwhole | hplain)
    · rw [parse_eq, hwhole]
      rfl
    · exact hplain.readText

end SchemaGen.Config.Literal
