import SchemaGen.Naming
import SchemaGen.Proofs.Text.Casing
import SchemaGen.Proofs.Text.Lines

/-! # Characters of identifiers

An identifier is made of word characters and of what the case mapping of a first character brings
in. A mapping brings in no character that has no case (`Caseless`), so an identifier holds no blank
and no line feed and ends at the first blank behind it.
-/

namespace SchemaGen.Text

set_option autoImplicit false
set_option maxRecDepth 20000

/-- Neither a blank nor a line feed is in the text. -/
structure Unbroken (text : String) : Prop where
  oneLine : OneLine text
  noBlank : ' ' ∉ text.toList

theorem Unbroken.append {a b : String} (ha : Unbroken a) (hb : Unbroken b) : Unbroken (a ++ b) where
  oneLine := ha.oneLine.append hb.oneLine
  noBlank h := by
    rcases List.mem_append.mp (String.toList_append ▸ h) with h | h
    · exact ha.noBlank h
    · exact hb.noBlank h

/-! ## Characters without case -/

/-- No row of the tables reads or gives a code point of the range. -/
def clearOf (runs : List CaseRun) (expansions : List (Nat × List Nat)) (first last : Nat) : Bool :=
  runs.all (fun r => (Nat.blt last r.first || Nat.blt (r.first + r.span) first) &&
      (Nat.blt last r.target || Nat.blt (r.target + r.span) first)) &&
    expansions.all fun e => (Nat.blt last e.1 || Nat.blt e.1 first) &&
      e.2.all fun n => Nat.blt last n || Nat.blt n first

theorem ofNat_ne {n : Nat} {x : Char} (hn : n ≠ x.toNat) (h0 : x ≠ '\x00') : Char.ofNat n ≠ x := by
  intro h
  by_cases hv : n.isValidChar
  · have hval := toNat_ofNat hv
    rw [h] at hval
    exact hn hval.symm
  · have hzero : Char.ofNat n = '\x00' := dif_neg hv
    exact h0 (h.symm.trans hzero)

section ClearOf

variable {runs : List CaseRun} {expansions : List (Nat × List Nat)} {first last : Nat} {x : Char}

theorem mapCase_of_clearOf (h : clearOf runs expansions first last = true)
    (hfirst : first ≤ x.toNat) (hlast : x.toNat ≤ last) : mapCase runs expansions x = [x] := by
  simp only [clearOf, Bool.and_eq_true, List.all_eq_true, Bool.or_eq_true, Nat.blt_eq] at h
  obtain ⟨hruns, hexpansions⟩ := h
  rcases mapCase_cases runs expansions x with
    ⟨e, he, hx, -⟩ | ⟨r, hr, k, hk, hx, -⟩ | hself
  · have hout := (hexpansions e he).1
    omega
  · have hout := (hruns r hr).1
    have hspan := hk.1
    omega
  · exact hself

/-- Such a character comes from itself only. -/
theorem eq_of_mem_mapCase (h : clearOf runs expansions first last = true)
    (hfirst : first ≤ x.toNat) (hlast : x.toNat ≤ last) (h0 : x ≠ '\x00') {c : Char}
    (hx : x ∈ mapCase runs expansions c) : x = c := by
  simp only [clearOf, Bool.and_eq_true, List.all_eq_true, Bool.or_eq_true, Nat.blt_eq] at h
  obtain ⟨hruns, hexpansions⟩ := h
  rcases mapCase_cases runs expansions c with
    ⟨e, he, -, hmap⟩ | ⟨r, hr, k, hk, -, hmap⟩ | hself
  · rw [hmap] at hx
    obtain ⟨n, hn, rfl⟩ := List.mem_map.mp hx
    have hout := (hexpansions e he).2 n hn
    exact absurd rfl (ofNat_ne (by omega) h0)
  · rw [hmap] at hx
    have hout := (hruns r hr).2
    have hspan := hk.1
    exact absurd (List.mem_singleton.mp hx).symm (ofNat_ne (by omega) h0)
  · rw [hself] at hx
    exact List.mem_singleton.mp hx

end ClearOf

/-- The case mappings leave the character as it is and bring it in for no other. -/
structure Caseless (x : Char) : Prop where
  upper : upperChar x = [x]
  lower : lowerChar x = [x]
  of_upper : ∀ {c}, x ∈ upperChar c → x = c
  of_lower : ∀ {c}, x ∈ lowerChar c → x = c

theorem Caseless.mem_upperChar_iff {x c : Char} (hx : Caseless x) : x ∈ upperChar c ↔ x = c := by
  constructor
  · exact hx.of_upper
  · rintro rfl
    rw [hx.upper]
    exact List.mem_singleton_self x

theorem Caseless.mem_lowerChar_iff {x c : Char} (hx : Caseless x) : x ∈ lowerChar c ↔ x = c := by
  constructor
  · exact hx.of_lower
  · rintro rfl
    rw [hx.lower]
    exact List.mem_singleton_self x

theorem caseless_of_clearOf {first last : Nat} {x : Char}
    (hupper : clearOf upperRuns upperExpansions first last = true)
    (hlower : clearOf lowerRuns lowerExpansions first last = true)
    (hfirst : first ≤ x.toNat) (hlast : x.toNat ≤ last) (h0 : x ≠ '\x00') : Caseless x where
  upper := mapCase_of_clearOf hupper hfirst hlast
  lower := mapCase_of_clearOf hlower hfirst hlast
  of_upper := eq_of_mem_mapCase hupper hfirst hlast h0
  of_lower := eq_of_mem_mapCase hlower hfirst hlast h0

theorem lowerSigma_eq (before after : List Char) :
    lowerSigma before after = 'ς' ∨ lowerSigma before after = 'σ' := by
  unfold lowerSigma
  split
  · exact .inl rfl
  · exact .inr rfl

theorem Caseless.mem_lowerAfter_iff {x : Char} (hx : Caseless x) {cs : List Char}
    (before : List Char) : x ∈ lowerAfter before cs ↔ x ∈ cs := by
  induction cs generalizing before with
  | nil => simp [lowerAfter]
  | cons c after ih =>
    rw [lowerAfter, List.mem_append, ih, List.mem_cons]
    refine or_congr_left ?_
    split
    · next hsigma =>
      -- Neither the sigmas in lower case nor the capital one is without case.
      have hnot : x ≠ 'Σ' ∧ x ≠ 'ς' ∧ x ≠ 'σ' := by
        refine ⟨?_, ?_, ?_⟩ <;> rintro rfl
        · exact absurd hx.lower (by decide)
        · exact absurd hx.upper (by decide)
        · exact absurd hx.upper (by decide)
      rw [hsigma, List.mem_singleton]
      rcases lowerSigma_eq before after with h | h <;> rw [h] <;> simp [hnot]
    · exact hx.mem_lowerChar_iff

/-- Controls, blanks, punctuation before the letters, and digits. -/
theorem caseless_of_le {x : Char} (h0 : x ≠ '\x00') (hx : x.toNat ≤ 0x40) : Caseless x := by
  have hupper : clearOf upperRuns upperExpansions 1 0x40 = true := by decide
  have hlower : clearOf lowerRuns lowerExpansions 1 0x40 = true := by decide
  have hpos : x.toNat ≠ 0 := fun h => h0 (Char.toNat_inj.mp h)
  exact caseless_of_clearOf hupper hlower (by omega) hx h0

end SchemaGen.Text

namespace SchemaGen.Naming

set_option autoImplicit false
set_option maxRecDepth 20000

open SchemaGen.Text

/-! ## Identifiers -/

theorem mem_capitalize_iff {x : Char} (hx : Caseless x) (w : List Char) :
    x ∈ capitalize w ↔ x ∈ w := by
  cases w with
  | nil => rfl
  | cons c rest =>
    rw [capitalize, lower, List.mem_append, hx.mem_upperChar_iff, hx.mem_lowerAfter_iff,
      List.mem_cons]

/-- A character without case is in the identifier exactly if it is in the name as a word character. -/
theorem mem_identifierChars_iff {x : Char} (hx : Caseless x) {cs : List Char} :
    x ∈ identifierChars cs ↔ x ∈ cs ∧ isWord x = true := by
  unfold identifierChars
  split
  · next hsingle =>
    have hword : x ∈ cs → isWord x = true := by
      simp only [isSingleWord, Bool.and_eq_true, List.all_eq_true] at hsingle
      exact hsingle.2 x
    rw [and_iff_left_of_imp hword]
    cases cs with
    | nil => rfl
    | cons c rest => rw [upperFirst, List.mem_append, hx.mem_upperChar_iff, List.mem_cons]
  · rw [List.mem_filter, List.mem_flatMap]
    simp only [mem_capitalize_iff hx, exists_mem_pieces_iff, Bool.not_eq_false', and_assoc, and_self]

/-- Of the characters without case an identifier holds word characters only. -/
theorem not_mem_identifier {x : Char} (hx : Caseless x) (hword : isWord x = false)
    (name : String) : x ∉ (identifier name).toList := by
  rw [identifier, String.toList_ofList, mem_identifierChars_iff hx, hword]
  exact fun h => Bool.false_ne_true h.2

theorem identifier_unbroken (name : String) : Unbroken (identifier name) where
  oneLine := not_mem_identifier (caseless_of_le (by decide) (by decide)) (by decide) name
  noBlank := not_mem_identifier (caseless_of_le (by decide) (by decide)) (by decide) name

theorem optionsName_unbroken (collection field : String) :
    Unbroken (optionsName collection field) :=
  ((identifier_unbroken collection).append (identifier_unbroken field)).append
    ⟨by unfold OneLine; decide, by decide⟩

end SchemaGen.Naming
