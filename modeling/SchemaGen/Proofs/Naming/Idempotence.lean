import SchemaGen.Naming
import SchemaGen.Proofs.Text.Casing
import SchemaGen.Proofs.Text.Lines

/-! # Identifiers of identifiers

A text is its own identifier exactly if it is made of word characters and its first character is its
own upper case (`identifierChars_eq_self_iff`). The identifier of a name of several words has this
form, as what is no letter is dropped from it; that of a single word has not where the upper case of
its first letter brings in a mark (`identifier_identifier_iff`).
-/

namespace SchemaGen.Naming

set_option autoImplicit false

open SchemaGen.Text

/-! ## Texts that are their own identifier -/

/-- Word characters only, of which the first is its own upper case. -/
structure Settled (cs : List Char) : Prop where
  word : ∀ c ∈ cs, isWord c = true
  capital : ∀ c ∈ cs.head?, upperChar c = [c]

theorem isSingleWord_iff {cs : List Char} :
    isSingleWord cs = true ↔ cs ≠ [] ∧ ∀ c ∈ cs, isWord c = true := by
  simp [isSingleWord]

theorem identifierChars_cons {c : Char} {cs : List Char} (h : isSingleWord (c :: cs) = true) :
    identifierChars (c :: cs) = upperChar c ++ cs := by
  rw [identifierChars, if_pos h, upperFirst]

theorem isWord_of_mem_identifierChars {cs : List Char} (h : isSingleWord cs = false) :
    ∀ c ∈ identifierChars cs, isWord c = true := by
  intro c hc
  rw [identifierChars, h] at hc
  exact (List.mem_filter.mp hc).2

theorem identifierChars_eq_self_iff {cs : List Char} : identifierChars cs = cs ↔ Settled cs := by
  cases cs with
  | nil => exact ⟨fun _ => ⟨by simp, by simp⟩, fun _ => rfl⟩
  | cons c rest =>
    constructor
    · intro h
      have hword : ∀ d ∈ c :: rest, isWord d = true := by
        cases hsingle : isSingleWord (c :: rest) with
        | true => exact (isSingleWord_iff.mp hsingle).2
        | false => exact h ▸ isWord_of_mem_identifierChars hsingle
      have hsingle := isSingleWord_iff.mpr ⟨List.cons_ne_nil c rest, hword⟩
      rw [identifierChars_cons hsingle] at h
      have hcapital : upperChar c = [c] := List.append_cancel_right (h : _ = [c] ++ rest)
      exact ⟨hword, by simpa using hcapital⟩
    · rintro ⟨hword, hcapital⟩
      have hsingle := isSingleWord_iff.mpr ⟨List.cons_ne_nil c rest, hword⟩
      rw [identifierChars_cons hsingle, hcapital c rfl]
      rfl

/-! ## Names of one word -/

theorem settled_single_iff {c : Char} {cs : List Char} (h : isSingleWord (c :: cs) = true) :
    Settled (identifierChars (c :: cs)) ↔ c.toNat ∉ markedLetters ++ lostLetters := by
  have hall := (isSingleWord_iff.mp h).2
  have hword : isWord c = true := hall c (List.mem_cons_self ..)
  rw [identifierChars_cons h]
  constructor
  · intro hsettled hmem
    obtain ⟨d, hd, hmark⟩ := exists_mem_upperChar_not_isWord hmem
    have hkept := hsettled.word d (List.mem_append_left _ hd)
    rw [hmark] at hkept
    cases hkept
  · intro hmem
    rw [List.mem_append, not_or] at hmem
    obtain ⟨d, rest, hupper, hcapital⟩ := upperChar_head c
    refine ⟨?_, ?_⟩
    · intro x hx
      rcases List.mem_append.mp hx with hx | hx
      · exact isWord_of_mem_upperChar hword hmem.1 hmem.2 hx
      · exact hall x (List.mem_cons_of_mem _ hx)
    · rw [hupper]
      simpa using hcapital

/-! ## Names of several words -/

/-- Unless a letter is lost, the first word that is not empty gives the first character. -/
theorem head_capitalize {words : List (List Char)}
    (hwords : ∀ w ∈ words, ∀ c ∈ w, isWord c = true ∧ c.toNat ∉ lostLetters) :
    ∀ d ∈ ((words.flatMap capitalize).filter isWord).head?, upperChar d = [d] := by
  induction words with
  | nil => simp
  | cons w words ih =>
    have hrest := ih fun v hv => hwords v (List.mem_cons_of_mem _ hv)
    match w, hwords w (List.mem_cons_self ..) with
    | [], _ => exact hrest
    | c :: cs, hw =>
      obtain ⟨hword, hlost⟩ := hw c (List.mem_cons_self ..)
      obtain ⟨d, rest, hupper, hcapital⟩ := upperChar_head c
      have hd : isWord d = true := isWord_head_upperChar hword hlost hupper
      rw [List.flatMap_cons, capitalize, hupper, List.cons_append, List.cons_append,
        List.filter_cons_of_pos hd]
      simpa using hcapital

theorem settled_several_iff {cs : List Char} (h : isSingleWord cs = false) :
    Settled (identifierChars cs) ↔ ∀ d ∈ (identifierChars cs).head?, upperChar d = [d] :=
  ⟨fun hsettled => hsettled.capital, fun hhead => ⟨isWord_of_mem_identifierChars h, hhead⟩⟩

theorem settled_several {cs : List Char} (h : isSingleWord cs = false)
    (hlost : ∀ c ∈ cs, c.toNat ∉ lostLetters) : Settled (identifierChars cs) := by
  refine (settled_several_iff h).mpr ?_
  rw [identifierChars, h]
  refine head_capitalize fun w hw c hc => ?_
  obtain ⟨hmem, hsep⟩ := exists_mem_pieces_iff.mp ⟨w, hw, hc⟩
  exact ⟨by simpa using hsep, hlost c hmem⟩

/-! ## Identifiers -/

theorem identifier_identifier_eq_iff (name : String) :
    identifier (identifier name) = identifier name ↔ Settled (identifierChars name.toList) := by
  rw [identifier, identifier, String.toList_ofList, String.ofList_inj]
  exact identifierChars_eq_self_iff

/-- The identifier of a single word is its own identifier unless the word starts with a marked or a
lost letter, and that of any other name exactly if it starts with its own upper case. This it does
unless the name holds a lost letter. -/
theorem identifier_identifier_iff (name : String) :
    (identifier (identifier name) = identifier name ↔
      if isSingleWord name.toList then
        ∀ c ∈ name.toList.head?, c.toNat ∉ markedLetters ++ lostLetters
      else ∀ d ∈ (identifier name).toList.head?, upperChar d = [d]) ∧
    (isSingleWord name.toList = false → (∀ c ∈ name.toList, c.toNat ∉ lostLetters) →
      identifier (identifier name) = identifier name) := by
  rw [identifier_identifier_eq_iff]
  refine ⟨?_, settled_several⟩
  cases hsingle : isSingleWord name.toList with
  | false =>
    rw [settled_several_iff hsingle, identifier, String.toList_ofList]
    rfl
  | true =>
    match hname : name.toList with
    | [] => exact absurd hname (isSingleWord_iff.mp hsingle).1
    | c :: cs =>
      rw [settled_single_iff (hname ▸ hsingle)]
      simp

/-- A letter of two capitals at the start of a name of two words. -/
theorem identifier_identifier_street :
    isSingleWord "ß_straße".toList = false ∧
      (∀ c ∈ "ß_straße".toList, c.toNat ∉ lostLetters) ∧
      identifier (identifier "ß_straße") = identifier "ß_straße" := by
  have hsingle : isSingleWord "ß_straße".toList = false := by decide +kernel
  have hnone : "ß_straße".toList.all (fun c => c.toNat ∉ lostLetters) = true := by decide +kernel
  have hlost : ∀ c ∈ "ß_straße".toList, c.toNat ∉ lostLetters := by simpa using hnone
  exact ⟨hsingle, hlost, (identifier_identifier_iff "ß_straße").2 hsingle hlost⟩

/-- The capital of `ǰ` is `J` with a caron of its own, which the second run drops. -/
theorem not_identifier_identifier :
    ¬∀ name : String, identifier (identifier name) = identifier name := by
  intro h
  have hsettled := (identifier_identifier_eq_iff "ǰ").mp (h "ǰ")
  have hsingle : isSingleWord ['ǰ'] = true := by decide +kernel
  have hmarked : 'ǰ'.toNat ∈ markedLetters ++ lostLetters := by decide
  exact (settled_single_iff hsingle).mp hsettled hmarked

end SchemaGen.Naming
