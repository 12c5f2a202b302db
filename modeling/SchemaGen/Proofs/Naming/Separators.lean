import SchemaGen.Proofs.Naming.Idempotence
import SchemaGen.Proofs.Script.Characters

/-! # Names in parts

What stands between words only parts them. Words are cut at each separator (`capitalized_cut`), so a
run of separators, however long and of whatever characters, is passed over
(`capitalized_separator`), and no capital and no final sigma depends on what stands behind it. The
identifier of a name is then that of its two parts one after another (`identifier_separated`).
-/

namespace SchemaGen.Naming

set_option autoImplicit false

open SchemaGen.Text
open SchemaGen.Script (isLetter_or_isDigit)

/-- A text that parts words: one or more characters, none of them a letter or an ASCII digit. -/
structure Separator (s : String) : Prop where
  ne_empty : s ≠ ""
  apart : ∀ c ∈ s.toList, isLetter c = false ∧ c.isDigit = false

theorem separator_iff {s : String} :
    Separator s ↔ s ≠ "" ∧ s.toList.all (fun c => !isLetter c && !c.isDigit) = true := by
  have hall : (s.toList.all fun c => !isLetter c && !c.isDigit) = true ↔
      ∀ c ∈ s.toList, isLetter c = false ∧ c.isDigit = false := by simp
  rw [hall]
  exact ⟨fun h => ⟨h.ne_empty, h.apart⟩, fun h => ⟨h.1, h.2⟩⟩

instance (s : String) : Decidable (Separator s) := decidable_of_iff' _ separator_iff

theorem Separator.isWord_eq_false {s : String} (h : Separator s) :
    ∀ c ∈ s.toList, isWord c = false := by
  intro c hc
  obtain ⟨hletter, hdigit⟩ := h.apart c hc
  refine Bool.eq_false_iff.mpr fun hword => ?_
  rcases isLetter_or_isDigit hword with h | h
  · exact Bool.false_ne_true (hletter.symm.trans h)
  · exact Bool.false_ne_true (hdigit.symm.trans h)

/-! ## Words -/

/-- The words of a name one after another, each with a capital. -/
def capitalized (cs : List Char) : List Char :=
  (pieces (fun c => !isWord c) cs).flatMap capitalize

theorem capitalized_cut {c : Char} (hc : isWord c = false) (a b : List Char) :
    capitalized (a ++ c :: b) = capitalized a ++ capitalized b := by
  have hsep : (!isWord c) = true := by rw [hc, Bool.not_false]
  rw [capitalized, pieces_append _ hsep, List.flatMap_append]
  rfl

/-- Separators in front of a name make no word. -/
theorem capitalized_separator {s : List Char} (hs : ∀ c ∈ s, isWord c = false) (b : List Char) :
    capitalized (s ++ b) = capitalized b := by
  induction s with
  | nil => rfl
  | cons c s ih =>
    obtain ⟨hc, hs⟩ := List.forall_mem_cons.mp hs
    have hcut := capitalized_cut hc [] (s ++ b)
    rw [List.cons_append, ← ih hs]
    exact hcut

theorem capitalized_separated {s : List Char} (hne : s ≠ []) (hs : ∀ c ∈ s, isWord c = false)
    (a b : List Char) : capitalized (a ++ s ++ b) = capitalized a ++ capitalized b := by
  obtain ⟨c, rest, rfl⟩ := List.exists_cons_of_ne_nil hne
  obtain ⟨hc, hrest⟩ := List.forall_mem_cons.mp hs
  rw [List.append_assoc, List.cons_append, capitalized_cut hc, capitalized_separator hrest]

/-! ## Identifiers -/

theorem identifierChars_of_mem {c : Char} {cs : List Char} (hmem : c ∈ cs)
    (hc : isWord c = false) : identifierChars cs = (capitalized cs).filter isWord := by
  have hsingle : isSingleWord cs = false := by
    refine Bool.eq_false_iff.mpr fun hsingle => ?_
    have hword := (isSingleWord_iff.mp hsingle).2 c hmem
    exact Bool.false_ne_true (hc.symm.trans hword)
  rw [identifierChars, hsingle]
  rfl

namespace Separator

variable {s : String}

/-- The identifier of a name with a separator somewhere in it, from the words on both sides. -/
theorem toList_identifier (h : Separator s) (a b : String) :
    (identifier (a ++ s ++ b)).toList =
      (capitalized a.toList ++ capitalized b.toList).filter isWord := by
  have hne : s.toList ≠ [] := fun hnil => h.ne_empty (String.toList_eq_nil_iff.mp hnil)
  obtain ⟨c, hc⟩ := List.exists_mem_of_ne_nil _ hne
  have hmem : c ∈ a.toList ++ s.toList ++ b.toList := by simp [hc]
  rw [identifier, String.toList_ofList, String.toList_append, String.toList_append,
    identifierChars_of_mem hmem (h.isWord_eq_false c hc),
    capitalized_separated hne h.isWord_eq_false]

theorem identifier_append (h : Separator s) (a b : String) :
    identifier (a ++ s ++ b) = identifier (a ++ s) ++ identifier (s ++ b) := by
  have hleft := h.toList_identifier a ""
  have hright := h.toList_identifier "" b
  have hempty : capitalized "".toList = [] := rfl
  rw [String.append_empty, hempty, List.append_nil] at hleft
  rw [String.empty_append, hempty, List.nil_append] at hright
  rw [← String.toList_inj, String.toList_append, hleft, hright, h.toList_identifier,
    List.filter_append]

end Separator

/-- Which separator stands between two parts of a name makes no difference, and the identifier is
made of letters and ASCII digits: those of the first part, with a separator behind it, and those of
the second, with a separator before it. -/
theorem identifier_separated {s t : String} (hs : Separator s) (ht : Separator t) (a b : String) :
    identifier (a ++ s ++ b) = identifier (a ++ t ++ b) ∧
      identifier (a ++ s ++ b) = identifier (a ++ s) ++ identifier (s ++ b) ∧
      ∀ c ∈ (identifier (a ++ s ++ b)).toList, isLetter c = true ∨ c.isDigit = true := by
  refine ⟨?_, hs.identifier_append a b, ?_⟩
  · rw [← String.toList_inj, hs.toList_identifier, ht.toList_identifier]
  · intro c hc
    rw [hs.toList_identifier] at hc
    exact isLetter_or_isDigit (List.mem_filter.mp hc).2

/-- A sigma at the end of the first part, a letter whose capital takes a mark at the start of the
second, and between them digits that are none of ASCII. -/
theorem identifier_separated_streets :
    Separator "_" ∧ Separator " ٣–²" ∧
      identifier "ΟΔΟΣ_ǰa" = identifier "ΟΔΟΣ ٣–²ǰa" ∧
      identifier "ΟΔΟΣ_ǰa" = identifier "ΟΔΟΣ_" ++ identifier "_ǰa" ∧
      ∀ c ∈ (identifier "ΟΔΟΣ_ǰa").toList, isLetter c = true ∨ c.isDigit = true := by
  have hs : Separator "_" := by decide +kernel
  have ht : Separator " ٣–²" := by decide +kernel
  exact ⟨hs, ht, identifier_separated hs ht "ΟΔΟΣ" "ǰa"⟩

end SchemaGen.Naming
