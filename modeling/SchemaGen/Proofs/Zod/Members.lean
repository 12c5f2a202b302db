import SchemaGen.Proofs.Script.Literals
import SchemaGen.Proofs.Traversal
import SchemaGen.Proofs.Zod.Reading

/-! # Names read back from the enumeration

The literal of a member holds the name of a collection as it is, without escapes. Read as a string
literal it is the name exactly if no character of the name means something else there
(`memberName?_eq_iff`). A line feed in a name would give the enumeration a line too many, so the
list of names is read back from the whole text under the same condition on each of them
(`enumNames?_eq_iff`).
-/

namespace SchemaGen.Zod

set_option autoImplicit false

open SchemaGen.Text SchemaGen.Script

/-! ## Reading -/

/-- The value of the literal on a line of the enumeration. Before it stand a tab, a name and an
equals sign, and behind it a comma only. -/
def memberName? (line : List Char) : Option (List Nat) :=
  match line with
  | '\t' :: cs =>
    match cs.dropWhile (· != ' ') with
    | ' ' :: '=' :: ' ' :: '"' :: literal =>
      (readString '"' .plain literal).bind fun read => if read.2 = [','] then some read.1 else none
    | _ => none
  | _ => none

/-- The values of all members, if each line of the body is read. -/
def enumNames? (enumName text : String) : Option (List (List Nat)) :=
  (linesBetween? ("export enum " ++ enumName ++ " \x7b\n") "\n\x7d" text).bind
    (·.mapM memberName?)

/-! ## Lines -/

theorem memberName?_enumLine (name : String) :
    memberName? (enumLine name).toList =
      (readString '"' .plain (name.toList ++ '"' :: [','])).bind fun read =>
        if read.2 = [','] then some read.1 else none := by
  have hline : (enumLine name).toList = '\t' :: ((Naming.identifier name).toList ++
      ' ' :: '=' :: ' ' :: '"' :: (name.toList ++ '"' :: [','])) := by
    simp [enumLine_eq]
  have hident : ∀ c ∈ (Naming.identifier name).toList, (c != ' ') = true := by
    intro c hc
    rw [bne_iff_ne]
    rintro rfl
    exact (Naming.identifier_unbroken name).noBlank hc
  have hdrop : ((Naming.identifier name).toList ++
      ' ' :: '=' :: ' ' :: '"' :: (name.toList ++ '"' :: [','])).dropWhile (· != ' ') =
        ' ' :: '=' :: ' ' :: '"' :: (name.toList ++ '"' :: [',']) := by
    rw [List.dropWhile_append_of_pos hident, List.dropWhile_cons_of_neg (by decide)]
  rw [hline, memberName?, hdrop]
  rfl

theorem memberName?_eq_iff (name : String) :
    memberName? (enumLine name).toList = some (units name.toList) ↔ Verbatim name.toList := by
  rw [memberName?_enumLine, ← readString_eq_iff name.toList [','], Option.bind_eq_some_iff]
  constructor
  · rintro ⟨⟨value, rest⟩, hread, halone⟩
    by_cases hrest : rest = [',']
    · rw [if_pos hrest] at halone
      have hvalue : value = units name.toList := Option.some.inj halone
      rw [hread, hrest, hvalue]
    · rw [if_neg hrest] at halone
      cases halone
  · intro h
    exact ⟨_, h, if_pos rfl⟩

theorem oneLine_of_verbatim {name : String} (h : Verbatim name.toList) : OneLine name := by
  intro hmem
  exact absurd (h '\n' hmem).2.2 (by decide)

theorem enumLine_ne_empty (name : String) : enumLine name ≠ "" := by
  rw [enumLine_eq]
  simp

/-! ## Texts -/

theorem enumNames?_enumeration (enumName : String) (names : List String) :
    enumNames? enumName (enumeration enumName names) =
      (names.flatMap fun n => lines (enumLine n)).mapM memberName? := by
  have hempty : "" ∉ names.map enumLine := by
    intro h
    obtain ⟨n, -, hn⟩ := List.mem_map.mp h
    exact enumLine_ne_empty n hn
  have hbetween := linesBetween?_eq ("export enum " ++ enumName ++ " \x7b\n") "\n\x7d" hempty
  rw [enumNames?, enumeration, hbetween, Option.bind_some, List.flatMap_map]

theorem enumNames?_eq_iff (enumName : String) (names : List String) :
    enumNames? enumName (enumeration enumName names) =
        some (names.map fun n => units n.toList) ↔
      ∀ n ∈ names, Verbatim n.toList := by
  rw [enumNames?_enumeration, mapM_eq_some_iff]
  have hlines : ∀ (hone : ∀ n ∈ names, lines (enumLine n) = [(enumLine n).toList]),
      (List.Forall₂ (fun line value => memberName? line = some value)
        (names.flatMap fun n => lines (enumLine n)) (names.map fun n => units n.toList) ↔
      ∀ n ∈ names, Verbatim n.toList) := by
    intro hone
    rw [List.flatMap_congr hone, ← List.map_eq_flatMap, List.forall₂_map_left_iff,
      List.forall₂_map_right_iff, List.forall₂_same]
    simp only [memberName?_eq_iff]
  constructor
  · intro h
    have hlength := h.length_eq
    rw [List.length_map, ← List.flatMap_map] at hlength
    have hone := lines_eq_of_length (Nat.le_of_eq (hlength.trans (List.length_map enumLine).symm))
    exact (hlines fun n hn => hone _ (List.mem_map_of_mem hn)).mp h
  · intro h
    exact (hlines fun n hn =>
      (enumLine_oneLine (oneLine_of_verbatim (h n hn))).lines_eq).mpr h

/-! ## The enumeration of collections -/

/-- The literal of a member is read as the name of its collection exactly if the name holds no
quote, no backslash, no line feed and no carriage return. The list of names is read back from the
text of the enumeration exactly if this is so for all of them. -/
theorem enumeration_read_back_iff (enumName : String) (names : List String) :
    (∀ name : String, memberName? (enumLine name).toList = some (units name.toList) ↔
      Verbatim name.toList) ∧
    (enumNames? enumName (enumeration enumName names) =
        some (names.map fun n => units n.toList) ↔
      ∀ n ∈ names, Verbatim n.toList) ∧
    Function.Injective fun name : String => units name.toList := by
  refine ⟨memberName?_eq_iff, enumNames?_eq_iff enumName names, fun a b h => ?_⟩
  exact String.toList_inj.mp (units_injective h)

/-- A quote in the name ends the literal before its end. -/
theorem not_enumeration_read_back :
    ¬∀ (enumName : String) (names : List String),
      enumNames? enumName (enumeration enumName names) =
        some (names.map fun n => units n.toList) := by
  intro h
  have hread := (enumNames?_eq_iff _ _).mp (h "Collections" ["say \"hi\""])
  exact absurd (hread _ List.mem_cons_self) (by decide)

end SchemaGen.Zod
