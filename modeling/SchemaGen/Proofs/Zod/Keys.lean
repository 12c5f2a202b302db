import SchemaGen.Proofs.Script.Literals
import SchemaGen.Proofs.Traversal
import SchemaGen.Proofs.Zod.Lines

/-! # Keys read back from record schemas

The key of a field is its name in quotes where the name starts with a digit or holds a hyphen, and
the bare name elsewhere; in both cases without escapes. Read as a key of an object literal it is the
name exactly if the name can be written in that form (`readKey_propertyKey_iff`). Two names that
share a key are one name with its quotes put in and one with its quotes in itself
(`propertyKey_eq_iff`). Where all names can be written, the lines of a record schema are read one by
one as the fields' keys.
-/

namespace SchemaGen.Naming

set_option autoImplicit false
set_option maxRecDepth 20000

open SchemaGen.Text SchemaGen.Script

/-! ## Keys of names -/

/-- The names whose key is in quotes. -/
def takesQuotes (name : String) : Bool :=
  name.toList.head?.any Char.isDigit || name.toList.contains '-'

/-- The name can be written in the form that its key has. -/
def Faithful (name : String) : Prop :=
  if takesQuotes name then Verbatim name.toList else isName name.toList = true

instance (name : String) : Decidable (Faithful name) :=
  inferInstanceAs (Decidable
    (if takesQuotes name then Verbatim name.toList else isName name.toList = true))

theorem propertyKey_of_takesQuotes {name : String} (h : takesQuotes name = true) :
    propertyKey name = "\"" ++ name ++ "\"" := if_pos h

theorem propertyKey_of_bare {name : String} (h : takesQuotes name = false) :
    propertyKey name = name := if_neg (by simpa [takesQuotes] using h)

/-- A key stands at the end of a text or before a colon. -/
theorem readKey_propertyKey_iff (name : String) (tail : List Char)
    (htail : ∀ c ∈ tail.head?, c = ':') :
    readKey ((propertyKey name).toList ++ tail) = some (units name.toList, tail) ↔
      Faithful name := by
  unfold Faithful
  cases h : takesQuotes name with
  | true =>
    have hkey : (propertyKey name).toList ++ tail = '"' :: (name.toList ++ '"' :: tail) := by
      simp [propertyKey_of_takesQuotes h]
    rw [hkey, if_pos rfl]
    exact readKey_quoted_iff name.toList tail
  | false =>
    have hends : EndsName tail := by
      intro c hc
      rw [htail c hc]
      exact ⟨by decide, by decide⟩
    rw [propertyKey_of_bare h, if_neg Bool.false_ne_true]
    refine readKey_bare_iff hends fun c hc => ?_
    rw [htail c hc]
    decide

/-! ## Shared keys -/

/-- The second name is the first with the quotes that its key has. -/
structure Shadowed (name other : String) : Prop where
  quotes : takesQuotes name = true
  bare : takesQuotes other = false
  eq : other = "\"" ++ name ++ "\""

theorem quotes_injective {a b : String} (h : "\"" ++ a ++ "\"" = "\"" ++ b ++ "\"") : a = b := by
  have hlist := congrArg String.toList h
  simp only [String.toList_append] at hlist
  exact String.toList_inj.mp (List.append_cancel_left (List.append_cancel_right hlist))

theorem propertyKey_eq_iff (a b : String) :
    propertyKey a = propertyKey b ↔ a = b ∨ Shadowed a b ∨ Shadowed b a := by
  have hcross : ∀ {x y : String}, takesQuotes x = true → takesQuotes y = false →
      (propertyKey x = propertyKey y ↔ Shadowed x y) := by
    intro x y hx hy
    rw [propertyKey_of_takesQuotes hx, propertyKey_of_bare hy]
    exact ⟨fun h => ⟨hx, hy, h.symm⟩, fun h => h.eq.symm⟩
  constructor
  · intro h
    cases ha : takesQuotes a <;> cases hb : takesQuotes b
    · rw [propertyKey_of_bare ha, propertyKey_of_bare hb] at h
      exact .inl h
    · exact .inr (.inr ((hcross hb ha).mp h.symm))
    · exact .inr (.inl ((hcross ha hb).mp h))
    · rw [propertyKey_of_takesQuotes ha, propertyKey_of_takesQuotes hb] at h
      exact .inl (quotes_injective h)
  · rintro (rfl | h | h)
    · rfl
    · exact (hcross h.quotes h.bare).mpr h
    · exact ((hcross h.quotes h.bare).mpr h).symm

theorem oneLine_of_faithful {name : String} (h : Faithful name) : OneLine name := by
  intro hmem
  unfold Faithful at h
  split at h
  · exact absurd (h '\n' hmem).2.2 (by decide)
  · have hpart : isNamePart '\n' = true := isNamePart_of_mem_isName h hmem
    exact absurd hpart (by decide)

end SchemaGen.Naming

namespace SchemaGen.Zod

set_option autoImplicit false
set_option maxRecDepth 20000

open SchemaGen.Schema SchemaGen.Text SchemaGen.Script SchemaGen.Naming

/-! ## Lines of fields -/

/-- The key on the line of a field, and what stands behind its colon. -/
def readField (line : List Char) : Option (List Nat × List Char) :=
  match line with
  | '\t' :: cs =>
    match readKey cs with
    | some (key, ':' :: ' ' :: value) => some (key, value)
    | _ => none
  | _ => none

/-- What stands behind the colon on the line of a field. -/
def fieldValue (s : Settings) (collection : String) (f : Field) : String :=
  (validator s collection f).render ++ optionalMarks f ++ ","

theorem fieldLine_toList (s : Settings) (collection : String) (f : Field) :
    (fieldLine s collection f).toList = '\t' :: ((propertyKey f.name).toList ++
      ':' :: ' ' :: (fieldValue s collection f).toList) := by
  simp [fieldLine, fieldValue]

theorem readField_fieldLine_iff (s : Settings) (collection : String) (f : Field) :
    readField (fieldLine s collection f).toList =
        some (units f.name.toList, (fieldValue s collection f).toList) ↔
      Faithful f.name := by
  have hkey := readKey_propertyKey_iff f.name
    (':' :: ' ' :: (fieldValue s collection f).toList) (by simp)
  rw [fieldLine_toList, readField, ← hkey]
  constructor
  · intro h
    split at h
    · next key value hread =>
      have hpair := Prod.mk.inj (Option.some.inj h)
      rw [hread, hpair.1, hpair.2]
    · cases h
  · intro h
    rw [h]
    rfl

/-! ## Record schemas -/

/-- The keys of an object schema of some name, line by line. -/
def objectKeys? (schema text : String) : Option (List (List Nat)) :=
  (linesBetween? ("export const " ++ schema ++ " = z.object(\x7b\n") "\n\x7d);" text).bind
    (·.mapM fun line => (readField line).map Prod.fst)

theorem objectKeys?_render (schema : String) {texts : List String} (h : "" ∉ texts) :
    objectKeys? schema (Declaration.object schema texts).render =
      (texts.flatMap lines).mapM fun line => (readField line).map Prod.fst := by
  have hbetween := linesBetween?_eq ("export const " ++ schema ++ " = z.object(\x7b\n")
    "\n\x7d);" h
  have hrender : (Declaration.object schema texts).render = "export const " ++ schema ++
      " = z.object(\x7b\n" ++ "\n".intercalate texts ++ "\n\x7d);" := rfl
  rw [objectKeys?, hrender, hbetween, Option.bind_some]

/-- The keys read off the body of a record schema are the fields' names, in the order of the
lines. -/
theorem objectKeys?_recordLines {s : Settings} (hs : OneLineAliases s) (schema collection : String)
    {fields : List Field} (h : ∀ f ∈ fields, Faithful f.name) :
    ∃ keys, objectKeys? schema (Declaration.object schema (recordLines s collection fields)).render
        = some keys ∧ keys.Perm (fields.map fun f => units f.name.toList) := by
  let key : String → Option (List Nat) := fun line => (readField line.toList).map Prod.fst
  have hkey : ∀ f ∈ fields, key (fieldLine s collection f) = some (units f.name.toList) := by
    intro f hf
    have hread := (readField_fieldLine_iff s collection f).mpr (h f hf)
    simp only [key, hread, Option.map_some]
  have hperm : (recordLines s collection fields).Perm (fields.map (fieldLine s collection)) :=
    List.mergeSort_perm _ _
  have hmem : ∀ line ∈ recordLines s collection fields,
      ∃ f ∈ fields, line = fieldLine s collection f := by
    intro line hline
    obtain ⟨f, hf, heq⟩ := List.mem_map.mp (hperm.mem_iff.mp hline)
    exact ⟨f, hf, heq.symm⟩
  have hempty : "" ∉ recordLines s collection fields := by
    intro hline
    obtain ⟨f, -, heq⟩ := hmem "" hline
    rw [fieldLine_eq] at heq
    simp at heq
  have hlines : ∀ line ∈ recordLines s collection fields, lines line = [line.toList] := by
    intro line hline
    obtain ⟨f, hf, rfl⟩ := hmem line hline
    have htext := fieldText_oneLine hs collection (oneLine_of_faithful (h f hf))
    rw [fieldLine_eq]
    exact (OneLine.append (by simp [OneLine]) htext).lines_eq
  have hread : ∀ line ∈ recordLines s collection fields, (key line).isSome := by
    intro line hline
    obtain ⟨f, hf, rfl⟩ := hmem line hline
    rw [hkey f hf]
    rfl
  refine ⟨(recordLines s collection fields).filterMap key, ?_, ?_⟩
  · rw [objectKeys?_render schema hempty, List.flatMap_congr hlines, ← List.map_eq_flatMap,
      List.mapM_map]
    exact mapM_eq_filterMap hread
  · have hnames : fields.filterMap (key ∘ fieldLine s collection) =
        fields.map fun f => units f.name.toList := by
      rw [← List.filterMap_eq_map]
      exact List.filterMap_congr hkey
    have hkeys := hperm.filterMap key
    rw [List.filterMap_map, hnames] at hkeys
    exact hkeys

/-! ## Names read back -/

/-- A key, at the end of a text or on the line of a field, is read as the name of the field exactly
if that name can be written in the form of its key: without quotes, backslashes and breaks where the
key is in quotes, and as a name of the script elsewhere. Two names share a key exactly if they are
equal or one is the other in its quotes. The lines of a record schema of names that can be written
are read one by one as the names of its fields. -/
theorem keys_read_back (s : Settings) (schema collection : String) (fields : List Field) :
    (∀ name : String, readKey (propertyKey name).toList = some (units name.toList, []) ↔
      Faithful name) ∧
    (∀ a b : String, propertyKey a = propertyKey b ↔ a = b ∨ Shadowed a b ∨ Shadowed b a) ∧
    (∀ f : Field, readField (fieldLine s collection f).toList =
          some (units f.name.toList, (fieldValue s collection f).toList) ↔
        Faithful f.name) ∧
    (OneLineAliases s → (∀ f ∈ fields, Faithful f.name) →
      ∃ keys, objectKeys? schema
            (Declaration.object schema (recordLines s collection fields)).render = some keys ∧
          keys.Perm (fields.map fun f => units f.name.toList)) := by
  refine ⟨fun name => ?_, propertyKey_eq_iff, readField_fieldLine_iff s collection, ?_⟩
  · have hkey := readKey_propertyKey_iff name [] (by simp)
    rwa [List.append_nil] at hkey
  · intro hs hfields
    exact objectKeys?_recordLines hs schema collection hfields

/-- Fields with a key in each of the two forms. -/
def personFields : List Field := [
  { name := "full-name", kind := .text }, { name := "2fa", kind := .bool },
  { name := "größe", kind := .number }]

theorem keys_read_back_person :
    OneLineAliases {} ∧ (∀ f ∈ personFields, Faithful f.name) ∧
      ∃ keys, objectKeys? "PeopleRecordSchema" (Declaration.object "PeopleRecordSchema"
            (recordLines {} "people" personFields)).render = some keys ∧
          keys.Perm (personFields.map fun f => units f.name.toList) := by
  have hfaithful : ∀ f ∈ personFields, Faithful f.name := by decide
  obtain ⟨-, -, -, hbody⟩ := keys_read_back {} "PeopleRecordSchema" "people" personFields
  exact ⟨oneLineAliases_default, hfaithful, hbody oneLineAliases_default hfaithful⟩

/-- A blank is no part of a name and does not put a key in quotes. A name in quotes of its own has
the key of the one within. -/
theorem not_keys_read_back :
    (¬∀ name : String, name ≠ "" →
      readKey (propertyKey name).toList = some (units name.toList, [])) ∧
    ¬∀ a b : String, a ≠ b → propertyKey a ≠ propertyKey b := by
  constructor
  · intro h
    have hkey := readKey_propertyKey_iff "a b" [] (by simp)
    rw [List.append_nil] at hkey
    exact absurd (hkey.mp (h "a b" (by decide))) (by decide)
  · intro h
    have hshadowed : Shadowed "1st" "\"1st\"" := ⟨by decide, by decide, by decide⟩
    exact h "1st" "\"1st\"" (by decide) ((propertyKey_eq_iff _ _).mpr (.inr (.inl hshadowed)))

end SchemaGen.Zod
