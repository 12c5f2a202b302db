import Mathlib.Data.List.Perm.Basic
import SchemaGen.Proofs.Zod.Names
import SchemaGen.Proofs.Zod.Order

/-! # The names that a module exports

The names of all blocks, sorted by their endings, are a few images of two lists: the identifiers of
collections, and the identifiers of collection and field, joined (`blockValues_perm`,
`blockTypes_perm`). Names with different endings differ, so nothing is exported twice exactly if
neither list repeats itself (`exports_nodup_iff`).
-/

namespace SchemaGen.Zod

set_option autoImplicit false

open SchemaGen.Schema SchemaGen.StableSort

/-! ## Exports -/

/-- The values of every module, in the order of the document. -/
def sharedValues (s : Settings) : List String :=
  [s.enumName, s.recordIdAlias, s.isoDateAlias, s.htmlAlias, s.baseSystemSchema,
    s.authSystemSchema]

/-- The declarations of all blocks. -/
def blockDeclarations (s : Settings) (collections : List Collection) : List Declaration :=
  (blocks s (sortByName collections)).flatten

/-- The values that a module exports: the enumeration, the shared ones and those of the blocks. -/
def exportedValues (s : Settings) (collections : List Collection) : List String :=
  sharedValues s ++ ((blockDeclarations s collections).filter (!·.isType)).map (·.name)

/-- The types that a module exports. The enumeration is one of them too. -/
def exportedTypes (s : Settings) (collections : List Collection) : List String :=
  s.enumName :: ((blockDeclarations s collections).filter (·.isType)).map (·.name)

/-- The members of the enumeration. -/
def enumMembers (collections : List Collection) : List String :=
  (sortedNames collections).map Naming.identifier

/-! ## Exports by collection -/

/-- The collections that have a block. -/
def rendered (collections : List Collection) : List Collection :=
  collections.filter (·.wellFormed)

theorem blockDeclarations_eq (s : Settings) (collections : List Collection) :
    blockDeclarations s collections = (rendered (sortByName collections)).flatMap
      fun c => declarations s c.name c.kind (c.fields.getD []) := by
  unfold blockDeclarations blocks rendered
  generalize sortByName collections = l
  induction l with
  | nil => rfl
  | cons c rest ih =>
    by_cases h : c.wellFormed
    · rw [List.filterMap_cons_some (by rw [block?, if_pos h]), List.flatten_cons,
        List.filter_cons_of_pos h, List.flatMap_cons, ih]
    · rw [List.filterMap_cons_none (by rw [block?, if_neg h]), List.filter_cons_of_neg h, ih]

theorem rendered_sortByName_perm (collections : List Collection) :
    (rendered (sortByName collections)).Perm (rendered collections) :=
  (sort_perm Collection.name collections).filter _

/-- The identifiers of the collections that have a block. -/
def identifiers (collections : List Collection) : List String :=
  (rendered collections).map (Naming.identifier ·.name)

/-- The names of the constants without their ending: collection and field, joined. -/
def optionStems (collections : List Collection) : List String :=
  (rendered collections).flatMap fun c => (selectFields (c.fields.getD [])).map fun f =>
    Naming.identifier c.name ++ Naming.identifier f.name

theorem flatMap_optionNames (collections : List Collection) :
    ((rendered collections).flatMap fun c => optionNames c.name (c.fields.getD [])) =
      (optionStems collections).map (· ++ "Options") := by
  rw [optionStems, List.map_flatMap]
  simp only [List.map_map]
  rfl

/-- Two names for each collection are two lists of names, by their endings. -/
theorem flatMap_pair_perm (t u : String) (collections : List Collection) :
    ((rendered collections).flatMap fun c =>
        [Naming.identifier c.name ++ t, Naming.identifier c.name ++ u]).Perm
      ((identifiers collections).map (· ++ t) ++ (identifiers collections).map (· ++ u)) := by
  have hpair : ((rendered collections).flatMap fun c =>
      [Naming.identifier c.name ++ t, Naming.identifier c.name ++ u]) =
        (identifiers collections).flatMap fun n => [n ++ t] ++ [n ++ u] := by
    rw [identifiers, List.flatMap_map]
    rfl
  rw [hpair, List.map_eq_flatMap, List.map_eq_flatMap]
  exact (List.flatMap_append_perm ..).symm

/-- The values of the blocks, by their endings. -/
theorem blockValues_perm (s : Settings) (collections : List Collection) :
    (((blockDeclarations s collections).filter (!·.isType)).map (·.name)).Perm
      ((optionStems collections).map (· ++ "Options") ++
        ((identifiers collections).map (· ++ "RecordSchema") ++
          (identifiers collections).map (· ++ "ResponseSchema"))) := by
  have heq : ((blockDeclarations s collections).filter (!·.isType)).map (·.name) =
      (rendered (sortByName collections)).flatMap fun c => optionNames c.name (c.fields.getD []) ++
        [recordSchemaName c.name, responseSchemaName c.name] := by
    rw [blockDeclarations_eq, List.filter_flatMap, List.map_flatMap]
    simp only [declarations_values]
  rw [heq, ← flatMap_optionNames]
  refine ((rendered_sortByName_perm collections).flatMap_right _).trans ?_
  refine (List.flatMap_append_perm ..).symm.trans (List.Perm.append_left _ ?_)
  exact flatMap_pair_perm "RecordSchema" "ResponseSchema" collections

/-- The types of the blocks, by their endings. -/
theorem blockTypes_perm (s : Settings) (collections : List Collection) :
    (((blockDeclarations s collections).filter (·.isType)).map (·.name)).Perm
      ((identifiers collections).map (· ++ "Record") ++
        (identifiers collections).map (· ++ "Response")) := by
  have heq : ((blockDeclarations s collections).filter (·.isType)).map (·.name) =
      (rendered (sortByName collections)).flatMap fun c =>
        [recordTypeName c.name, responseTypeName c.name] := by
    rw [blockDeclarations_eq, List.filter_flatMap, List.map_flatMap]
    simp only [declarations_types]
  rw [heq]
  refine ((rendered_sortByName_perm collections).flatMap_right _).trans ?_
  exact flatMap_pair_perm "Record" "Response" collections

theorem enumMembers_perm (collections : List Collection) :
    (enumMembers collections).Perm ((named collections).map (Naming.identifier ·.name)) := by
  unfold enumMembers
  rw [sortedNames_eq, List.map_map]
  exact (sort_perm Collection.name (named collections)).map _

/-! ## When no name is exported twice -/

theorem nodup_map_append (t : String) (names : List String) :
    (names.map (· ++ t)).Nodup ↔ names.Nodup :=
  List.nodup_map_iff fun _ _ h => (String.append_left_inj t).mp h

/-- Names with different endings are different lists of names. -/
theorem disjoint_map_append {t u : String} (htu : ¬ t.toList <:+ u.toList)
    (hut : ¬ u.toList <:+ t.toList) (names names' : List String) :
    (names.map (· ++ t)).Disjoint (names'.map (· ++ u)) := by
  intro n hn hn'
  obtain ⟨a, _, rfl⟩ := List.mem_map.mp hn
  obtain ⟨b, _, hb⟩ := List.mem_map.mp hn'
  exact append_ne_append hut htu hb

/-- No shared name has an ending that it would take to be a name of a block. -/
theorem disjoint_of_endings {t : String} {shared : List String}
    (h : ∀ u ∈ shared, ¬ t.toList <:+ u.toList) (names : List String) :
    shared.Disjoint (names.map (· ++ t)) := by
  intro n hn hn'
  obtain ⟨a, _, rfl⟩ := List.mem_map.mp hn'
  exact append_ne (h _ hn) rfl

theorem exportedValues_nodup_iff (collections : List Collection) :
    (exportedValues {} collections).Nodup ↔
      (identifiers collections).Nodup ∧ (optionStems collections).Nodup := by
  have hperm := (blockValues_perm {} collections).append_left (sharedValues {})
  rw [exportedValues, hperm.nodup_iff]
  have hshared : (sharedValues {}).Nodup := by decide
  have hoptions : (sharedValues {}).Disjoint ((optionStems collections).map (· ++ "Options")) :=
    disjoint_of_endings (by decide) _
  have hrecord : (sharedValues {}).Disjoint ((identifiers collections).map (· ++ "RecordSchema")) :=
    disjoint_of_endings (by decide) _
  have hresponse :
      (sharedValues {}).Disjoint ((identifiers collections).map (· ++ "ResponseSchema")) :=
    disjoint_of_endings (by decide) _
  have hor := disjoint_map_append (t := "Options") (u := "RecordSchema") (by decide) (by decide)
    (optionStems collections) (identifiers collections)
  have hos := disjoint_map_append (t := "Options") (u := "ResponseSchema") (by decide) (by decide)
    (optionStems collections) (identifiers collections)
  have hrs := disjoint_map_append (t := "RecordSchema") (u := "ResponseSchema") (by decide)
    (by decide) (identifiers collections) (identifiers collections)
  simp only [List.nodup_append', List.disjoint_append_right, nodup_map_append, hshared, hoptions,
    hrecord, hresponse, hor, hos, hrs]
  tauto

theorem exportedTypes_nodup_iff (collections : List Collection) :
    (exportedTypes {} collections).Nodup ↔ (identifiers collections).Nodup := by
  have hperm := blockTypes_perm {} collections
  have hrecord : ["Collections"].Disjoint ((identifiers collections).map (· ++ "Record")) :=
    disjoint_of_endings (by decide) _
  have hresponse : ["Collections"].Disjoint ((identifiers collections).map (· ++ "Response")) :=
    disjoint_of_endings (by decide) _
  have hrs := disjoint_map_append (t := "Record") (u := "Response") (by decide) (by decide)
    (identifiers collections) (identifiers collections)
  rw [exportedTypes, List.nodup_cons, hperm.mem_iff, hperm.nodup_iff, List.mem_append, not_or]
  rw [List.singleton_disjoint] at hrecord hresponse
  simp only [List.nodup_append', nodup_map_append, hrs, hrecord, hresponse, not_false_eq_true,
    and_true, true_and, and_self]

theorem enumMembers_nodup_iff (collections : List Collection) :
    (enumMembers collections).Nodup ↔
      ((named collections).map (Naming.identifier ·.name)).Nodup :=
  (enumMembers_perm collections).nodup_iff

/-- A collection that has a block has a name. -/
theorem rendered_sublist (collections : List Collection) :
    (rendered collections).Sublist (named collections) := by
  refine List.monotone_filter_right _ ?_
  intro c hc
  simp only [Collection.wellFormed, Bool.and_eq_true] at hc
  exact hc.1

theorem exports_nodup_iff (collections : List Collection) :
    (exportedValues {} collections).Nodup ∧ (exportedTypes {} collections).Nodup ∧
        (enumMembers collections).Nodup ↔
      ((named collections).map (Naming.identifier ·.name)).Nodup ∧
        (optionStems collections).Nodup := by
  rw [exportedValues_nodup_iff, exportedTypes_nodup_iff, enumMembers_nodup_iff]
  have hsub : ((named collections).map (Naming.identifier ·.name)).Nodup →
      (identifiers collections).Nodup :=
    fun h => h.sublist ((rendered_sublist collections).map _)
  tauto

end SchemaGen.Zod
