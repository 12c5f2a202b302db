import Mathlib.Data.List.Nodup
import SchemaGen.Zod.Block

/-! # Names that a block declares

Each declaration of a block is named by the identifier of its collection and an ending that tells
its role. Two names with different endings differ, whatever stands before (`append_ne_append`).
-/

namespace SchemaGen.Zod

set_option autoImplicit false

open SchemaGen.Schema

/-! ## Endings -/

/-- Texts differ if neither ending is an ending of the other. -/
theorem append_ne_append {a b t u : String} (htu : ¬ t.toList <:+ u.toList)
    (hut : ¬ u.toList <:+ t.toList) : a ++ t ≠ b ++ u := by
  intro h
  have hlist : a.toList ++ t.toList = b.toList ++ u.toList := by
    rw [← String.toList_append, h, String.toList_append]
  have hu : u.toList <:+ a.toList ++ t.toList := hlist ▸ List.suffix_append ..
  rcases List.suffix_or_suffix_of_suffix (List.suffix_append a.toList t.toList) hu with h | h
  · exact htu h
  · exact hut h

/-- A text does not end in an ending that it does not have. -/
theorem append_ne {a t u : String} (h : ¬ t.toList <:+ u.toList) : a ++ t ≠ u := by
  intro he
  exact h (he ▸ String.toList_append ▸ List.suffix_append ..)

/-! ## Names by role -/

def recordSchemaName (collection : String) : String :=
  Naming.identifier collection ++ "RecordSchema"

def responseSchemaName (collection : String) : String :=
  Naming.identifier collection ++ "ResponseSchema"

def recordTypeName (collection : String) : String := Naming.identifier collection ++ "Record"

def responseTypeName (collection : String) : String := Naming.identifier collection ++ "Response"

/-- The fields that have a constant. -/
def selectFields (fields : List Field) : List Field := fields.filter hasOptions

/-- The names of the constants. -/
def optionNames (collection : String) (fields : List Field) : List String :=
  (selectFields fields).map fun f => Naming.optionsName collection f.name

theorem optionDeclarations_name (collection : String) (fields : List Field) :
    (optionDeclarations collection fields).map (·.name) = optionNames collection fields := by
  rw [optionDeclarations, List.map_map]
  rfl

theorem optionDeclarations_isType {collection : String} {fields : List Field} {d : Declaration}
    (h : d ∈ optionDeclarations collection fields) : d.isType = false := by
  obtain ⟨f, _, rfl⟩ := List.mem_map.mp h
  rfl

/-- The names of a block in the order of its declarations. -/
theorem declarations_name (s : Settings) (collection : String) (kind : CollectionKind)
    (fields : List Field) :
    (declarations s collection kind fields).map (·.name) = optionNames collection fields ++
      [recordSchemaName collection, responseSchemaName collection, recordTypeName collection,
        responseTypeName collection] := by
  rw [declarations, List.map_append, optionDeclarations_name]
  rfl

theorem declarations_values (s : Settings) (collection : String) (kind : CollectionKind)
    (fields : List Field) :
    ((declarations s collection kind fields).filter (!·.isType)).map (·.name) =
      optionNames collection fields ++
        [recordSchemaName collection, responseSchemaName collection] := by
  have h : (optionDeclarations collection fields).filter (!·.isType) =
      optionDeclarations collection fields :=
    List.filter_eq_self.mpr fun d hd => by rw [optionDeclarations_isType hd]; rfl
  rw [declarations, List.filter_append, h, List.map_append, optionDeclarations_name]
  rfl

theorem declarations_types (s : Settings) (collection : String) (kind : CollectionKind)
    (fields : List Field) :
    ((declarations s collection kind fields).filter (·.isType)).map (·.name) =
      [recordTypeName collection, responseTypeName collection] := by
  have h : (optionDeclarations collection fields).filter (·.isType) = [] :=
    List.filter_eq_nil_iff.mpr fun d hd => by simp [optionDeclarations_isType hd]
  rw [declarations, List.filter_append, h]
  rfl

end SchemaGen.Zod
