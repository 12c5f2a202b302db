import Mathlib.Data.List.TakeWhile
import SchemaGen.Proofs.Json.Reader
import SchemaGen.Proofs.Source.Attempt
import SchemaGen.Proofs.Source.Objects
import SchemaGen.Proofs.Traversal
import SchemaGen.Source.Database

/-! # Rows of collection objects

A table has its columns in any order and spells their names in any case: they are found all the same
(`Places.columnOf_name`, `Places.layout_eq`). A row that holds an object is read as the object with
its name and its type up to their first zeros (`result_readRow`), and so is a table row by row
(`result_readTable`).
-/

namespace SchemaGen.Source.Database

set_option autoImplicit false

open SchemaGen.Schema

/-! ## Columns -/

theorem sameName_eq (a b : String) :
    sameName a b = (a.toList.map Char.toLower == b.toList.map Char.toLower) := by
  have htoList (s : String) : s.toLower.toList = s.toList.map Char.toLower := String.toList_map
  rw [sameName, Bool.eq_iff_iff, beq_iff_eq, beq_iff_eq, ← String.toList_inj, htoList, htoList]

theorem sameName_iff {a b : String} : sameName a b = true ↔ a.toLower = b.toLower := beq_iff_eq

/-- Where a table has its columns for names, types and field lists. The last may have its older name
if none has the newer. -/
structure Places (columns : List String) where
  name : Nat
  kind : Nat
  fields : Nat
  distinct : columns.Pairwise fun a b => sameName a b = false
  name_at : ∃ c, columns[name]? = some c ∧ sameName "name" c = true
  kind_at : ∃ c, columns[kind]? = some c ∧ sameName "type" c = true
  fields_at : (∃ c, columns[fields]? = some c ∧ sameName "fields" c = true) ∨
    (∀ c ∈ columns, sameName "fields" c = false) ∧
      ∃ c, columns[fields]? = some c ∧ sameName "schema" c = true

/-- Only one column has a name. -/
theorem columnOf_eq_some {columns : List String} {key : String} {place : Nat}
    (hdistinct : columns.Pairwise fun a b => sameName a b = false)
    (h : ∃ c, columns[place]? = some c ∧ sameName key c = true) :
    columnOf columns key = some place := by
  obtain ⟨c, hc, hkey⟩ := h
  obtain ⟨hlt, rfl⟩ := List.getElem?_eq_some_iff.mp hc
  refine List.findIdx?_eq_some_iff_getElem.mpr ⟨hlt, hkey, fun j hj hother => ?_⟩
  -- An earlier column of this name could not be told from the one at the place.
  have hsame : sameName columns[j] columns[place] = true :=
    sameName_iff.mpr ((sameName_iff.mp hother).symm.trans (sameName_iff.mp hkey))
  have hapart := List.pairwise_iff_getElem.mp hdistinct j place (Nat.lt_trans hj hlt) hlt hj
  exact absurd hsame (Bool.eq_false_iff.mp hapart)

namespace Places

variable {columns : List String} (places : Places columns)

theorem columnOf_name : columnOf columns "name" = some places.name :=
  columnOf_eq_some places.distinct places.name_at

theorem columnOf_kind : columnOf columns "type" = some places.kind :=
  columnOf_eq_some places.distinct places.kind_at

/-- The column for field lists is found under the name that the layout gives it. -/
theorem layout_eq : ∃ fieldColumn, Layout.of? columns = some ⟨fieldColumn, true⟩ ∧
    columnOf columns fieldColumn = some places.fields := by
  rcases places.fields_at with hfields | ⟨hnone, hschema⟩
  · have hcolumn := columnOf_eq_some places.distinct hfields
    refine ⟨"fields", ?_, hcolumn⟩
    simp [Layout.of?, hcolumn, places.columnOf_kind]
  · have hnewer : columnOf columns "fields" = none := List.findIdx?_eq_none_iff.mpr hnone
    have hcolumn := columnOf_eq_some places.distinct hschema
    refine ⟨"schema", ?_, hcolumn⟩
    simp [Layout.of?, hnewer, hcolumn, places.columnOf_kind]

end Places

/-! ## Cells -/

/-- The part of a text that is read from its cell. -/
def ended (s : String) : String := String.ofList (s.toList.takeWhile (· != '\x00'))

theorem ended_eq {s : String} (h : '\x00' ∉ s.toList) : ended s = s := by
  have hall : s.toList.takeWhile (· != '\x00') = s.toList := by
    refine List.takeWhile_eq_self_iff.mpr fun c hc => ?_
    exact bne_iff_ne.mpr fun hzero => h (hzero ▸ hc)
  rw [ended, hall, String.ofList_toList]

/-- A text that holds a value is read from its cell as this value. -/
theorem fieldValue_of_parse {text : String} {v : Json} (h : Json.parse text = .ok v) :
    fieldValue (some (ended text)) = .ok v := by
  rw [ended_eq (Json.zero_not_mem_of_parse h), fieldValue, Json.allBlank_eq_false_of_parse h,
    if_neg Bool.false_ne_true, h]
  rfl

/-! ## Rows -/

/-- A row holds an object: its name, its type and a text of its field list. -/
structure Places.Holds {columns : List String} (places : Places columns) (row : List Cell)
    (o : CollectionObject) : Prop where
  name : row[places.name]? = some (.text o.name)
  kind : row[places.kind]? = some (.text o.kind)
  fields : ∃ text, row[places.fields]? = some (.text text) ∧ Json.parse text = .ok (.array o.fields)

/-- An object as its row is read. -/
def stored (o : CollectionObject) : CollectionObject where
  entries := [("fields", .array o.fields), ("name", .string (ended o.name)),
    ("type", .string (ended o.kind))]
  name := ended o.name
  kind := ended o.kind
  fields := o.fields
  name_eq := rfl
  kind_eq := rfl
  fields_eq := rfl

theorem ofJson_stored {o : CollectionObject} (hname : '\x00' ∉ o.name.toList)
    (hkind : '\x00' ∉ o.kind.toList) :
    Collection.ofJson (stored o).value = Collection.ofJson o.value :=
  CollectionObject.ofJson_value_eq (ended_eq hname) (ended_eq hkind) rfl

variable {columns : List String} {places : Places columns} {row : List Cell} {o : CollectionObject}

theorem cellText_cellAt {place : Nat} {s : String} (h : row[place]? = some (.text s)) :
    cellText (cellAt row place) = pure (some (ended s)) := by
  rw [cellAt, h]
  rfl

theorem result_readRow (h : places.Holds row o) :
    (readRow places.name (some places.kind) places.fields row).result =
      ((Collection.ofJson (stored o).value).mapError .schema).mapError .failed := by
  obtain ⟨text, htext, hparse⟩ := h.fields
  rw [readRow, cellText_cellAt h.name, Attempt.result_bind_of_ok rfl, Option.elim_some,
    cellText_cellAt h.kind, Attempt.result_bind_of_ok rfl, cellText_cellAt htext,
    Attempt.result_bind_of_ok rfl, fieldValue_of_parse hparse, Attempt.result_bind_of_ok rfl]
  rfl

/-! ## Tables -/

theorem result_readTable {t : Table} (hname : sameName t.name tableName = true)
    (places : Places t.columns) {objects : List CollectionObject}
    (hrows : List.Forall₂ places.Holds t.rows objects) :
    (readTable (some t)).result =
      ((collectionsOf (objects.map stored)).mapError .schema).mapError .failed := by
  obtain ⟨fieldColumn, hlayout, hfields⟩ := places.layout_eq
  have hrow : (t.rows.mapM fun row =>
      (readRow places.name (some places.kind) places.fields row).result) =
      objects.mapM fun o =>
        ((Collection.ofJson (stored o).value).mapError .schema).mapError .failed :=
    mapM_eq_of_forall₂ (hrows.imp fun row o h => result_readRow h)
  rw [readTable, collectionTable, if_pos hname]
  simp only [hlayout, places.columnOf_name, hfields, places.columnOf_kind]
  rw [Attempt.result_bind_of_ok rfl, Attempt.result_mapM, hrow, mapM_mapError, mapM_mapError,
    collectionsOf, List.mapM_map]
  rfl

end SchemaGen.Source.Database
