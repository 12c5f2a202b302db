import SchemaGen.Proofs.Schema.Readings
import SchemaGen.Source.Export

/-! # Collection objects

An object with a name, a type and a field list has all that a collection is made of. Whatever else
it holds, it is read as these three say (`ofJson_value_eq`), and nothing is added to it
(`withFieldList_value`), so that an export of such objects is read object by object
(`parseExport_objects`).
-/

namespace SchemaGen.Source

set_option autoImplicit false

open SchemaGen.Schema

/-! ## Objects -/

/-- A collection object with a name and a type that are text, a list of fields, and any more. -/
structure CollectionObject where
  entries : List (String × Json)
  name : String
  kind : String
  fields : List Json
  name_eq : entries.lookup "name" = some (.string name)
  kind_eq : entries.lookup "type" = some (.string kind)
  fields_eq : entries.lookup "fields" = some (.array fields)

namespace CollectionObject

def value (o : CollectionObject) : Json := .object o.entries

theorem fieldListOf_value (o : CollectionObject) :
    fieldListOf o.value = some (.array o.fields) :=
  fieldListOf_fields rfl o.fields_eq

/-- Collections are told apart by name, type and fields only. -/
theorem ofJson_value_eq {o p : CollectionObject} (hname : o.name = p.name)
    (hkind : o.kind = p.kind) (hfields : o.fields = p.fields) :
    Collection.ofJson o.value = Collection.ofJson p.value := by
  refine ofJson_congr ?_ ?_ ?_
  · exact (o.fieldListOf_value.trans (by rw [hfields])).trans p.fieldListOf_value.symm
  · exact (o.name_eq.trans (by rw [hname])).trans p.name_eq.symm
  · exact (o.kind_eq.trans (by rw [hkind])).trans p.kind_eq.symm

theorem withFieldList_value (o : CollectionObject) : withFieldList o.value = o.value := by
  have hsome : (fieldListOf (.object o.entries)).isSome := by
    rw [← value, fieldListOf_value]
    rfl
  rw [value, withFieldList, if_pos hsome]

end CollectionObject

/-- What objects stand for, read one after another. -/
def collectionsOf (objects : List CollectionObject) : Except SchemaError (List Collection) :=
  objects.mapM fun o => Collection.ofJson o.value

/-! ## Exports -/

theorem parseExport_objects {objects : List CollectionObject} {text : String}
    (h : Json.parse text = .ok (.array (objects.map (·.value)))) :
    parseExport text = (collectionsOf objects).mapError .schema := by
  have hlists : (objects.map (·.value)).map withFieldList = objects.map (·.value) := by
    rw [List.map_map]
    exact List.map_congr_left fun o _ => o.withFieldList_value
  rw [parseExport, h]
  simp only [withFieldLists, collectionsOfJson, hlists, List.mapM_map]
  rfl

end SchemaGen.Source
