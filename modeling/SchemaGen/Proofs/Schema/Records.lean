import SchemaGen.Proofs.Members
import SchemaGen.Schema.Collection

/-! # Fields and collections as records

Each part of a field, of its options and of a collection is read by one member. Whatever is read,
from an object or from an array, no field has a known tag stored as an unknown one
(`Field.kind_of_read`, `Collection.kinds_of_read`).
-/

namespace SchemaGen.Schema

set_option autoImplicit false

open Members (Holds)

/-! ## Readings -/

namespace Shape

variable {ρ : Type} {shape : Shape ρ}

theorem readItems_eq (members : List (String × (ρ → Json → Except Mismatch ρ))) (r : ρ)
    (items : List Json) : readItems members r items = Members.readItems members r items := by
  induction members generalizing r items with
  | nil => rfl
  | cons m rest ih =>
    cases items with
    | nil => rfl
    | cons item items =>
      rw [readItems, Members.readItems]
      cases m.2 r item with
      | error e => rfl
      | ok next => exact ih next items

theorem readItems_of_read {items : List Json} {r : ρ} (h : shape.read (.array items) = .ok r) :
    Members.readItems shape.members shape.initial items = .ok r := by
  rw [← readItems_eq]
  unfold read at h
  cases hitems : readItems shape.members shape.initial items with
  | error e =>
    simp only [hitems] at h
    cases h
  | ok s =>
    simp only [hitems] at h
    change (if shape.members.length < items.length then Except.error _ else Except.ok s) = _ at h
    split at h
    · cases h
    · exact h

theorem readEntry_eq (shape : Shape ρ) : shape.readEntry = Members.readEntry shape.members := by
  funext r entry
  unfold readEntry Members.readEntry
  cases shape.members.lookup entry.1 <;> rfl

theorem read_object (shape : Shape ρ) (entries : List (String × Json)) :
    shape.read (.object entries) =
      entries.foldlM (Members.readEntry shape.members) shape.initial := by
  rw [← readEntry_eq]
  rfl

/-- What the defaults have and every member keeps holds of all records that are read. -/
theorem read_keeps {P : ρ → Prop} (hinitial : P shape.initial)
    (hmembers : ∀ m ∈ shape.members, ∀ r v r', P r → m.2 r v = .ok r' → P r') {v : Json} {r : ρ}
    (h : shape.read v = .ok r) : P r := by
  cases v with
  | object entries =>
    rw [read_object] at h
    exact Members.foldlM_readEntry_keeps hmembers hinitial h
  | array items => exact Members.readItems_keeps hmembers hinitial (readItems_of_read h)
  | null | bool | number | string => cases h

end Shape

theorem readOption_eq_ok {α : Type} {value : Reading α} {v : Json} {a : Option α}
    (h : readOption value v = .ok a) : a = none ∨ ∃ b, a = some b ∧ value v = .ok b := by
  unfold readOption at h
  split at h
  · exact .inl (Except.ok.inj h).symm
  · obtain ⟨b, hb, rfl⟩ := map_eq_ok_iff.mp h
    exact .inr ⟨b, rfl, hb⟩

theorem readOption_of_isNull {α : Type} (value : Reading α) {v : Json} (hv : v.isNull = false) :
    readOption value v = (value v).map some := by
  unfold readOption
  split
  · cases hv
  · rfl

theorem readOption_of_ne_null {α : Type} {value : Reading α} {v : Json} {a : α}
    (hv : v.isNull = false) (h : value v = .ok a) : readOption value v = .ok (some a) := by
  rw [readOption_of_isNull value hv, h]
  rfl

theorem readList_eq_ok {α : Type} {item : Reading α} {v : Json} {as : List α}
    (h : readList item v = .ok as) : ∀ a ∈ as, ∃ w, item w = .ok a := by
  unfold readList at h
  split at h
  · next items =>
    have hitems : List.Forall₂ (fun w a => item w = .ok a) items as := mapM_eq_ok_iff.mp h
    have hboth := hitems.flip.imp fun a w hw => And.intro (Exists.intro w hw) hw
    exact ((List.forall₂_and_left ..).mp hboth).1
  · cases h

theorem readList_map {α : Type} {item : Reading α} {write : α → Json} {as : List α}
    (h : ∀ a ∈ as, item (write a) = .ok a) : readList item (.array (as.map write)) = .ok as := by
  have hitems : List.Forall₂ (fun w a => item w = .ok a) (as.map write) as := by
    rw [List.forall₂_map_left_iff]
    exact List.forall₂_same.mpr h
  exact mapM_eq_ok_iff.mpr hitems

/-! ## Options -/

namespace FieldOptions

theorem holds_values :
    Holds shape.members "values" (readOption (readList readText)) FieldOptions.values := by
  constructor <;> simp [shape, member, map_eq_ok_iff]

theorem holds_maxSelect :
    Holds shape.members "maxSelect" (readOption readCount) FieldOptions.maxSelect := by
  constructor <;> simp [shape, member, map_eq_ok_iff]

end FieldOptions

/-! ## Fields -/

namespace Field

theorem holds_name : Holds shape.members "name" readText Field.name := by
  constructor <;> simp [shape, member, map_eq_ok_iff, -Bool.exists_bool, -Bool.forall_bool]

theorem holds_kind : Holds shape.members "type" (fun v => (readText v).map FieldKind.ofTag)
    Field.kind := by
  constructor <;> simp [shape, member, map_eq_ok_iff, -Bool.exists_bool, -Bool.forall_bool]
  exact fun _ _ tag htag => ⟨tag, htag, rfl⟩

theorem holds_required : Holds shape.members "required" readBool Field.required := by
  constructor <;> simp [shape, member, map_eq_ok_iff, -Bool.exists_bool, -Bool.forall_bool]

theorem holds_values :
    Holds shape.members "values" (readOption (readList readText)) Field.values := by
  constructor <;> simp [shape, member, map_eq_ok_iff, -Bool.exists_bool, -Bool.forall_bool]

theorem holds_maxSelect :
    Holds shape.members "maxSelect" (readOption readCount) Field.maxSelect := by
  constructor <;> simp [shape, member, map_eq_ok_iff, -Bool.exists_bool, -Bool.forall_bool]

theorem holds_options :
    Holds shape.members "options" (readOption FieldOptions.shape.read) Field.options := by
  constructor <;> simp [shape, member, map_eq_ok_iff, -Bool.exists_bool, -Bool.forall_bool]

/-- The kind of a field that is read is that of its own tag. -/
theorem kind_of_read {v : Json} {field : Field} (h : shape.read v = .ok field) :
    FieldKind.ofTag field.kind.tag = field.kind := by
  refine Shape.read_keeps (P := fun f => FieldKind.ofTag f.kind.tag = f.kind) (by decide) ?_ h
  intro m hm r v r' hr hread
  by_cases hkey : m.1 = "type"
  · have hkind := holds_kind.own m hm hkey r v r' hread
    obtain ⟨tag, -, htag⟩ := map_eq_ok_iff.mp hkind
    rw [← htag, FieldKind.tag_ofTag]
  · rw [holds_kind.other m hm hkey r v r' hread]
    exact hr

end Field

/-! ## Collections -/

namespace Collection

theorem holds_name : Holds shape.members "name" readText Collection.name := by
  constructor <;> simp [shape, member, map_eq_ok_iff]

theorem holds_kind : Holds shape.members "type" (fun v => (readText v).map CollectionKind.ofTag)
    Collection.kind := by
  constructor <;> simp [shape, member, map_eq_ok_iff]
  exact fun _ _ tag htag => ⟨tag, htag, rfl⟩

theorem holds_fields :
    Holds shape.members "fields" (readOption (readList Field.shape.read)) Collection.fields := by
  constructor <;> simp [shape, member, map_eq_ok_iff]

/-- All kinds of fields are those of their own tags. -/
theorem kinds_of_read {v : Json} {c : Collection} (h : shape.read v = .ok c) :
    ∀ fields ∈ c.fields, ∀ f ∈ fields, FieldKind.ofTag f.kind.tag = f.kind := by
  refine Shape.read_keeps (P := fun c => ∀ fields ∈ c.fields, ∀ f ∈ fields,
    FieldKind.ofTag f.kind.tag = f.kind) nofun ?_ h
  intro m hm r v r' hr hread
  by_cases hkey : m.1 = "fields"
  · have hfields := holds_fields.own m hm hkey r v r' hread
    intro fields hsome f hf
    rcases readOption_eq_ok hfields with hnone | ⟨listed, hlisted, hlist⟩
    · rw [hnone] at hsome
      cases hsome
    · rw [hlisted] at hsome
      obtain rfl := Option.some.inj hsome
      obtain ⟨w, hw⟩ := readList_eq_ok hlist f hf
      exact Field.kind_of_read hw
  · rw [holds_fields.other m hm hkey r v r' hread]
    exact hr

end Collection

end SchemaGen.Schema
