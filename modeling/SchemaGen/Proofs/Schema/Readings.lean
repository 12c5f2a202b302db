import SchemaGen.Proofs.Schema.Records

/-! # The two readings of a collection

The lenient reading of an object looks at three of its values (`ofJson_congr`), the strict one goes
through all entries. Where name and type are text or absent, only the field list can fail either of
them, and both read it in the same way. So they agree on all such objects whose field list stands
where the strict reading looks for it (`readings_agree`), down to the cause of a failure.
-/

namespace SchemaGen.Schema

set_option autoImplicit false

/-! ## The key of the field list -/

theorem present?_eq_none {value : Json} {key : String}
    (h : value.get? key = none ∨ value.get? key = some .null) : value.present? key = none := by
  rcases h with h | h <;> simp [Json.present?, h, Json.isNull]

theorem present?_eq_some {value v : Json} {key : String} (hv : v.isNull = false)
    (h : value.get? key = some v) : value.present? key = some v := by
  simp [Json.present?, h, hv]

theorem fieldListOf_fields {value v : Json} (hv : v.isNull = false)
    (h : value.get? "fields" = some v) : fieldListOf value = some v := by
  rw [fieldListOf, present?_eq_some hv h]
  rfl

theorem fieldListOf_schema {value v : Json} (hv : v.isNull = false)
    (hf : value.get? "fields" = none ∨ value.get? "fields" = some .null)
    (h : value.get? "schema" = some v) : fieldListOf value = some v := by
  rw [fieldListOf, present?_eq_none hf, present?_eq_some hv h]
  rfl

/-- What is read from an object depends on its name, its type and the field list only. -/
theorem ofJson_congr {a b : List (String × Json)}
    (hlist : fieldListOf (.object a) = fieldListOf (.object b))
    (hname : (Json.object a).get? "name" = (Json.object b).get? "name")
    (htype : (Json.object a).get? "type" = (Json.object b).get? "type") :
    Collection.ofJson (.object a) = Collection.ofJson (.object b) := by
  simp only [Collection.ofJson, hlist, hname, htype]

/-! ## What both readings are made for -/

/-- An object whose name and type are text or absent, and whose field list, if there is one, does not
stand under the older key only. -/
structure Common (entries : List (String × Json)) : Prop where
  keys : (entries.map Prod.fst).Nodup
  name : ∀ v, entries.lookup "name" = some v → ∃ s, v = .string s
  kind : ∀ v, entries.lookup "type" = some v → ∃ s, v = .string s
  list : (Json.object entries).present? "fields" ≠ none ∨
    (Json.object entries).present? "schema" = none

/-- The field list under the newer key, if one is there that is not null. -/
def readFields (entries : List (String × Json)) : Except Mismatch (Option (List Field)) :=
  match (Json.object entries).present? "fields" with
  | some v => (readList Field.shape.read v).map some
  | none => .ok none

/-- The collection of some entries with a given field list. -/
def collectionWith (entries : List (String × Json)) (fields : Option (List Field)) : Collection where
  name := ((entries.lookup "name").bind Json.text?).getD ""
  kind := ((entries.lookup "type").bind Json.text?).elim .base CollectionKind.ofTag
  fields := fields

theorem readFields_of_none {entries : List (String × Json)} (h : entries.lookup "fields" = none) :
    readFields entries = .ok none := by
  have hget : (Json.object entries).get? "fields" = none := h
  rw [readFields, present?_eq_none (.inl hget)]

theorem readFields_of_lookup {entries : List (String × Json)} {v : Json}
    (h : entries.lookup "fields" = some v) :
    readFields entries = readOption (readList Field.shape.read) v := by
  have hget : (Json.object entries).get? "fields" = some v := h
  cases hnull : v.isNull with
  | true =>
    obtain rfl : v = .null := by
      unfold Json.isNull at hnull
      split at hnull
      · rfl
      · cases hnull
    rw [readFields, present?_eq_none (.inr hget)]
    rfl
  | false => rw [readFields, present?_eq_some hnull hget, readOption_of_isNull _ hnull]

namespace Common

variable {entries : List (String × Json)}

/-! ## The lenient reading -/

theorem fieldListOf_eq (h : Common entries) :
    fieldListOf (.object entries) = (Json.object entries).present? "fields" := by
  rw [fieldListOf]
  cases hfields : (Json.object entries).present? "fields" with
  | some v => rfl
  | none => exact h.list.resolve_left (not_not_intro hfields)

theorem ofJson_eq (h : Common entries) : Collection.ofJson (.object entries) =
    ((readFields entries).map (collectionWith entries)).mapError .value := by
  rw [Collection.ofJson, h.fieldListOf_eq, readFields]
  cases (Json.object entries).present? "fields" with
  | none => rfl
  | some v =>
    dsimp only
    cases readList Field.shape.read v <;> rfl

/-! ## The strict reading -/

theorem nameText (h : Common entries) {v : Json} (hv : ("name", v) ∈ entries) :
    ∃ s, readText v = .ok s := by
  obtain ⟨s, rfl⟩ := h.name v (Entries.lookup_of_mem h.keys hv)
  exact ⟨s, rfl⟩

theorem kindText (h : Common entries) {v : Json} (hv : ("type", v) ∈ entries) :
    ∃ s, readText v = .ok s := by
  obtain ⟨s, rfl⟩ := h.kind v (Entries.lookup_of_mem h.keys hv)
  exact ⟨s, rfl⟩

/-- Some of the entries are read if the field list is, where it is among them. -/
theorem exists_readEntries (h : Common entries) {some : List (String × Json)}
    (hsub : some ⊆ entries)
    (hfields : ∀ v, ("fields", v) ∈ some → ∃ fields, readFields entries = .ok fields)
    (r : Collection) :
    ∃ r', some.foldlM (Members.readEntry Collection.shape.members) r = .ok r' := by
  refine Members.exists_foldlM_readEntry ?_ r
  intro key read v hmember hv s
  simp only [Collection.shape, member, List.mem_cons, List.not_mem_nil, or_false,
    Prod.mk.injEq] at hmember
  rcases hmember with ⟨rfl, rfl⟩ | ⟨rfl, rfl⟩ | ⟨rfl, rfl⟩
  · obtain ⟨name, hname⟩ := h.nameText (hsub hv)
    exact ⟨_, map_eq_ok_iff.mpr ⟨name, hname, rfl⟩⟩
  · obtain ⟨tag, htag⟩ := h.kindText (hsub hv)
    exact ⟨_, map_eq_ok_iff.mpr ⟨tag, htag, rfl⟩⟩
  · obtain ⟨fields, hread⟩ := hfields v hv
    rw [readFields_of_lookup (Entries.lookup_of_mem h.keys (hsub hv))] at hread
    exact ⟨_, map_eq_ok_iff.mpr ⟨fields, hread, rfl⟩⟩

theorem read_of_ok (h : Common entries) {fields : Option (List Field)}
    (hfields : readFields entries = .ok fields) :
    Collection.shape.read (.object entries) = .ok (collectionWith entries fields) := by
  rw [Shape.read_object]
  obtain ⟨c, hc⟩ := h.exists_readEntries (List.Subset.refl entries)
    (fun _ _ => ⟨fields, hfields⟩) Collection.shape.initial
  have hname : c.name = (collectionWith entries fields).name := by
    refine Collection.holds_name.get_eq h.keys hc (fun v hv => ?_) (fun hnone => ?_)
    · obtain ⟨s, rfl⟩ := h.name v hv
      simp [collectionWith, hv, Json.text?, readText]
    · simp [collectionWith, hnone, Collection.shape]
  have hkind : c.kind = (collectionWith entries fields).kind := by
    refine Collection.holds_kind.get_eq h.keys hc (fun v hv => ?_) (fun hnone => ?_)
    · obtain ⟨s, rfl⟩ := h.kind v hv
      simp [collectionWith, hv, Json.text?, readText, Except.map]
    · simp [collectionWith, hnone, Collection.shape]
  have hlist : c.fields = fields := by
    refine Collection.holds_fields.get_eq h.keys hc (fun v hv => ?_) (fun hnone => ?_)
    · rw [← readFields_of_lookup hv]
      exact hfields
    · rw [readFields_of_none hnone] at hfields
      exact Except.ok.inj hfields
  obtain ⟨_, _, _⟩ := c
  rw [hc]
  simp_all [collectionWith]

/-- Entries before the field list are read, so it is the field list that fails. -/
theorem read_of_error (h : Common entries) {cause : Mismatch}
    (hfields : readFields entries = .error cause) :
    Collection.shape.read (.object entries) = .error cause := by
  rw [Shape.read_object]
  cases hlookup : entries.lookup "fields" with
  | none =>
    rw [readFields_of_none hlookup] at hfields
    cases hfields
  | some v =>
    obtain ⟨before, after, hsplit, hbefore⟩ := List.lookup_eq_some_iff.mp hlookup
    have hsub : before ⊆ entries := by
      rw [hsplit]
      exact List.subset_append_left _ _
    have hnone : ∀ v, ("fields", v) ∉ before := by
      intro v hv
      have hne := hbefore _ hv
      simp at hne
    obtain ⟨r, hr⟩ := h.exists_readEntries hsub (fun v hv => absurd hv (hnone v))
      Collection.shape.initial
    have hentry : Members.readEntry Collection.shape.members r ("fields", v) = .error cause := by
      rw [readFields_of_lookup hlookup] at hfields
      simp [Members.readEntry, Collection.shape, member, List.lookup_cons, hfields, Except.map]
    rw [hsplit, List.foldlM_append]
    refine bind_eq_error_iff.mpr (.inr ⟨r, hr, ?_⟩)
    rw [List.foldlM_cons]
    exact bind_eq_error_iff.mpr (.inl hentry)

theorem read_eq (h : Common entries) : Collection.shape.read (.object entries) =
    (readFields entries).map (collectionWith entries) := by
  cases hfields : readFields entries with
  | ok fields => exact h.read_of_ok hfields
  | error cause => exact h.read_of_error hfields

end Common

/-! ## Agreement -/

/-- Strictly and leniently, an object for both is read as the same collection, or refused for the
same cause, whatever else it holds. -/
theorem readings_agree {entries : List (String × Json)} (h : Common entries) :
    (∃ c, Collection.shape.read (.object entries) = .ok c ∧
      Collection.ofJson (.object entries) = .ok c) ∨
    ∃ cause e, Collection.shape.read (.object entries) = .error cause ∧
      Collection.ofJson (.object entries) = .error e ∧ e.cause? = some cause.message := by
  rw [h.read_eq, h.ofJson_eq]
  cases readFields entries with
  | ok fields => exact .inl ⟨_, rfl, rfl⟩
  | error cause => exact .inr ⟨cause, .value cause, rfl, rfl, rfl⟩

/-- An object without a type whose field list fails deep inside, under keys that do not count. -/
def brokenEntries : List (String × Json) :=
  [("fields", .array [.object [("name", .string "role"),
      ("options", .object [("maxSelect", .string "many")])]]),
    ("id", .number (.natural 1)), ("name", .string "users"), ("schema", .array [])]

theorem readings_agree_broken :
    Common brokenEntries ∧
      Collection.shape.read (.object brokenEntries) = .error (.kind (.string "many") .count) ∧
      Collection.ofJson (.object brokenEntries) =
        .error (.value (.kind (.string "many") .count)) ∧
      ((∃ c, Collection.shape.read (.object brokenEntries) = .ok c ∧
        Collection.ofJson (.object brokenEntries) = .ok c) ∨
      ∃ cause e, Collection.shape.read (.object brokenEntries) = .error cause ∧
        Collection.ofJson (.object brokenEntries) = .error e ∧ e.cause? = some cause.message) := by
  have hcommon : Common brokenEntries := {
    keys := by decide
    name := fun v hv => ⟨"users", (Option.some.inj hv).symm⟩
    kind := nofun
    list := .inl (by simp [brokenEntries, Json.present?, Json.get?, Json.isNull]) }
  exact ⟨hcommon, rfl, rfl, readings_agree hcommon⟩

end SchemaGen.Schema
