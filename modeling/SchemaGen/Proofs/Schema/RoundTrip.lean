import SchemaGen.Proofs.Schema.Records

/-! # Fields and collections written and read again

What is written of a field or a collection holds each part under its key, and nothing under the keys
of parts that are not set (`Field.get?_toJson`). So every field or collection that was read from
some value is what its own written value is read as, strictly or leniently (`read_toJson_of_read`).
-/

namespace SchemaGen.Schema

set_option autoImplicit false

open Members (Holds)

/-! ## Written entries -/

theorem keys_optionalEntry {α : Type} (key : String) (write : α → Json) (value : Option α) :
    ((optionalEntry key write value).map Prod.fst).Sublist [key] := by
  cases value with
  | none => exact List.nil_sublist _
  | some a => exact List.Sublist.refl _

theorem lookup_optionalEntry {α : Type} (key other : String) (write : α → Json)
    (value : Option α) : (optionalEntry key write value).lookup other =
      if other = key then value.map write else none := by
  by_cases hkey : other = key
  · cases value <;> simp [optionalEntry, hkey]
  · have hbeq : (other == key) = false := beq_eq_false_iff_ne.mpr hkey
    cases value <;> simp [optionalEntry, hkey, List.lookup_cons, hbeq]

theorem get?_ofEntries {written : List (String × Json)} (hkeys : (written.map Prod.fst).Nodup)
    (key : String) : (Json.ofEntries written).get? key = written.lookup key :=
  Entries.lookup_ofWritten hkeys key

/-- A part of a record is read from what is written of it. -/
structure Written {ρ α : Type} (shape : Shape ρ) (written : Json) (key : String)
    (value : Reading α) (get : ρ → α) (a : α) : Prop where
  holds : Holds shape.members key value get
  read : ∀ v, written.get? key = some v → value v = .ok a
  left : written.get? key = none → get shape.initial = a

namespace Written

variable {ρ α : Type} {shape : Shape ρ} {key : String} {get : ρ → α}

/-- A part that is always written. -/
theorem ofValue {written v : Json} {value : Reading α} {a : α}
    (hholds : Holds shape.members key value get) (hget : written.get? key = some v)
    (hvalue : value v = .ok a) : Written shape written key value get a := by
  refine ⟨hholds, ?_, ?_⟩
  · intro w hw
    rw [hget] at hw
    exact Option.some.inj hw ▸ hvalue
  · intro hnone
    rw [hget] at hnone
    cases hnone

/-- A part that is written only if it is set. -/
theorem ofOption {written : Json} {value : Reading α} {get : ρ → Option α} {write : α → Json}
    {a? : Option α} (hholds : Holds shape.members key (readOption value) get)
    (hget : written.get? key = a?.map write) (hinitial : get shape.initial = none)
    (hvalue : ∀ a ∈ a?, (write a).isNull = false ∧ value (write a) = .ok a) :
    Written shape written key (readOption value) get a? := by
  refine ⟨hholds, ?_, ?_⟩
  · intro v hv
    rw [hget] at hv
    obtain ⟨a, rfl, rfl⟩ := Option.map_eq_some_iff.mp hv
    obtain ⟨hnull, hread⟩ := hvalue a rfl
    exact readOption_of_ne_null hnull hread
  · intro hnone
    rw [hget] at hnone
    rw [hinitial, Option.map_eq_none_iff.mp hnone]

theorem get_eq {entries : List (String × Json)} {value : Reading α} {a : α}
    (h : Written shape (Json.ofEntries entries) key value get a) {r : ρ}
    (hread : shape.read (Json.ofEntries entries) = .ok r) : get r = a := by
  rw [Json.ofEntries, Shape.read_object] at hread
  exact h.holds.get_eq (Entries.ascending_ofWritten entries).nodup hread h.read h.left

/-- The member of a part reads it into any record. -/
theorem exists_member {written v : Json} {value : Reading α} {a : α}
    (h : Written shape written key value get a) (hv : written.get? key = some v)
    (set : ρ → α → ρ) (r : ρ) : ∃ r', (value v).map (set r) = .ok r' :=
  ⟨set r a, map_eq_ok_iff.mpr ⟨a, h.read v hv, rfl⟩⟩

end Written

/-- A record is read where every member reads what is written for it. -/
theorem exists_read_ofEntries {ρ : Type} {shape : Shape ρ} {entries : List (String × Json)}
    (h : ∀ key read v, (key, read) ∈ shape.members → (Json.ofEntries entries).get? key = some v →
      ∀ r, ∃ r', read r v = .ok r') : ∃ r, shape.read (Json.ofEntries entries) = .ok r := by
  rw [Json.ofEntries, Shape.read_object]
  refine Members.exists_foldlM_readEntry ?_ shape.initial
  intro key read v hmember hv
  have hlookup : (Json.ofEntries entries).get? key = some v :=
    Entries.lookup_of_mem (Entries.ascending_ofWritten entries).nodup hv
  exact h key read v hmember hlookup

/-! ## Values -/

theorem readCount_writeCount (n : UInt32) : readCount (writeCount n) = .ok n := by
  have hn : n.toNat < 0x100000000 := n.toNat_lt
  rw [writeCount, readCount, if_pos hn, UInt32.ofNat_toNat]

theorem readTexts_ofTexts (texts : List String) :
    readList readText (Json.ofTexts texts) = .ok texts :=
  readList_map fun _ _ => rfl

/-! ## Options -/

namespace FieldOptions

theorem get?_toJson (o : FieldOptions) :
    o.toJson.get? "values" = o.values.map Json.ofTexts ∧
      o.toJson.get? "maxSelect" = o.maxSelect.map writeCount := by
  have hkeys : ((optionalEntry "values" Json.ofTexts o.values ++
      optionalEntry "maxSelect" writeCount o.maxSelect).map Prod.fst).Nodup := by
    have hall : (["values"] ++ ["maxSelect"]).Nodup := by decide
    rw [List.map_append]
    exact ((keys_optionalEntry ..).append (keys_optionalEntry ..)).nodup hall
  unfold toJson
  rw [get?_ofEntries hkeys, get?_ofEntries hkeys]
  simp [List.lookup_append, lookup_optionalEntry]

theorem written_values (o : FieldOptions) : Written shape o.toJson "values"
    (readOption (readList readText)) FieldOptions.values o.values :=
  .ofOption holds_values o.get?_toJson.1 rfl fun texts _ => ⟨rfl, readTexts_ofTexts texts⟩

theorem written_maxSelect (o : FieldOptions) : Written shape o.toJson "maxSelect"
    (readOption readCount) FieldOptions.maxSelect o.maxSelect :=
  .ofOption holds_maxSelect o.get?_toJson.2 rfl fun n _ => ⟨rfl, readCount_writeCount n⟩

theorem read_toJson (o : FieldOptions) : shape.read o.toJson = .ok o := by
  have hreadable : ∃ r, shape.read o.toJson = .ok r := by
    refine exists_read_ofEntries ?_
    intro key read v hmember hv
    simp only [shape, member, List.mem_cons, List.not_mem_nil, or_false, Prod.mk.injEq] at hmember
    rcases hmember with ⟨rfl, rfl⟩ | ⟨rfl, rfl⟩
    · exact o.written_values.exists_member hv _
    · exact o.written_maxSelect.exists_member hv _
  obtain ⟨r, hr⟩ := hreadable
  have hvalues : r.values = o.values := o.written_values.get_eq hr
  have hmaxSelect : r.maxSelect = o.maxSelect := o.written_maxSelect.get_eq hr
  obtain ⟨values, maxSelect⟩ := r
  obtain rfl : values = o.values := hvalues
  obtain rfl : maxSelect = o.maxSelect := hmaxSelect
  exact hr

end FieldOptions

/-! ## Fields -/

namespace Field

/-- What is written of a field: its parts under their keys, and none of those that are not set. -/
theorem get?_toJson (f : Field) :
    f.toJson.get? "name" = some (.string f.name) ∧
      f.toJson.get? "type" = some (.string f.kind.tag) ∧
      f.toJson.get? "required" = some (.bool f.required) ∧
      f.toJson.get? "values" = f.values.map Json.ofTexts ∧
      f.toJson.get? "maxSelect" = f.maxSelect.map writeCount ∧
      f.toJson.get? "options" = f.options.map FieldOptions.toJson := by
  have hkeys : (([("name", Json.string f.name), ("type", .string f.kind.tag),
      ("required", .bool f.required)] ++ optionalEntry "values" Json.ofTexts f.values ++
      optionalEntry "maxSelect" writeCount f.maxSelect ++
      optionalEntry "options" FieldOptions.toJson f.options).map Prod.fst).Nodup := by
    have hall : (["name", "type", "required"] ++ ["values"] ++ ["maxSelect"] ++
        ["options"]).Nodup := by decide
    rw [List.map_append, List.map_append, List.map_append]
    have hfirst := (List.Sublist.refl ["name", "type", "required"]).append
      (keys_optionalEntry "values" Json.ofTexts f.values)
    have hsecond := hfirst.append (keys_optionalEntry "maxSelect" writeCount f.maxSelect)
    exact (hsecond.append (keys_optionalEntry "options" FieldOptions.toJson f.options)).nodup hall
  unfold toJson
  simp only [get?_ofEntries hkeys]
  simp [List.lookup_append, List.lookup_cons, lookup_optionalEntry]

theorem written_name (f : Field) : Written shape f.toJson "name" readText Field.name f.name :=
  .ofValue holds_name f.get?_toJson.1 rfl

theorem written_kind {f : Field} (hkind : FieldKind.ofTag f.kind.tag = f.kind) :
    Written shape f.toJson "type" (fun v => (readText v).map FieldKind.ofTag) Field.kind f.kind :=
  .ofValue holds_kind f.get?_toJson.2.1 (congrArg Except.ok hkind)

theorem written_required (f : Field) :
    Written shape f.toJson "required" readBool Field.required f.required :=
  .ofValue holds_required f.get?_toJson.2.2.1 rfl

theorem written_values (f : Field) : Written shape f.toJson "values"
    (readOption (readList readText)) Field.values f.values :=
  .ofOption holds_values f.get?_toJson.2.2.2.1 rfl fun texts _ => ⟨rfl, readTexts_ofTexts texts⟩

theorem written_maxSelect (f : Field) :
    Written shape f.toJson "maxSelect" (readOption readCount) Field.maxSelect f.maxSelect :=
  .ofOption holds_maxSelect f.get?_toJson.2.2.2.2.1 rfl fun n _ => ⟨rfl, readCount_writeCount n⟩

theorem written_options (f : Field) : Written shape f.toJson "options"
    (readOption FieldOptions.shape.read) Field.options f.options :=
  .ofOption holds_options f.get?_toJson.2.2.2.2.2 rfl fun o _ => ⟨rfl, o.read_toJson⟩

/-- A field whose kind is that of its own tag is read again from what is written of it. -/
theorem read_toJson {f : Field} (hkind : FieldKind.ofTag f.kind.tag = f.kind) :
    shape.read f.toJson = .ok f := by
  have hreadable : ∃ r, shape.read f.toJson = .ok r := by
    refine exists_read_ofEntries ?_
    intro key read v hmember hv
    simp only [shape, member, List.mem_cons, List.not_mem_nil, or_false, Prod.mk.injEq] at hmember
    rcases hmember with ⟨rfl, rfl⟩ | ⟨rfl, rfl⟩ | ⟨rfl, rfl⟩ | ⟨rfl, rfl⟩ | ⟨rfl, rfl⟩ | ⟨rfl, rfl⟩
    · exact f.written_name.exists_member hv _
    · intro r
      obtain ⟨tag, htag, -⟩ := map_eq_ok_iff.mp ((written_kind hkind).read v hv)
      exact ⟨_, map_eq_ok_iff.mpr ⟨tag, htag, rfl⟩⟩
    · exact f.written_required.exists_member hv _
    · exact f.written_values.exists_member hv _
    · exact f.written_maxSelect.exists_member hv _
    · exact f.written_options.exists_member hv _
  obtain ⟨r, hr⟩ := hreadable
  have hname : r.name = f.name := f.written_name.get_eq hr
  have hkindEq : r.kind = f.kind := (written_kind hkind).get_eq hr
  have hrequired : r.required = f.required := f.written_required.get_eq hr
  have hvalues : r.values = f.values := f.written_values.get_eq hr
  have hmaxSelect : r.maxSelect = f.maxSelect := f.written_maxSelect.get_eq hr
  have hoptions : r.options = f.options := f.written_options.get_eq hr
  have hsame : r = f := by
    obtain ⟨_, _, _, _, _, _⟩ := r
    obtain ⟨_, _, _, _, _, _⟩ := f
    simp_all
  rw [hr, hsame]

end Field

/-! ## Collections -/

namespace Collection

theorem get?_toJson (c : Collection) :
    c.toJson.get? "name" = some (.string c.name) ∧
      c.toJson.get? "type" = some (.string c.kind.tag) ∧
      c.toJson.get? "fields" = c.fields.map (fun fields => .array (fields.map Field.toJson)) ∧
      c.toJson.get? "schema" = none := by
  have hkeys : (([("name", Json.string c.name), ("type", .string c.kind.tag)] ++
      optionalEntry "fields" (fun fields => .array (fields.map Field.toJson)) c.fields).map
        Prod.fst).Nodup := by
    have hall : (["name", "type"] ++ ["fields"]).Nodup := by decide
    rw [List.map_append]
    exact ((List.Sublist.refl ["name", "type"]).append (keys_optionalEntry ..)).nodup hall
  unfold toJson
  simp only [get?_ofEntries hkeys]
  simp [List.lookup_cons, lookup_optionalEntry]

theorem written_name (c : Collection) :
    Written shape c.toJson "name" readText Collection.name c.name :=
  .ofValue holds_name c.get?_toJson.1 rfl

theorem written_kind (c : Collection) : Written shape c.toJson "type"
    (fun v => (readText v).map CollectionKind.ofTag) Collection.kind c.kind :=
  .ofValue holds_kind c.get?_toJson.2.1 (congrArg Except.ok (CollectionKind.ofTag_tag c.kind))

/-- Fields whose kinds are those of their own tags. -/
def Tagged (c : Collection) : Prop :=
  ∀ fields ∈ c.fields, ∀ f ∈ fields, FieldKind.ofTag f.kind.tag = f.kind

theorem Tagged.readList_fields {c : Collection} (h : c.Tagged) :
    ∀ fields ∈ c.fields,
      readList Field.shape.read (.array (fields.map Field.toJson)) = .ok fields :=
  fun fields hfields => readList_map fun f hf => Field.read_toJson (h fields hfields f hf)

theorem Tagged.written_fields {c : Collection} (h : c.Tagged) : Written shape c.toJson "fields"
    (readOption (readList Field.shape.read)) Collection.fields c.fields :=
  .ofOption holds_fields c.get?_toJson.2.2.1 rfl fun fields hfields =>
    ⟨rfl, h.readList_fields fields hfields⟩

theorem Tagged.read_toJson {c : Collection} (h : c.Tagged) : shape.read c.toJson = .ok c := by
  have hreadable : ∃ r, shape.read c.toJson = .ok r := by
    refine exists_read_ofEntries ?_
    intro key read v hmember hv
    simp only [shape, member, List.mem_cons, List.not_mem_nil, or_false, Prod.mk.injEq] at hmember
    rcases hmember with ⟨rfl, rfl⟩ | ⟨rfl, rfl⟩ | ⟨rfl, rfl⟩
    · exact c.written_name.exists_member hv _
    · intro r
      obtain ⟨tag, htag, -⟩ := map_eq_ok_iff.mp (c.written_kind.read v hv)
      exact ⟨_, map_eq_ok_iff.mpr ⟨tag, htag, rfl⟩⟩
    · exact h.written_fields.exists_member hv _
  obtain ⟨r, hr⟩ := hreadable
  have hname : r.name = c.name := c.written_name.get_eq hr
  have hkind : r.kind = c.kind := c.written_kind.get_eq hr
  have hfields : r.fields = c.fields := h.written_fields.get_eq hr
  have hsame : r = c := by
    obtain ⟨_, _, _⟩ := r
    obtain ⟨_, _, _⟩ := c
    simp_all
  rw [hr, hsame]

/-- The lenient reading finds the same name, kind and fields. -/
theorem Tagged.ofJson_toJson {c : Collection} (h : c.Tagged) : ofJson c.toJson = .ok c := by
  obtain ⟨hname, hkind, hfields, hschema⟩ := c.get?_toJson
  have hlist : fieldListOf c.toJson =
      c.fields.map fun fields => .array (fields.map Field.toJson) := by
    rw [fieldListOf, Json.present?, Json.present?, hfields, hschema]
    cases c.fields <;> rfl
  have hobject : ∃ entries, c.toJson = .object entries := ⟨_, rfl⟩
  obtain ⟨entries, hentries⟩ := hobject
  rw [hentries] at hname hkind hlist ⊢
  unfold ofJson
  simp only [hname, hkind, hlist, Option.bind_some, Json.text?, Option.getD_some, Option.elim_some,
    CollectionKind.ofTag_tag]
  cases hsome : c.fields with
  | none =>
    have hsame : Collection.mk c.name c.kind none = c := by rw [← hsome]
    exact congrArg Except.ok hsame
  | some fields =>
    have hsame : Collection.mk c.name c.kind (some fields) = c := by rw [← hsome]
    have hread := h.readList_fields fields hsome
    simp only [Option.map_some, hread]
    exact congrArg Except.ok hsame

end Collection

/-! ## Tags -/

/-- The tag that a value gives a field, empty if it gives none. Of entries under one key the last
counts. -/
def tagOf : Json → String
  | .object entries => ((entries.reverse.lookup "type").bind Json.text?).getD ""
  | .array items => ((items[1]?).bind Json.text?).getD ""
  | _ => ""

theorem tag_of_readText {v : Json} {kind : FieldKind}
    (h : (readText v).map FieldKind.ofTag = .ok kind) : v.text? = some kind.tag := by
  obtain ⟨tag, htag, rfl⟩ := map_eq_ok_iff.mp h
  unfold readText at htag
  split at htag
  · rw [Except.ok.inj htag, FieldKind.tag_ofTag]
    rfl
  · cases htag

theorem tag_of_read_object {entries : List (String × Json)} {f : Field}
    (h : Field.shape.read (.object entries) = .ok f) : f.kind.tag = tagOf (.object entries) := by
  rw [Shape.read_object] at h
  cases hlast : entries.reverse.lookup "type" with
  | some v =>
    obtain ⟨after, before, hreverse, hafter⟩ := List.lookup_eq_some_iff.mp hlast
    have hentries : entries = before.reverse ++ ("type", v) :: after.reverse := by
      rw [← List.reverse_reverse entries, hreverse]
      simp
    have hkey : "type" ∉ after.reverse.map Prod.fst := by
      intro hmem
      obtain ⟨entry, hentry, heq⟩ := List.mem_map.mp hmem
      have hne := hafter entry (List.mem_reverse.mp hentry)
      simp [heq] at hne
    rw [hentries] at h
    have htag := tag_of_readText (Field.holds_kind.foldlM_last hkey h)
    rw [tagOf, hlast, Option.bind_some, htag, Option.getD_some]
  | none =>
    have hkey : "type" ∉ entries.map Prod.fst := by
      intro hmem
      obtain ⟨entry, hentry, heq⟩ := List.mem_map.mp hmem
      have hne := List.lookup_eq_none_iff.mp hlast entry (List.mem_reverse.mpr hentry)
      simp [heq] at hne
    rw [tagOf, hlast, Field.holds_kind.foldlM_other hkey h]
    rfl

theorem tag_of_read_array {items : List Json} {f : Field}
    (h : Field.shape.read (.array items) = .ok f) : f.kind.tag = tagOf (.array items) := by
  have hitems := Shape.readItems_of_read h
  cases hitem : items[1]? with
  | some v =>
    have hplace : Field.shape.members[1]? = some ("type", _) := rfl
    have hkeys : (Field.shape.members.map Prod.fst).Nodup := by decide
    have htag := tag_of_readText (Field.holds_kind.get_eq_of_item hkeys hplace hitem hitems)
    rw [tagOf, hitem, Option.bind_some, htag, Option.getD_some]
  | none =>
    -- At most the name is given.
    match items, hitem with
    | [], _ =>
      obtain rfl := Except.ok.inj hitems
      rfl
    | [item], _ =>
      obtain ⟨next, hnext, hrest⟩ := Members.readItems_cons_eq_ok hitems
      obtain rfl := Except.ok.inj hrest
      rw [Field.holds_kind.other _ (List.mem_cons_self ..) (by decide) _ _ _ hnext]
      rfl

/-- The tag of a field is the one that it was read with, known or not. -/
theorem tag_of_read {v : Json} {f : Field} (h : Field.shape.read v = .ok f) :
    f.kind.tag = tagOf v := by
  cases v with
  | object entries => exact tag_of_read_object h
  | array items => exact tag_of_read_array h
  | null | bool | number | string => cases h

/-! ## Reading what is written -/

/-- A field or a collection that was read from any value is read again, as it is, from what is
written of it; a collection also leniently. The tag of a field is written as it was read, and no
entry is written for a part that is not set. -/
theorem read_toJson_of_read :
    (∀ (v : Json) (f : Field), Field.shape.read v = .ok f →
      Field.shape.read f.toJson = .ok f ∧
      f.toJson.get? "type" = some (.string (tagOf v)) ∧
      f.toJson.get? "values" = f.values.map Json.ofTexts ∧
      f.toJson.get? "maxSelect" = f.maxSelect.map writeCount ∧
      f.toJson.get? "options" = f.options.map FieldOptions.toJson) ∧
    ∀ (v : Json) (c : Collection), Collection.shape.read v = .ok c →
      Collection.shape.read c.toJson = .ok c ∧ Collection.ofJson c.toJson = .ok c := by
  constructor
  · intro v f h
    obtain ⟨-, htag, -, hvalues, hmaxSelect, hoptions⟩ := f.get?_toJson
    rw [tag_of_read h] at htag
    exact ⟨Field.read_toJson (Field.kind_of_read h), htag, hvalues, hmaxSelect, hoptions⟩
  · intro v c h
    have htagged : c.Tagged := Collection.kinds_of_read h
    exact ⟨htagged.read_toJson, htagged.ofJson_toJson⟩

/-- A field of an unknown tag, with empty and zero parts. -/
def spotField : Field :=
  { name := "spot", kind := .unknown "geopoint", values := some [], maxSelect := some 0,
    options := some { values := some ["x"] } }

def spotEntries : List (String × Json) :=
  [("maxSelect", .number (.natural 0)), ("name", .string "spot"),
    ("options", .object [("maxSelect", .null), ("values", .array [.string "x"])]),
    ("type", .string "geopoint"), ("values", .array [])]

def spotsCollection : Collection := { name := "spots", kind := .view, fields := some [spotField] }

theorem read_spotEntries : Field.shape.read (.object spotEntries) = .ok spotField := by
  rfl

theorem read_spots : Collection.shape.read
    (.array [.string "spots", .string "view", .array [.object spotEntries]]) =
      .ok spotsCollection := by
  rfl

theorem read_toJson_spots :
    Field.shape.read spotField.toJson = .ok spotField ∧
      spotField.toJson.get? "type" = some (.string "geopoint") ∧
      spotField.toJson.get? "maxSelect" = some (.number (.natural 0)) ∧
      Collection.shape.read spotsCollection.toJson = .ok spotsCollection ∧
      Collection.ofJson spotsCollection.toJson = .ok spotsCollection := by
  obtain ⟨hfield, htag, -, hmaxSelect, -⟩ := read_toJson_of_read.1 _ _ read_spotEntries
  exact ⟨hfield, htag, hmaxSelect, read_toJson_of_read.2 _ _ read_spots⟩

end SchemaGen.Schema
