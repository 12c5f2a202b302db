import SchemaGen.Proofs.Zod.Names

/-! # Constants of select fields

The line of a select field names a constant, and a block declares one constant for each select field
that has members. Both take the name from collection and field, so a field with members finds its
own constant before the record schema, with its members in their order and each of them once
(`declarations_split`). It is the only one of its name exactly if no other field with a constant
shares the identifier (`count_optionNames`).
-/

namespace SchemaGen.Zod

set_option autoImplicit false

open SchemaGen.Schema

/-! ## Members -/

theorem foldl_firstOccurrences (values seen : List String) :
    (values.foldl (fun seen v => if seen.contains v then seen else v :: seen) seen).reverse =
      List.eraseDupsBy.loop (· == ·) values seen := by
  induction values generalizing seen with
  | nil => rfl
  | cons v rest ih =>
    have hany : seen.any (v == ·) = seen.contains v := by rw [List.contains_eq_any_beq]
    rw [List.foldl_cons, ih, List.eraseDupsBy.loop, hany]
    cases seen.contains v <;> rfl

theorem firstOccurrences_eq (values : List String) : firstOccurrences values = values.eraseDups :=
  foldl_firstOccurrences values []

/-! ## Names -/

theorem optionsName_inj {collection f g : String} :
    Naming.optionsName collection g = Naming.optionsName collection f ↔
      Naming.identifier g = Naming.identifier f := by
  rw [Naming.optionsName, Naming.optionsName, String.append_left_inj, String.append_right_inj]

theorem hasOptions_iff {f : Field} : hasOptions f = true ↔ f.kind = .select ∧ f.members ≠ [] := by
  simp [hasOptions]

theorem mem_selectFields {f : Field} {fields : List Field} :
    f ∈ selectFields fields ↔ f ∈ fields ∧ f.kind = .select ∧ f.members ≠ [] := by
  rw [selectFields, List.mem_filter, hasOptions_iff]

/-- A value of a list is taken once exactly if no other element takes it. -/
theorem count_map_eq_one_iff {α β : Type} [DecidableEq β] (t : α → β) {l : List α} (h : l.Nodup)
    {a : α} (ha : a ∈ l) : (l.map t).count (t a) = 1 ↔ ∀ b ∈ l, t b = t a → b = a := by
  obtain ⟨before, after, rfl⟩ := List.append_of_mem ha
  have hcount : ((before ++ a :: after).map t).count (t a) = 1 ↔
      t a ∉ before.map t ∧ t a ∉ after.map t := by
    rw [List.map_append, List.map_cons, List.count_append, List.count_cons_self,
      ← List.count_eq_zero, ← List.count_eq_zero]
    omega
  obtain ⟨hbefore, hafter⟩ : a ∉ before ∧ a ∉ after := by
    rw [List.nodup_middle, List.nodup_cons, List.mem_append, not_or] at h
    exact h.1
  rw [hcount]
  constructor
  · rintro ⟨hb, ha'⟩ b hmem hval
    rcases List.mem_append.mp hmem with hmem | hmem
    · exact absurd (hval ▸ List.mem_map_of_mem hmem) hb
    · rcases List.mem_cons.mp hmem with rfl | hmem
      · rfl
      · exact absurd (hval ▸ List.mem_map_of_mem hmem) ha'
  · intro honly
    constructor
    · intro hmem
      obtain ⟨b, hb, hval⟩ := List.mem_map.mp hmem
      exact hbefore (honly b (List.mem_append_left _ hb) hval ▸ hb)
    · intro hmem
      obtain ⟨b, hb, hval⟩ := List.mem_map.mp hmem
      exact hafter (honly b (List.mem_append_right _ (List.mem_cons_of_mem a hb)) hval ▸ hb)

theorem count_optionNames (collection : String) {fields : List Field} {f : Field}
    (hnames : (fields.map (·.name)).Nodup) (hf : f ∈ selectFields fields) :
    (optionNames collection fields).count (Naming.optionsName collection f.name) = 1 ↔
      ∀ g ∈ selectFields fields, Naming.identifier g.name = Naming.identifier f.name → g = f := by
  have hnodup : (selectFields fields).Nodup := (hnames.of_map _).filter _
  rw [optionNames, count_map_eq_one_iff (fun g => Naming.optionsName collection g.name) hnodup hf]
  simp only [optionsName_inj]

/-- The names of constants are apart from all other names of a block. -/
theorem count_declarations (s : Settings) (collection : String) (kind : CollectionKind)
    (fields : List Field) (field : String) :
    ((declarations s collection kind fields).map (·.name)).count
        (Naming.optionsName collection field) =
      (optionNames collection fields).count (Naming.optionsName collection field) := by
  rw [declarations_name, List.count_append, Nat.add_eq_left, List.count_eq_zero]
  simp only [List.mem_cons, List.not_mem_nil, or_false, not_or]
  exact ⟨append_ne_append (by decide) (by decide), append_ne_append (by decide) (by decide),
    append_ne_append (by decide) (by decide), append_ne_append (by decide) (by decide)⟩

/-! ## References -/

/-- The line of a select field names its constant. -/
theorem fieldLine_select (s : Settings) (collection : String) {f : Field} (h : f.kind = .select) :
    fieldLine s collection f = "\t" ++ Naming.propertyKey f.name ++ ": " ++
      (if f.isMulti then
        "z.array(" ++ ("z.enum(" ++ Naming.optionsName collection f.name ++ ")") ++ ")"
      else "z.enum(" ++ Naming.optionsName collection f.name ++ ")") ++
      optionalMarks f ++ "," := by
  have hvalidator : validator s collection f =
      .several f.isMulti (.member (Naming.optionsName collection f.name)) := by
    rw [validator, h]
  rw [fieldLine, hvalidator]
  cases f.isMulti <;> rfl

/-- The constant of a field stands before the record schema that holds its line. -/
theorem declarations_split (s : Settings) (collection : String) (kind : CollectionKind)
    {fields : List Field} {f : Field} (hf : f ∈ selectFields fields) :
    ∃ before between after, declarations s collection kind fields = before ++
      .options (Naming.optionsName collection f.name) f.members.eraseDups :: (between ++
        .object (recordSchemaName collection) (recordLines s collection fields) :: after) := by
  obtain ⟨before, between, hsplit⟩ := List.append_of_mem hf
  rw [selectFields] at hsplit
  obtain ⟨after, hafter⟩ : ∃ after, declarations s collection kind fields =
      optionDeclarations collection fields ++
        .object (recordSchemaName collection) (recordLines s collection fields) :: after :=
    ⟨_, rfl⟩
  refine ⟨before.map (optionsOf collection), between.map (optionsOf collection), after, ?_⟩
  rw [hafter, optionDeclarations, hsplit, List.map_append, List.map_cons, optionsOf,
    firstOccurrences_eq, List.append_assoc, List.cons_append]

theorem mem_recordLines (s : Settings) (collection : String) {fields : List Field} {f : Field}
    (hf : f ∈ fields) : fieldLine s collection f ∈ recordLines s collection fields :=
  List.mem_mergeSort.mpr (List.mem_map_of_mem hf)

/-- The line of a select field with members names a constant that the block declares before the
record schema with that line, and that lists the members of the field, each once. The block declares
no other of its name exactly if no other field with a constant shares the identifier. -/
theorem block_declares_constant (s : Settings) (c : Collection) (hc : c.wellFormed = true)
    (hnames : ((c.fields.getD []).map (·.name)).Nodup) (f : Field) (hf : f ∈ c.fields.getD [])
    (hkind : f.kind = .select) (hmembers : f.members ≠ []) :
    fieldLine s c.name f = "\t" ++ Naming.propertyKey f.name ++ ": " ++
        (if f.isMulti then
          "z.array(" ++ ("z.enum(" ++ Naming.optionsName c.name f.name ++ ")") ++ ")"
        else "z.enum(" ++ Naming.optionsName c.name f.name ++ ")") ++
        optionalMarks f ++ "," ∧
      ∃ ds, block? s c = some ds ∧
        (∃ before between after lines, ds = before ++
            .options (Naming.optionsName c.name f.name) f.members.eraseDups :: (between ++
              .object (recordSchemaName c.name) lines :: after) ∧
          fieldLine s c.name f ∈ lines) ∧
        ((ds.map (·.name)).count (Naming.optionsName c.name f.name) = 1 ↔
          ∀ g ∈ c.fields.getD [], g.kind = .select → g.members ≠ [] →
            Naming.identifier g.name = Naming.identifier f.name → g = f) := by
  have hselect : f ∈ selectFields (c.fields.getD []) := mem_selectFields.mpr ⟨hf, hkind, hmembers⟩
  refine ⟨fieldLine_select s c.name hkind, declarations s c.name c.kind (c.fields.getD []),
    by rw [block?, if_pos hc], ?_, ?_⟩
  · obtain ⟨before, between, after, hsplit⟩ := declarations_split s c.name c.kind hselect
    exact ⟨before, between, after, _, hsplit, mem_recordLines s c.name hf⟩
  · rw [count_declarations, count_optionNames c.name hnames hselect]
    constructor
    · intro honly g hg hgkind hgmembers
      exact honly g (mem_selectFields.mpr ⟨hg, hgkind, hgmembers⟩)
    · intro honly g hg
      obtain ⟨hg, hgkind, hgmembers⟩ := mem_selectFields.mp hg
      exact honly g hg hgkind hgmembers

/-- A select field in the older shape. -/
def visibilityField : Field :=
  { name := "visibility", kind := .select,
    options := some { values := some ["public", "team", "public"], maxSelect := some 2 } }

/-- Posts with two select fields. -/
def postsCollection : Collection :=
  { name := "posts", fields := some [
      { name := "status", kind := .select, values := some ["draft", "live"] },
      visibilityField] }

theorem block_declares_visibility :
    fieldLine {} "posts" visibilityField = "\tvisibility: z.array(z.enum(" ++
        Naming.optionsName "posts" "visibility" ++ ")).optional()," ∧
      ∃ ds, block? {} postsCollection = some ds ∧
        .options (Naming.optionsName "posts" "visibility") ["public", "team"] ∈ ds ∧
        (ds.map (·.name)).count (Naming.optionsName "posts" "visibility") = 1 := by
  obtain ⟨hline, ds, hblock, ⟨before, between, after, lines, hsplit, -⟩, hcount⟩ :=
    block_declares_constant {} postsCollection (by decide) (by decide) visibilityField (by decide)
      (by decide) (by decide)
  have honly : ∀ g ∈ postsCollection.fields.getD [], g.kind = .select → g.members ≠ [] →
      Naming.identifier g.name = Naming.identifier "visibility" → g = visibilityField := by
    decide +kernel
  refine ⟨hline.trans (by decide +kernel), ds, hblock, ?_, hcount.mpr honly⟩
  rw [hsplit]
  exact List.mem_append_right _ (List.mem_cons_self ..)

/-- A select field without members. -/
def memberlessCollection : Collection :=
  { name := "posts", fields := some [{ name := "status", kind := .select }] }

/-- Two select fields of one identifier. -/
def alikeFields : Collection :=
  { name := "posts", fields := some [
      { name := "a_b", kind := .select, values := some ["x"] },
      { name := "aB", kind := .select, values := some ["y"] }] }

/-- Different names of fields are not enough: a field without members has no constant, and two
constants may share a name. -/
theorem not_block_declares_constant :
    (memberlessCollection.wellFormed = true ∧
      ((memberlessCollection.fields.getD []).map (·.name)).Nodup ∧
      fieldLine {} "posts" { name := "status", kind := .select } =
        "\tstatus: z.enum(PostsStatusOptions).optional()," ∧
      (block? {} memberlessCollection).map (·.map (·.name)) = some ["PostsRecordSchema",
        "PostsResponseSchema", "PostsRecord", "PostsResponse"]) ∧
    (alikeFields.wellFormed = true ∧ ((alikeFields.fields.getD []).map (·.name)).Nodup ∧
      fieldLine {} "posts" { name := "a_b", kind := .select, values := some ["x"] } =
        "\ta_b: z.enum(PostsABOptions).optional()," ∧
      (block? {} alikeFields).map (·.take 2) = some [.options "PostsABOptions" ["x"],
        .options "PostsABOptions" ["y"]]) := by
  refine ⟨⟨by decide, by decide, by decide +kernel, by decide +kernel⟩,
    ⟨by decide, by decide, by decide +kernel, by decide +kernel⟩⟩

end SchemaGen.Zod
