import SchemaGen.Proofs.Zod.Assembly
import SchemaGen.Proofs.Zod.Names

/-! # The order of fields

The lines of a record schema are in the order of their text, so a schema does not depend on the
order of the fields (`recordLines_eq_of_perm`). Constants are in the order of the fields. A block is
its constants, each with an empty line behind it, and then its schemas and types
(`renderAll_declarations`), so only the constants move when fields change places.
-/

namespace SchemaGen.Zod

set_option autoImplicit false

open SchemaGen.Schema SchemaGen.StableSort SchemaGen.Text

/-! ## Record schemas -/

theorem recordLines_perm (s : Settings) (collection : String) (fields : List Field) :
    (recordLines s collection fields).Perm (fields.map (fieldLine s collection)) :=
  sort_perm id _

theorem recordLines_ascending (s : Settings) (collection : String) (fields : List Field) :
    (recordLines s collection fields).Pairwise (· ≤ ·) :=
  (sort_ascending _ : Ascending id (recordLines s collection fields))

/-- There is one ascending list of the lines, however often one of them stands in it. -/
theorem recordLines_eq_of_perm (s : Settings) (collection : String) {order fields : List Field}
    (h : order.Perm fields) : recordLines s collection order = recordLines s collection fields := by
  have hperm : (recordLines s collection order).Perm (recordLines s collection fields) :=
    (recordLines_perm s collection order).trans
      ((h.map _).trans (recordLines_perm s collection fields).symm)
  exact hperm.eq_of_pairwise (fun _ _ _ _ => String.le_antisymm)
    (recordLines_ascending s collection order) (recordLines_ascending s collection fields)

/-! ## Constants -/

/-- The constant of a field, if it has one. -/
def constantText? (collection : String) (f : Field) : Option String :=
  if hasOptions f then some (optionsOf collection f).render else none

theorem render_optionDeclarations (collection : String) (fields : List Field) :
    (optionDeclarations collection fields).map Declaration.render =
      fields.filterMap (constantText? collection) := by
  unfold optionDeclarations
  induction fields with
  | nil => rfl
  | cons f rest ih =>
    by_cases h : hasOptions f = true
    · have htext : constantText? collection f = some (optionsOf collection f).render := if_pos h
      rw [List.filter_cons_of_pos h, List.map_cons, List.map_cons, ih,
        List.filterMap_cons_some htext]
    · have htext : constantText? collection f = none := if_neg h
      rw [List.filter_cons_of_neg h, ih, List.filterMap_cons_none htext]

/-! ## Blocks -/

/-- The record schema of some lines, the response schema and the types of both. -/
def schemaTexts (s : Settings) (collection : String) (kind : CollectionKind)
    (lines : List String) : List String := [
  "export const " ++ recordSchemaName collection ++ " = z.object(\x7b\n" ++
    "\n".intercalate lines ++ "\n\x7d);",
  "export const " ++ responseSchemaName collection ++ " = " ++ recordSchemaName collection ++
    ".merge(" ++ s.systemSchema kind ++ ");",
  "export type " ++ recordTypeName collection ++ " = z.infer<typeof " ++
    recordSchemaName collection ++ ">;",
  "export type " ++ responseTypeName collection ++ " = z.infer<typeof " ++
    responseSchemaName collection ++ ">;"]

theorem renderAll_declarations (s : Settings) (collection : String) (kind : CollectionKind)
    (fields : List Field) :
    renderAll (declarations s collection kind fields) =
      String.join ((fields.filterMap (constantText? collection)).map (· ++ "\n\n")) ++
        "\n\n".intercalate
          (schemaTexts s collection kind (recordLines s collection fields)) := by
  have hparts : (declarations s collection kind fields).map Declaration.render =
      fields.filterMap (constantText? collection) ++
        schemaTexts s collection kind (recordLines s collection fields) := by
    rw [← render_optionDeclarations, declarations, List.map_append]
    rfl
  rw [renderAll, hparts, schemaTexts, intercalate_append_cons]

/-- When the fields of a collection change places, its schemas and types stay byte by byte: the
record schema holds the line of each field once, in the order of their bytes. The constants before
them are the same ones, in the order of the fields. -/
theorem block_of_field_order (s : Settings) (c : Collection) (hc : c.wellFormed = true) :
    ∃ lines : List String,
      lines.Perm ((c.fields.getD []).map (fieldLine s c.name)) ∧
      lines.Pairwise (fun a b => bytes a ≤ bytes b) ∧
      ∀ order : List Field, order.Perm (c.fields.getD []) →
        blockText? s { c with fields := some order } =
          some (String.join ((order.filterMap (constantText? c.name)).map (· ++ "\n\n")) ++
            "\n\n".intercalate (schemaTexts s c.name c.kind lines)) ∧
        (order.filterMap (constantText? c.name)).Perm
          ((c.fields.getD []).filterMap (constantText? c.name)) := by
  refine ⟨recordLines s c.name (c.fields.getD []), recordLines_perm s c.name _, ?_, ?_⟩
  · exact (recordLines_ascending s c.name _).imp fun h => (le_iff_bytes_le _ _).mp h
  · intro order horder
    obtain ⟨hname, -⟩ : c.name ≠ "" ∧ c.fields.isSome = true := by
      simpa [Collection.wellFormed] using hc
    have hwell : ({ c with fields := some order } : Collection).wellFormed = true := by
      simp [Collection.wellFormed, hname]
    refine ⟨?_, horder.filterMap _⟩
    rw [blockText?, block?, if_pos hwell, Option.map_some, Option.getD_some,
      renderAll_declarations, recordLines_eq_of_perm s c.name horder]

/-- A choice of one member in tasks. -/
def choiceField (name member : String) : Field :=
  { name, kind := .select, values := some [member] }

/-- Tasks with two choices, and with one name given twice. -/
def tasks : Collection :=
  { name := "tasks", fields := some [choiceField "state" "open", { name := "note", kind := .text },
      choiceField "level" "high", { name := "note", kind := .text }] }

theorem block_of_tasks_reversed :
    tasks.wellFormed = true ∧ (tasks.fields.getD []).reverse.Perm (tasks.fields.getD []) ∧
      ∃ schemas : String,
        blockText? {} { tasks with fields := some (tasks.fields.getD []) } =
          some (String.join (["export const TasksStateOptions = [\"open\"] as const;",
            "export const TasksLevelOptions = [\"high\"] as const;"].map (· ++ "\n\n")) ++
              schemas) ∧
        blockText? {} { tasks with fields := some (tasks.fields.getD []).reverse } =
          some (String.join (["export const TasksLevelOptions = [\"high\"] as const;",
            "export const TasksStateOptions = [\"open\"] as const;"].map (· ++ "\n\n")) ++
              schemas) := by
  have hc : tasks.wellFormed = true := by decide
  have hreverse : (tasks.fields.getD []).reverse.Perm (tasks.fields.getD []) :=
    List.reverse_perm _
  have hconstants : (tasks.fields.getD []).filterMap (constantText? tasks.name) =
      ["export const TasksStateOptions = [\"open\"] as const;",
        "export const TasksLevelOptions = [\"high\"] as const;"] := by
    decide +kernel
  obtain ⟨lines, -, -, horder⟩ := block_of_field_order {} tasks hc
  have hgiven := (horder _ (List.Perm.refl _)).1
  have hreversed := (horder _ hreverse).1
  rw [hconstants] at hgiven
  rw [List.filterMap_reverse, hconstants] at hreversed
  exact ⟨hc, hreverse, _, hgiven, hreversed⟩

end SchemaGen.Zod
