import SchemaGen.Proofs.Text.Bytes
import SchemaGen.Proofs.Text.Lines
import SchemaGen.Proofs.Zod.Order

/-! # The parts of a document

A document is a run of parts with an empty line between them, from which empty parts are left out.
So it can be cut at each part that is not empty (`assemble_cons`): what stands before the enumeration
and between it and the blocks depends on settings and origin alone (`document_cut`). The names of
the enumeration and the blocks come from two sorts of the input. They keep step, since both are in
the order in which the collections are left.
-/

namespace SchemaGen.Zod

set_option autoImplicit false

open SchemaGen.Schema SchemaGen.StableSort SchemaGen.Text

/-! ## Cutting a document -/

/-- A part with an empty line behind it, nothing for an empty part. -/
def above (part : String) : String := if part = "" then "" else part ++ "\n\n"

/-- A part with an empty line before it, nothing for an empty part. -/
def below (part : String) : String := if part = "" then "" else "\n\n" ++ part

theorem intercalate_cons_join (part : String) {rest : List String} (h : ∀ q ∈ rest, q ≠ "") :
    "\n\n".intercalate (part :: rest) = part ++ String.join (rest.map below) := by
  have hbelow : rest.map below = rest.map ("\n\n" ++ ·) :=
    List.map_congr_left fun q hq => if_neg (h q hq)
  rw [intercalate_cons_eq_join, hbelow]

theorem join_filter_ne_empty {f : String → String} (hf : f "" = "") (parts : List String) :
    String.join ((parts.filter (· != "")).map f) = String.join (parts.map f) := by
  induction parts with
  | nil => rfl
  | cons part rest ih =>
    by_cases h : part = ""
    · rw [List.filter_cons_of_neg (by simp [h]), ih, List.map_cons, String.join_cons, h, hf,
        String.empty_append]
    · rw [List.filter_cons_of_pos (by simp [h]), List.map_cons, String.join_cons, ih,
        List.map_cons, String.join_cons]

/-- A document is cut at a part that is not empty. -/
theorem assemble_cons {part : String} (h : part ≠ "") (before after : List String) :
    assemble (before ++ part :: after) =
      String.join (before.map above) ++ part ++ String.join (after.map below) ++ "\n" := by
  have hkept : ∀ parts : List String, ∀ q ∈ parts.filter (· != ""), q ≠ "" := by
    intro parts q hq
    simpa using (List.mem_filter.mp hq).2
  have habove : (before.filter (· != "")).map (· ++ "\n\n") =
      (before.filter (· != "")).map above :=
    List.map_congr_left fun q hq => (if_neg (hkept before q hq)).symm
  rw [assemble, List.filter_append, List.filter_cons_of_pos (by simpa using h),
    intercalate_append_cons, intercalate_cons_join part (hkept after), habove,
    join_filter_ne_empty rfl, join_filter_ne_empty rfl]
  simp only [String.append_assoc]

/-! ## Parts that are not empty -/

theorem append_ne_empty (a : String) {b : String} (h : b ≠ "") : a ++ b ≠ "" :=
  fun hab => h (String.append_eq_empty_iff.mp hab).2

theorem enumeration_ne_empty (enumName : String) (names : List String) :
    enumeration enumName names ≠ "" := append_ne_empty _ (by decide)

theorem intercalate_ne_empty {sep part : String} {parts : List String} (hmem : part ∈ parts)
    (hne : part ≠ "") : sep.intercalate parts ≠ "" := by
  induction parts with
  | nil => cases hmem
  | cons q rest ih =>
    cases rest with
    | nil =>
      rw [String.intercalate_singleton]
      rcases List.mem_singleton.mp hmem with rfl
      exact hne
    | cons r rest =>
      rw [String.intercalate_cons_cons]
      rcases List.mem_cons.mp hmem with rfl | hmem
      · simp [hne]
      · simp [ih hmem]

theorem render_object_ne_empty (name : String) (lines : List String) :
    (Declaration.object name lines).render ≠ "" := append_ne_empty _ (by decide)

/-- A block always declares a record schema. -/
theorem renderAll_declarations_ne_empty (s : Settings) (collection : String)
    (kind : CollectionKind) (fields : List Field) :
    renderAll (declarations s collection kind fields) ≠ "" := by
  simp only [declarations, renderAll, List.map_append, List.map_cons]
  exact intercalate_ne_empty (List.mem_append_right _ (List.mem_cons_self ..))
    (render_object_ne_empty _ _)

/-! ## Enumeration and blocks -/

/-- The text of the block of a collection, if it has one. -/
def blockText? (s : Settings) (c : Collection) : Option String := (block? s c).map renderAll

theorem blockText?_ne_empty {s : Settings} {c : Collection} {text : String}
    (h : blockText? s c = some text) : text ≠ "" := by
  obtain ⟨ds, hds, rfl⟩ := Option.map_eq_some_iff.mp h
  rw [block?] at hds
  split at hds
  · cases hds
    exact renderAll_declarations_ne_empty s c.name c.kind _
  · cases hds

/-- The texts of the blocks, in the order of the collections. -/
def blockTexts (s : Settings) (collections : List Collection) : List String :=
  collections.filterMap (blockText? s)

theorem map_renderAll_blocks (s : Settings) (collections : List Collection) :
    (blocks s collections).map renderAll = blockTexts s collections := by
  rw [blocks, blockTexts, List.map_filterMap]
  rfl

/-- Each well-formed collection has a block, and no other has. -/
theorem map_blockText?_wellFormed (s : Settings) (collections : List Collection) :
    (collections.filter Collection.wellFormed).map (blockText? s) =
      (blockTexts s collections).map some := by
  unfold blockTexts
  induction collections with
  | nil => rfl
  | cons c rest ih =>
    by_cases h : c.wellFormed = true
    · have hblock : blockText? s c =
          some (renderAll (declarations s c.name c.kind (c.fields.getD []))) := by
        rw [blockText?, block?, if_pos h, Option.map_some]
      rw [List.filter_cons_of_pos h, List.map_cons, ih, List.filterMap_cons_some hblock,
        List.map_cons, hblock]
    · have hblock : blockText? s c = none := by rw [blockText?, block?, if_neg h, Option.map_none]
      rw [List.filter_cons_of_neg h, ih, List.filterMap_cons_none hblock]

/-- What stands around the enumeration depends on settings and origin alone. -/
theorem document_cut (s : Settings) (p : Option Provenance) :
    ∃ opening closing : String, ∀ collections : List Collection,
      (generate s collections p).document =
        opening ++ enumeration s.enumName (sortedNames collections) ++ closing ++
          String.join ((blockTexts s (sortByName collections)).map ("\n\n" ++ ·)) ++ "\n" := by
  let before := provenanceParts p ++ [s.header, s.imports]
  let after := [s.aliasComment, s.aliasDefinitions, s.baseSystemFields, s.authSystemFields,
    s.schemasComment]
  refine ⟨String.join (before.map above), String.join (after.map below), fun collections => ?_⟩
  have hparts : (generate s collections p).document = assemble (before ++
      enumeration s.enumName (sortedNames collections) ::
        (after ++ blockTexts s (sortByName collections))) := by
    rw [← map_renderAll_blocks]
    simp only [before, after, generate, preamble, List.append_assoc, List.cons_append,
      List.nil_append]
  have hbelow : (after ++ blockTexts s (sortByName collections)).map below =
      after.map below ++ (blockTexts s (sortByName collections)).map ("\n\n" ++ ·) := by
    rw [List.map_append]
    congr 1
    apply List.map_congr_left
    intro text htext
    obtain ⟨c, -, hc⟩ := List.mem_filterMap.mp htext
    exact if_neg (blockText?_ne_empty hc)
  rw [hparts, assemble_cons (enumeration_ne_empty _ _), hbelow, String.join_append]
  simp only [String.append_assoc]

/-! ## One order -/

theorem filter_wellFormed (collections : List Collection) :
    collections.filter (fun c => c.name ≠ "" ∧ c.fields.isSome) =
      collections.filter Collection.wellFormed := by
  apply List.filter_congr
  intro c _
  rw [Bool.eq_iff_iff]
  simp [Collection.wellFormed]

/-- Sorted names are the names of sorted collections. -/
theorem sortedNames_eq_filter (collections : List Collection) :
    sortedNames collections = ((sortByName collections).map (·.name)).filter (· ≠ "") := by
  rw [sortedNames_eq, ← named_sortByName, named, List.filter_map]
  congr 1
  apply List.filter_congr
  intro c _
  rw [Bool.eq_iff_iff]
  simp

theorem names_wellFormed_sublist (collections : List Collection) :
    ((collections.filter Collection.wellFormed).map (·.name)).Sublist
      ((collections.map (·.name)).filter (· ≠ "")) := by
  rw [List.filter_map]
  refine (List.monotone_filter_right _ ?_).map _
  intro c hc
  have hwell : c.name ≠ "" ∧ c.fields.isSome = true := by simpa [Collection.wellFormed] using hc
  simpa using hwell.1

/-- The enumeration and the blocks are in one order, that in which generation leaves the
collections: by the bytes of their names, and as they came under one name. The enumeration has a
line for each name that is not empty, and of these collections each with a field list has its block.
The rest of the document does not depend on the collections. -/
theorem enumeration_in_step_with_blocks (s : Settings) (p : Option Provenance) :
    ∃ opening closing : String, ∀ collections : List Collection,
      ∃ (order : List Collection) (texts : List String),
        (generate s collections p).order = order ∧
        order.Perm collections ∧
        order.Pairwise (fun c d => bytes c.name ≤ bytes d.name) ∧
        (∀ n, order.filter (·.name = n) = collections.filter (·.name = n)) ∧
        (order.filter fun c => c.name ≠ "" ∧ c.fields.isSome).map (blockText? s) =
          texts.map some ∧
        (generate s collections p).rendered = texts.length ∧
        (generate s collections p).document =
          opening ++
          ("export enum " ++ s.enumName ++ " \x7b\n" ++
            "\n".intercalate (((order.map (·.name)).filter (· ≠ "")).map enumLine) ++
              "\n\x7d") ++
          closing ++ String.join (texts.map ("\n\n" ++ ·)) ++ "\n" ∧
        ((order.filter fun c => c.name ≠ "" ∧ c.fields.isSome).map (·.name)).Sublist
          ((order.map (·.name)).filter (· ≠ "")) := by
  obtain ⟨opening, closing, hcut⟩ := document_cut s p
  refine ⟨opening, closing, fun collections => ?_⟩
  have hascending : Ascending Collection.name (sortByName collections) :=
    sort_ascending collections
  refine ⟨sortByName collections, blockTexts s (sortByName collections), rfl,
    sort_perm Collection.name collections, ?_, fun n => under_sort Collection.name n collections,
    ?_, ?_, ?_, ?_⟩
  · exact hascending.imp fun h => (le_iff_bytes_le _ _).mp h
  · rw [filter_wellFormed, map_blockText?_wellFormed]
  · rw [← map_renderAll_blocks, List.length_map]
    rfl
  · rw [hcut, sortedNames_eq_filter]
    rfl
  · rw [filter_wellFormed]
    exact names_wellFormed_sublist _

end SchemaGen.Zod
