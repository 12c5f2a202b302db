import SchemaGen.Proofs.Zod.Assembly

/-! # One collection more

In a document with at least one name, each line of the enumeration begins with the line feed before
it and each block with the empty line before it. So lines and blocks are joins over the sorted
collections, with the rest of the document around them (`document_in_pieces`). A collection that
joins the others is sorted in at one place, so its line and its block come in at one place each and
all else stays (`generate_concat`).
-/

namespace SchemaGen.Zod

set_option autoImplicit false

open SchemaGen.Schema SchemaGen.StableSort SchemaGen.Text

/-! ## Pieces of a document -/

/-- The line of a collection with the line feed before it. -/
def linePiece (c : Collection) : String := "\n" ++ enumLine c.name

/-- The block of a collection with the empty line before it, nothing if it has none. -/
def blockPiece (s : Settings) (c : Collection) : String :=
  match blockText? s c with
  | some text => "\n\n" ++ text
  | none => ""

theorem enumeration_of_names (enumName : String) {collections : List Collection}
    (h : collections ≠ []) :
    enumeration enumName (collections.map (·.name)) =
      "export enum " ++ enumName ++ " \x7b" ++ String.join (collections.map linePiece) ++
        "\n\x7d" := by
  have hpieces : collections.map linePiece =
      ((collections.map (·.name)).map enumLine).map ("\n" ++ ·) := by
    rw [List.map_map, List.map_map]
    rfl
  have hbrace : " \x7b\n" = " \x7b" ++ "\n" := by decide
  have hlines : (collections.map (·.name)).map enumLine ≠ [] := by simpa using h
  rw [hpieces, join_map_append "\n" hlines, enumeration, hbrace]
  simp only [String.append_assoc]

theorem join_blockTexts (s : Settings) (collections : List Collection) :
    String.join ((blockTexts s collections).map ("\n\n" ++ ·)) =
      String.join (collections.map (blockPiece s)) := by
  induction collections with
  | nil => rfl
  | cons c rest ih =>
    cases h : blockText? s c with
    | none =>
      have hpiece : blockPiece s c = "" := by rw [blockPiece, h]
      rw [blockTexts, List.filterMap_cons_none h, ← blockTexts, ih, List.map_cons,
        String.join_cons, hpiece, String.empty_append]
    | some text =>
      have hpiece : blockPiece s c = "\n\n" ++ text := by rw [blockPiece, h]
      rw [blockTexts, List.filterMap_cons_some h, ← blockTexts, List.map_cons, String.join_cons,
        ih, List.map_cons, String.join_cons, hpiece]

theorem blockTexts_named (s : Settings) (collections : List Collection) :
    blockTexts s (named collections) = blockTexts s collections := by
  rw [← map_renderAll_blocks, ← map_renderAll_blocks, blocks_named]

/-- A document with at least one name: what depends on settings and origin alone, and between it
the pieces of the sorted collections. -/
theorem document_in_pieces (s : Settings) (p : Option Provenance) :
    ∃ opening closing : String, ∀ collections : List Collection, named collections ≠ [] →
      (generate s collections p).document =
        opening ++ String.join ((sortByName (named collections)).map linePiece) ++ closing ++
          String.join ((sortByName (named collections)).map (blockPiece s)) ++ "\n" := by
  obtain ⟨opening, closing, hcut⟩ := document_cut s p
  refine ⟨opening ++ ("export enum " ++ s.enumName ++ " \x7b"), "\n\x7d" ++ closing, ?_⟩
  intro collections hnamed
  have hsorted : sortByName (named collections) ≠ [] := by
    intro hnil
    exact hnamed (List.Perm.nil_eq (hnil ▸ sort_perm Collection.name (named collections))).symm
  have hblocks : blockTexts s (sortByName collections) =
      blockTexts s (sortByName (named collections)) := by
    rw [← blockTexts_named, named_sortByName]
  rw [hcut, sortedNames_eq, enumeration_of_names _ hsorted, hblocks, join_blockTexts]
  simp only [String.append_assoc]

/-! ## A collection that joins the others -/

theorem isSome_blockText? (s : Settings) {c : Collection} (h : c.name ≠ "") :
    (blockText? s c).isSome = c.fields.isSome := by
  have hwell : c.wellFormed = c.fields.isSome := by simp [Collection.wellFormed, h]
  rw [blockText?, Option.isSome_map, block?, hwell]
  cases c.fields <;> rfl

/-- With one collection more a document, of at least one name, has one line more and, if the
collection has a field list, one block more. All its other text stays, in its order. This holds
whether or not others have the name too. -/
theorem generate_concat (s : Settings) (p : Option Provenance) (collections : List Collection)
    (c : Collection) (hnamed : ∃ d ∈ collections, d.name ≠ "") (hc : c.name ≠ "") :
    (∃ opening middle closing : String,
      (generate s collections p).document = opening ++ middle ++ closing ∧
        (generate s (collections ++ [c]) p).document =
          opening ++ ("\n" ++ enumLine c.name) ++ middle ++
            (match blockText? s c with
              | some text => "\n\n" ++ text
              | none => "") ++ closing) ∧
      (blockText? s c).isSome = c.fields.isSome := by
  refine ⟨?_, isSome_blockText? s hc⟩
  obtain ⟨opening, closing, hpieces⟩ := document_in_pieces s p
  obtain ⟨before, after, hsplit, hinsert⟩ := sort_concat Collection.name (named collections) c
  have hne : named collections ≠ [] := by
    obtain ⟨d, hd, hname⟩ := hnamed
    exact List.ne_nil_of_mem (List.mem_filter.mpr ⟨hd, by simpa using hname⟩)
  have hmore : named (collections ++ [c]) = named collections ++ [c] := by
    rw [named, List.filter_append, ← named, List.filter_cons_of_pos (by simpa using hc),
      List.filter_nil]
  have hold := hpieces collections hne
  have hnew := hpieces (collections ++ [c]) (by rw [hmore]; simp)
  rw [sortByName_eq, hsplit, List.map_append, List.map_append, String.join_append,
    String.join_append] at hold
  rw [hmore, sortByName_eq, hinsert, List.map_append, List.map_append, List.map_cons,
    List.map_cons, String.join_append, String.join_append, String.join_cons,
    String.join_cons] at hnew
  refine ⟨opening ++ String.join (before.map linePiece),
    String.join (after.map linePiece) ++ closing ++ String.join (before.map (blockPiece s)),
    String.join (after.map (blockPiece s)) ++ "\n", ?_, ?_⟩
  · rw [hold]
    simp only [String.append_assoc]
  · rw [hnew]
    simp only [String.append_assoc]
    rfl

/-- Posts, and an entry without a name. -/
def postsOnly : List Collection := [{ name := "posts", fields := some [] }, {}]

/-- Authors, whose name comes before that of posts. -/
def authors : Collection := { name := "authors", kind := .auth, fields := some [] }

theorem generate_concat_authors :
    (∃ d ∈ postsOnly, d.name ≠ "") ∧ authors.name ≠ "" ∧
      ∃ opening middle closing text : String,
        blockText? {} authors = some text ∧
          (generate {} postsOnly none).document = opening ++ middle ++ closing ∧
          (generate {} (postsOnly ++ [authors]) none).document =
            opening ++ ("\n" ++ "\tAuthors = \"authors\",") ++ middle ++ ("\n\n" ++ text) ++
              closing := by
  have hnamed : ∃ d ∈ postsOnly, d.name ≠ "" := ⟨_, List.mem_cons_self, by decide⟩
  have hc : authors.name ≠ "" := by decide
  have hline : enumLine authors.name = "\tAuthors = \"authors\"," := by decide +kernel
  obtain ⟨⟨opening, middle, closing, hold, hnew⟩, hblock⟩ :=
    generate_concat {} none postsOnly authors hnamed hc
  obtain ⟨text, htext⟩ := Option.isSome_iff_exists.mp (hblock.trans rfl)
  rw [hline, htext] at hnew
  exact ⟨hnamed, hc, opening, middle, closing, text, htext, hold, hnew⟩

end SchemaGen.Zod
