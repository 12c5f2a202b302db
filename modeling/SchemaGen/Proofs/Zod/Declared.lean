import SchemaGen.Proofs.Zod.Reading

/-! # Names that a document declares

A document is put together from parts, so that its exports are those of its parts. As long as no
name and no source brings in a line feed, what is read off the document are the names that went into
it (`declaredValues_eq`, `declaredTypes_eq`, `declaredMembers_eq`). No two of them are equal exactly
if no two collections share an identifier and no two constants share the identifiers of collection
and field, joined.
-/

namespace SchemaGen.Zod

set_option autoImplicit false

open SchemaGen.Schema SchemaGen.Text

/-! ## Parts of a document -/

theorem collect_assemble {β : Type} {find : List Char → Option β} (h : find [] = none)
    (parts : List String) : collect find (assemble parts) = parts.flatMap (collect find) := by
  have hfilter : (parts.filter (· != "")).flatMap (collect find) =
      parts.flatMap (collect find) := by
    induction parts with
    | nil => rfl
    | cons part rest ih =>
      by_cases hpart : part = ""
      · rw [List.filter_cons_of_neg (by simp [hpart]), ih, List.flatMap_cons, hpart,
          collect_empty h, List.nil_append]
      · rw [List.filter_cons_of_pos (by simp [hpart]), List.flatMap_cons, ih, List.flatMap_cons]
  have hend : assemble parts =
      "\n\n".intercalate (parts.filter (· != "")) ++ "\n" ++ "" := by rw [String.append_empty]; rfl
  rw [hend, collect_append, collect_empty h, List.append_nil, collect_paragraphs h, hfilter]

/-! ## Exports of a document -/

/-- No name and no source brings in a line feed. -/
structure SingleLines (collections : List Collection) (p : Option Provenance) : Prop where
  name : ∀ c ∈ collections, OneLine c.name
  field : ∀ c ∈ collections, ∀ f ∈ c.fields.getD [], OneLine f.name
  source : ∀ q ∈ p, OneLine q.source

theorem SingleLines.sortedNames_oneLine {collections : List Collection} {p : Option Provenance}
    (h : SingleLines collections p) : ∀ n ∈ sortedNames collections, OneLine n := by
  intro n hn
  obtain ⟨hn, _⟩ := List.mem_filter.mp (List.mem_mergeSort.mp hn)
  obtain ⟨c, hc, rfl⟩ := List.mem_map.mp hn
  exact h.name c hc

theorem collect_provenanceParts (t : Bool) {p : Option Provenance}
    (h : ∀ q ∈ p, OneLine q.source) :
    (provenanceParts p).flatMap (collect (exported t)) = [] := by
  rw [List.flatMap_eq_nil_iff]
  intro part hpart
  cases p with
  | none => cases hpart
  | some q =>
    have hsource : OneLine q.sourceComment := OneLine.append (by simp [OneLine]) (h q rfl)
    have htime : OneLine q.timeComment :=
      OneLine.append (by simp [OneLine]) (Time.stamp_oneLine q.time)
    simp only [provenanceParts, List.mem_cons, List.not_mem_nil, or_false] at hpart
    rcases hpart with rfl | rfl
    · exact hsource.collect_of_none (exported_of_apart (by decide) (by decide) t _)
    · exact htime.collect_of_none (exported_of_apart (by decide) (by decide) t _)

theorem collections_unbroken : Unbroken "Collections" := ⟨by simp [OneLine], by decide⟩

theorem collect_opening (t : Bool) :
    [({} : Settings).header, ({} : Settings).imports].flatMap (collect (exported t)) = [] := by
  cases t <;> decide +kernel

theorem collect_preamble (t : Bool) {names : List String} (h : ∀ n ∈ names, OneLine n) :
    (preamble {} names).flatMap (collect (exported t)) =
      if t then ["Collections"] else sharedValues {} := by
  have hopening := collect_opening t
  rw [List.flatMap_cons, List.flatMap_singleton, List.append_eq_nil_iff] at hopening
  have halias : collect (exported t) ({} : Settings).aliasComment = [] := by
    cases t <;> decide +kernel
  have hschemas : collect (exported t) ({} : Settings).schemasComment = [] := by
    cases t <;> decide +kernel
  have hrecord : Unbroken "RecordIdString" := ⟨by simp [OneLine], by decide⟩
  have hdate : Unbroken "IsoDateString" := ⟨by simp [OneLine], by decide⟩
  have hhtml : Unbroken "HTMLString" := ⟨by simp [OneLine], by decide⟩
  have hbase : Unbroken "BaseSystemFieldsSchema" := ⟨by simp [OneLine], by decide⟩
  have hauth : Unbroken "AuthSystemFieldsSchema" := ⟨by simp [OneLine], by decide⟩
  simp only [preamble, List.flatMap_cons, List.flatMap_nil]
  rw [hopening.1, hopening.2, collect_enumeration t collections_unbroken h, halias,
    collect_aliasDefinitions t hrecord hdate hhtml,
    collect_baseSystemFields t hbase hrecord.oneLine hdate.oneLine,
    collect_authSystemFields t hauth hbase.oneLine, hschemas]
  cases t <;> rfl

theorem collect_blocks (t : Bool) {collections : List Collection}
    (h : ∀ c ∈ collections, ∀ f ∈ c.fields.getD [], OneLine f.name) :
    ((blocks {} (sortByName collections)).map renderAll).flatMap (collect (exported t)) =
      ((blockDeclarations {} collections).filter (·.isType == t)).map (·.name) := by
  have hplain : ∀ ds ∈ blocks {} (sortByName collections), ∀ d ∈ ds, d.Plain := by
    intro ds hds
    obtain ⟨c, hc, hblock⟩ := List.mem_filterMap.mp hds
    rw [block?] at hblock
    split at hblock
    · cases hblock
      exact declarations_plain c.name c.kind (h c (List.mem_mergeSort.mp hc))
    · cases hblock
  unfold blockDeclarations
  generalize blocks {} (sortByName collections) = bs at hplain
  induction bs with
  | nil => rfl
  | cons ds bs ih =>
    rw [List.map_cons, List.flatMap_cons, List.flatten_cons, List.filter_append, List.map_append,
      collect_renderAll t (hplain ds (List.mem_cons_self ..)),
      ih fun es hes => hplain es (List.mem_cons_of_mem ds hes)]

theorem collect_document (t : Bool) {collections : List Collection} {p : Option Provenance}
    (h : SingleLines collections p) :
    collect (exported t) (generate {} collections p).document =
      (if t then ["Collections"] else sharedValues {}) ++
        ((blockDeclarations {} collections).filter (·.isType == t)).map (·.name) := by
  have hdocument : (generate {} collections p).document = assemble (provenanceParts p ++
      preamble {} (sortedNames collections) ++
      (blocks {} (sortByName collections)).map renderAll) := rfl
  rw [hdocument, collect_assemble (exported_nil t), List.flatMap_append, List.flatMap_append,
    collect_provenanceParts t h.source, collect_preamble t h.sortedNames_oneLine,
    collect_blocks t h.field, List.nil_append]

theorem declaredValues_eq {collections : List Collection} {p : Option Provenance}
    (h : SingleLines collections p) :
    declaredValues (generate {} collections p).document = exportedValues {} collections := by
  rw [declaredValues, collect_document false h]
  simp [exportedValues]

theorem declaredTypes_eq {collections : List Collection} {p : Option Provenance}
    (h : SingleLines collections p) :
    declaredTypes (generate {} collections p).document = exportedTypes {} collections := by
  rw [declaredTypes, collect_document true h]
  simp [exportedTypes]

/-! ## Members of the enumeration -/

/-- A part that is not empty stands in the document as it is. -/
theorem lines_assemble {e : String} (he : e ≠ "") (before after : List String) :
    ∃ above below, lines (assemble (before ++ e :: after)) = above ++ lines e ++ below ∧
      ∀ line ∈ above, line = [] ∨ ∃ part ∈ before, line ∈ lines part := by
  have hend : assemble (before ++ e :: after) =
      "\n\n".intercalate ((before ++ e :: after).filter (· != "")) ++ "\n" ++ "" := by
    rw [String.append_empty]
    rfl
  rw [hend, lines_append, List.filter_append, List.filter_cons_of_pos (by simp [he])]
  have hmem : ∀ part ∈ before.filter (· != ""), part ∈ before :=
    fun part h => (List.mem_filter.mp h).1
  generalize before.filter (· != "") = parts at hmem
  generalize after.filter (· != "") = rest
  induction parts with
  | nil =>
    cases rest with
    | nil => exact ⟨[], lines "", by simp [String.intercalate_singleton], by simp⟩
    | cons next rest =>
      refine ⟨[], lines "" ++ lines ("\n\n".intercalate (next :: rest)) ++ lines "", ?_, by simp⟩
      rw [List.nil_append, String.intercalate_cons_cons, append_paragraph, lines_append,
        lines_append, List.nil_append, List.append_assoc, List.append_assoc]
  | cons part parts ih =>
    obtain ⟨above, below, heq, habove⟩ := ih fun q hq => hmem q (List.mem_cons_of_mem part hq)
    refine ⟨lines part ++ lines "" ++ above, below, ?_, ?_⟩
    · rw [List.cons_append, String.intercalate_cons_of_ne_nil (by simp), append_paragraph,
        lines_append, lines_append]
      simp only [List.append_assoc] at heq ⊢
      rw [heq]
    · intro line hline
      rcases List.mem_append.mp hline with hline | hline
      · rcases List.mem_append.mp hline with hline | hline
        · exact .inr ⟨part, hmem part (List.mem_cons_self ..), hline⟩
        · exact .inl (by simpa [lines, pieces] using hline)
      · exact habove line hline

theorem lines_enumeration {enumName : String} (h : Unbroken enumName) (names : List String) :
    lines (enumeration enumName names) =
      ("export enum " ++ enumName ++ " " ++ "\x7b").toList ::
        (lines ("\n".intercalate (names.map enumLine)) ++ [['\x7d']]) := by
  have hclose : OneLine "\x7d" := by simp [OneLine]
  rw [enumeration_eq, lines_append, lines_append, (enumHead_oneLine h).lines_eq, hclose.lines_eq]
  rfl

theorem collect_enumLines (find : List Char → Option String) {names : List String}
    (hnil : find [] = none) (h : ∀ n ∈ names, OneLine n) :
    collect find ("\n".intercalate (names.map enumLine)) =
      names.filterMap fun n => find (enumLine n).toList := by
  rw [collect_intercalate hnil, List.flatMap_map, List.filterMap_eq_flatMap_toList]
  exact List.flatMap_congr fun n hn => (enumLine_oneLine (h n hn)).collect_eq

/-- The body of the enumeration lies between the lines that open and close it. -/
theorem enumBody_eq {document : String} {above below : List (List Char)} {names : List String}
    (hlines : lines document = above ++ lines (enumeration "Collections" names) ++ below)
    (habove : ∀ line ∈ above, nameAfter "export enum " line = none)
    (h : ∀ n ∈ names, OneLine n) :
    enumBody document = lines ("\n".intercalate (names.map enumLine)) := by
  have hbody : ∀ line ∈ lines ("\n".intercalate (names.map enumLine)),
      (nameAfter "\x7d" line).isNone = true := by
    have hcollect : collect (nameAfter "\x7d") ("\n".intercalate (names.map enumLine)) = [] := by
      rw [collect_enumLines _ (by decide) h, List.filterMap_eq_nil_iff]
      intro n _
      rw [enumLine_eq, String.append_assoc, String.append_assoc]
      exact nameAfter_of_apart (by decide) _
    intro line hline
    rw [List.filterMap_eq_nil_iff.mp hcollect line hline]
    rfl
  have hopen : (nameAfter "export enum "
      ("export enum " ++ "Collections" ++ " " ++ "\x7b").toList).isNone = false := by
    rw [nameAfter_append _ _ (by decide)]
    rfl
  have hclose : (nameAfter "\x7d" ['\x7d']).isNone = false := by decide
  rw [enumBody, hlines, lines_enumeration collections_unbroken, List.append_assoc,
    List.dropWhile_append_of_pos fun line hline => by rw [habove line hline]; rfl,
    List.cons_append, List.dropWhile_cons_of_neg (by rw [hopen]; simp), List.tail_cons,
    List.append_assoc, List.takeWhile_append_of_pos hbody, List.singleton_append,
    List.takeWhile_cons_of_neg (by rw [hclose]; simp), List.append_nil]

theorem declaredMembers_eq {collections : List Collection} {p : Option Provenance}
    (h : SingleLines collections p) :
    declaredMembers (generate {} collections p).document = enumMembers collections := by
  have hnames := h.sortedNames_oneLine
  let before := provenanceParts p ++ [({} : Settings).header, ({} : Settings).imports]
  let after := [({} : Settings).aliasComment, ({} : Settings).aliasDefinitions,
    ({} : Settings).baseSystemFields, ({} : Settings).authSystemFields,
    ({} : Settings).schemasComment] ++ (blocks {} (sortByName collections)).map renderAll
  have hdocument : (generate {} collections p).document =
      assemble (before ++ enumeration "Collections" (sortedNames collections) :: after) := by
    simp only [before, after, generate, preamble, List.append_assoc, List.cons_append,
      List.nil_append]
  have hne : enumeration "Collections" (sortedNames collections) ≠ "" := by
    intro hempty
    have hread := collect_enumeration false collections_unbroken hnames
    rw [hempty, collect_empty (exported_nil false)] at hread
    cases hread
  obtain ⟨above, below, hlines, habove⟩ := lines_assemble hne before after
  -- No line above opens an enumeration, so the body is cut where it starts.
  have hopen : ∀ line ∈ above, nameAfter "export enum " line = none := by
    intro line hline
    rcases habove line hline with rfl | ⟨part, hpart, hline⟩
    · decide
    · have hbefore : before.flatMap (collect (exported false)) = [] := by
        rw [List.flatMap_append, collect_provenanceParts false h.source, collect_opening]
        rfl
      have hnone := List.filterMap_eq_nil_iff.mp (List.flatMap_eq_nil_iff.mp hbefore part hpart)
      exact (Option.or_eq_none_iff.mp (hnone line hline)).1
  rw [declaredMembers, enumBody_eq (hdocument ▸ hlines) hopen hnames]
  have hcollect := collect_enumLines (nameAfter "\t") (by decide) hnames
  rw [collect] at hcollect
  rw [hcollect, enumMembers, ← List.filterMap_eq_map]
  apply List.filterMap_congr
  intro n _
  rw [enumLine_eq, nameAfter_append _ _ (Naming.identifier_unbroken n).noBlank]
  rfl

/-! ## Declared once -/

/-- Values, types and members of a module are declared once each exactly if no two collections share
an identifier and no two constants share the identifiers of collection and field, joined. They are
what the text declares, as long as no name and no source brings in a line feed. -/
theorem declared_once_iff (collections : List Collection) (p : Option Provenance) :
    ((exportedValues {} collections).Nodup ∧ (exportedTypes {} collections).Nodup ∧
        (enumMembers collections).Nodup ↔
      ((named collections).map (Naming.identifier ·.name)).Nodup ∧
        (optionStems collections).Nodup) ∧
    (SingleLines collections p →
      declaredValues (generate {} collections p).document = exportedValues {} collections ∧
        declaredTypes (generate {} collections p).document = exportedTypes {} collections ∧
        declaredMembers (generate {} collections p).document = enumMembers collections) := by
  refine ⟨exports_nodup_iff collections, fun h => ?_⟩
  exact ⟨declaredValues_eq h, declaredTypes_eq h, declaredMembers_eq h⟩

/-- A blog with its authors. -/
def blogCollections : List Collection := [
  { name := "posts", fields := some [
      { name := "title", kind := .text },
      { name := "status", kind := .select, values := some ["draft", "live"] }] },
  { name := "blog_authors", kind := .auth, fields := some [
      { name := "status", kind := .select, values := some ["away", "here"] }] }]

theorem blogCollections_singleLines : SingleLines blogCollections none where
  name := by simp [blogCollections, OneLine]
  field := by simp [blogCollections, OneLine]
  source := by simp

theorem declared_once_blog :
    SingleLines blogCollections none ∧
      (declaredValues (generate {} blogCollections none).document).Nodup ∧
      (declaredTypes (generate {} blogCollections none).document).Nodup ∧
      (declaredMembers (generate {} blogCollections none).document).Nodup := by
  obtain ⟨hiff, hread⟩ := declared_once_iff blogCollections none
  obtain ⟨hvalues, htypes, hmembers⟩ := hread blogCollections_singleLines
  rw [hvalues, htypes, hmembers]
  exact ⟨blogCollections_singleLines, hiff.mpr ⟨by decide +kernel, by decide +kernel⟩⟩

/-- Well-formed collections with different names, the fields of each with different names. -/
structure NamedApart (collections : List Collection) : Prop where
  wellFormed : ∀ c ∈ collections, c.wellFormed = true
  names : (collections.map (·.name)).Nodup
  fields : ∀ c ∈ collections, ((c.fields.getD []).map (·.name)).Nodup

/-- Two names of one identifier. -/
def alikeNames : List Collection :=
  [{ name := "user_profiles", fields := some [] }, { name := "userProfiles", fields := some [] }]

/-- Two constants of one name, under two identifiers. -/
def alikeConstants : List Collection := [
  { name := "user", fields := some [
      { name := "profile_kind", kind := .select, values := some ["a"] }] },
  { name := "user_profile", fields := some [
      { name := "kind", kind := .select, values := some ["b"] }] }]

/-- Different names are not enough. -/
theorem not_declared_once :
    (NamedApart alikeNames ∧
      ¬ (declaredValues (generate {} alikeNames none).document).Nodup ∧
      ¬ (declaredTypes (generate {} alikeNames none).document).Nodup ∧
      ¬ (declaredMembers (generate {} alikeNames none).document).Nodup) ∧
    (NamedApart alikeConstants ∧
      ¬ (declaredValues (generate {} alikeConstants none).document).Nodup) := by
  have hnames : SingleLines alikeNames none :=
    ⟨by simp [alikeNames, OneLine], by simp [alikeNames], by simp⟩
  have hconstants : SingleLines alikeConstants none :=
    ⟨by simp [alikeConstants, OneLine], by simp [alikeConstants, OneLine], by simp⟩
  rw [declaredValues_eq hnames, declaredTypes_eq hnames, declaredMembers_eq hnames,
    declaredValues_eq hconstants, exportedValues_nodup_iff, exportedTypes_nodup_iff,
    enumMembers_nodup_iff, exportedValues_nodup_iff]
  refine ⟨⟨⟨by decide, by decide, by decide⟩, ?_, by decide +kernel, by decide +kernel⟩,
    ⟨by decide, by decide, by decide⟩, ?_⟩
  · exact fun h => absurd h.1 (by decide +kernel)
  · exact fun h => absurd h.2 (by decide +kernel)

end SchemaGen.Zod
