import SchemaGen.Proofs.Naming.Shown
import SchemaGen.Proofs.Zod.Declared

/-! # Which generated names are safe in code

A member of the enumeration is the identifier of a name, and a declaration of a block is named by
the identifiers of its collection and, for a constant, of its field, with an ending that tells its
role (`Stem`). Such a name is safe in code exactly if what its identifiers show, followed by the
ending, starts with no digit, and no name behind it holds the letter that is kept for syntax
(`Stem.codeSafe_iff`). These are the names that are read off the document of the collections.
-/

namespace SchemaGen.Zod

set_option autoImplicit false
set_option maxRecDepth 20000

open SchemaGen.Schema SchemaGen.Text SchemaGen.Script SchemaGen.Naming

/-! ## Names in code -/

/-- Not empty, without a digit at its start, and of characters that a name of a script can hold. -/
structure CodeSafe (text : String) : Prop where
  nonempty : text ≠ ""
  start : ∀ c ∈ text.toList.head?, c.isDigit = false
  parts : ∀ c ∈ text.toList, isNamePart c = true

/-- What a generated name is made of: identifiers of names, and an ending. -/
structure Stem where
  names : List String
  ending : String
  ending_parts : ending.toList.all isNamePart = true

namespace Stem

def text (stem : Stem) : String :=
  (stem.names.map identifier).foldr (· ++ ·) stem.ending

/-- The characters of the names that the identifiers show, and the ending. -/
def shown (stem : Stem) : List Char :=
  stem.names.flatMap (fun n => Naming.shown n.toList) ++ stem.ending.toList

/-- The generated name shows a first character that is no digit, and no name behind it holds the
letter that is kept for syntax. -/
structure Sound (stem : Stem) : Prop where
  start : ∃ c ∈ stem.shown.head?, c.isDigit = false
  letters : ∀ n ∈ stem.names, verticalTilde ∉ n.toList

instance (stem : Stem) : Decidable stem.Sound :=
  decidable_of_iff (stem.shown.head?.any (!·.isDigit) = true ∧
      ∀ n ∈ stem.names, verticalTilde ∉ n.toList)
    ⟨fun h => ⟨by simpa [Option.any_eq_true] using h.1, h.2⟩,
      fun h => ⟨by simpa [Option.any_eq_true] using h.start, h.letters⟩⟩

theorem text_toList (stem : Stem) :
    stem.text.toList = stem.names.flatMap (fun n => identifierChars n.toList) ++
      stem.ending.toList := by
  unfold text
  induction stem.names with
  | nil => rfl
  | cons n names ih =>
    rw [List.map_cons, List.foldr_cons, String.toList_append, ih, List.flatMap_cons, identifier,
      String.toList_ofList, List.append_assoc]

theorem isDigit_head_text (stem : Stem) :
    stem.text.toList.head?.map Char.isDigit = stem.shown.head?.map Char.isDigit := by
  have hnames := head?_flatMap_congr fun n (_ : n ∈ stem.names) => isDigit_head_identifier n.toList
  rw [text_toList, shown, List.head?_append, List.head?_append, Option.map_or, Option.map_or,
    hnames]

theorem parts_iff (stem : Stem) :
    (∀ c ∈ stem.text.toList, isNamePart c = true) ↔ ∀ n ∈ stem.names, verticalTilde ∉ n.toList := by
  rw [text_toList, List.forall_mem_append, List.forall_mem_flatMap]
  simp only [identifier_nameParts_iff]
  exact and_iff_left (List.all_eq_true.mp stem.ending_parts)

theorem start_iff (stem : Stem) :
    (stem.text ≠ "" ∧ ∀ c ∈ stem.text.toList.head?, c.isDigit = false) ↔
      ∃ c ∈ stem.shown.head?, c.isDigit = false := by
  have hdigit := stem.isDigit_head_text
  have hempty : stem.text ≠ "" ↔ stem.text.toList ≠ [] := by simp
  rw [hempty]
  match htext : stem.text.toList, hshown : stem.shown with
  | [], [] => simp
  | [], d :: _ => simp [htext, hshown] at hdigit
  | c :: _, [] => simp [htext, hshown] at hdigit
  | c :: _, d :: _ =>
    have hsame : c.isDigit = d.isDigit := by simpa [htext, hshown] using hdigit
    simp [hsame]

theorem codeSafe_iff (stem : Stem) : CodeSafe stem.text ↔ stem.Sound := by
  constructor
  · rintro ⟨hne, hstart, hparts⟩
    exact ⟨stem.start_iff.mp ⟨hne, hstart⟩, stem.parts_iff.mp hparts⟩
  · rintro ⟨hstart, hletters⟩
    obtain ⟨hne, hstart⟩ := stem.start_iff.mpr hstart
    exact ⟨hne, hstart, stem.parts_iff.mpr hletters⟩

end Stem

/-! ## Names of a document -/

def memberStem (collection : String) : Stem := ⟨[collection], "", by simp⟩

def optionStem (collection field : String) : Stem :=
  ⟨[collection, field], "Options", by decide⟩

def recordTypeStem (collection : String) : Stem := ⟨[collection], "Record", by decide⟩

/-- The schemas and types of a collection. -/
def schemaStems (collection : String) : List Stem := [
  ⟨[collection], "RecordSchema", by decide⟩,
  ⟨[collection], "ResponseSchema", by decide⟩,
  recordTypeStem collection,
  ⟨[collection], "Response", by decide⟩]

def memberStems (collections : List Collection) : List Stem :=
  (sortedNames collections).map memberStem

/-- The declarations of all blocks, in the order of the document. -/
def blockStems (collections : List Collection) : List Stem :=
  (rendered (sortByName collections)).flatMap fun c =>
    (selectFields (c.fields.getD [])).map (fun f => optionStem c.name f.name) ++
      schemaStems c.name

theorem enumMembers_eq (collections : List Collection) :
    enumMembers collections = (memberStems collections).map Stem.text := by
  rw [enumMembers, memberStems, List.map_map]
  refine List.map_congr_left fun n _ => ?_
  exact (String.append_empty).symm

theorem blockDeclarations_name (s : Settings) (collections : List Collection) :
    (blockDeclarations s collections).map (·.name) = (blockStems collections).map Stem.text := by
  rw [blockDeclarations_eq, blockStems, List.map_flatMap, List.map_flatMap]
  refine List.flatMap_congr fun c _ => ?_
  rw [declarations_name, List.map_append, optionNames, List.map_map]
  have hoption : ∀ f : Field, optionsName c.name f.name = (optionStem c.name f.name).text :=
    fun f => String.append_assoc ..
  simp only [hoption]
  rfl

theorem declared_perm {collections : List Collection} {p : Option Provenance}
    (h : SingleLines collections p) :
    (declaredValues (generate {} collections p).document ++
        declaredTypes (generate {} collections p).document).Perm
      (sharedValues {} ++ ["Collections"] ++ (blockStems collections).map Stem.text) := by
  have hsplit := ((List.filter_append_perm (fun d : Declaration => !d.isType)
    (blockDeclarations {} collections)).map (·.name))
  simp only [Bool.not_not, List.map_append, blockDeclarations_name] at hsplit
  rw [declaredValues_eq h, declaredTypes_eq h, exportedValues, exportedTypes, List.append_assoc,
    List.append_assoc]
  refine List.Perm.append_left _ (List.perm_middle.trans ?_)
  exact hsplit.cons _

/-- A name that is made of identifiers and an ending is safe in code exactly if what the identifiers
show of their names, with the ending, starts with no digit, and no name holds the letter that is
kept for syntax. The members of the enumeration and the declarations of blocks are such names. As
long as no name and no source brings in a line feed, they are what the document declares beside the
shared values and the enumeration. -/
theorem codeSafe_names_iff (collections : List Collection) (p : Option Provenance) :
    (∀ stem : Stem, CodeSafe stem.text ↔ stem.Sound) ∧
    enumMembers collections = (memberStems collections).map Stem.text ∧
    (blockDeclarations {} collections).map (·.name) = (blockStems collections).map Stem.text ∧
    (SingleLines collections p →
      declaredMembers (generate {} collections p).document =
          (memberStems collections).map Stem.text ∧
        (declaredValues (generate {} collections p).document ++
            declaredTypes (generate {} collections p).document).Perm
          (sharedValues {} ++ ["Collections"] ++ (blockStems collections).map Stem.text)) := by
  refine ⟨Stem.codeSafe_iff, enumMembers_eq collections, blockDeclarations_name {} collections,
    fun h => ⟨?_, declared_perm h⟩⟩
  rw [declaredMembers_eq h, enumMembers_eq]

theorem mem_memberStems {collections : List Collection} {stem : Stem} :
    stem ∈ memberStems collections ↔
      ∃ c ∈ collections, c.name ≠ "" ∧ stem = memberStem c.name := by
  simp only [memberStems, sortedNames, List.mem_map, List.mem_mergeSort, List.mem_filter, bne_iff_ne]
  constructor
  · rintro ⟨n, ⟨⟨c, hc, rfl⟩, hn⟩, rfl⟩
    exact ⟨c, hc, hn, rfl⟩
  · rintro ⟨c, hc, hn, rfl⟩
    exact ⟨c.name, ⟨⟨c, hc, rfl⟩, hn⟩, rfl⟩

theorem codeSafe_names_blog :
    SingleLines blogCollections none ∧
      ∀ name ∈ declaredMembers (generate {} blogCollections none).document, CodeSafe name := by
  obtain ⟨hsafe, -, -, hread⟩ := codeSafe_names_iff blogCollections none
  obtain ⟨hmembers, -⟩ := hread blogCollections_singleLines
  have hsound : ∀ c ∈ blogCollections, (memberStem c.name).Sound := by decide
  refine ⟨blogCollections_singleLines, fun name hname => ?_⟩
  rw [hmembers] at hname
  obtain ⟨stem, hstem, rfl⟩ := List.mem_map.mp hname
  obtain ⟨c, hc, -, rfl⟩ := mem_memberStems.mp hstem
  exact (hsafe _).mpr (hsound c hc)

/-- A collection of this name, without fields. -/
def lone (name : String) : List Collection := [{ name := name, fields := some [] }]

section Lone

variable {name : String} (hname : name ≠ "") (hline : OneLine name)

include hline

theorem lone_singleLines : SingleLines (lone name) none where
  name := by simpa [lone] using hline
  field := by simp [lone]
  source := by simp

include hname

theorem mem_declaredMembers_lone :
    (memberStem name).text ∈ declaredMembers (generate {} (lone name) none).document := by
  rw [declaredMembers_eq (lone_singleLines hline), enumMembers_eq]
  exact List.mem_map_of_mem (mem_memberStems.mpr ⟨_, List.mem_cons_self, hname, rfl⟩)

theorem mem_declaredTypes_lone :
    (recordTypeStem name).text ∈ declaredTypes (generate {} (lone name) none).document := by
  have hrendered : rendered (lone name) = lone name := by
    simp [rendered, lone, Collection.wellFormed, hname]
  have hmem : (recordTypeStem name).text ∈ (identifiers (lone name)).map (· ++ "Record") := by
    rw [identifiers, hrendered]
    exact List.mem_map_of_mem List.mem_cons_self
  rw [declaredTypes_eq (lone_singleLines hline), exportedTypes]
  exact List.mem_cons_of_mem _
    ((blockTypes_perm {} (lone name)).mem_iff.mpr (List.mem_append_left _ hmem))

end Lone

/-- A name without words has an empty member, and a name of digits or of the letter that is kept for
syntax stays as it is, in the member as in the names of schemas and types. -/
theorem not_codeSafe_names :
    (∀ name ∈ ["__", "123", "ⸯ"],
      (memberStem name).text ∈ declaredMembers (generate {} (lone name) none).document ∧
        ¬CodeSafe (memberStem name).text) ∧
    (∀ name ∈ ["123", "ⸯ"],
      (recordTypeStem name).text ∈ declaredTypes (generate {} (lone name) none).document ∧
        ¬CodeSafe (recordTypeStem name).text) ∧
    ¬∀ collections : List Collection, (∀ c ∈ collections, c.name ≠ "") →
      ∀ name ∈ declaredMembers (generate {} collections none).document, CodeSafe name := by
  have hnames : ∀ name ∈ ["__", "123", "ⸯ"], name ≠ "" ∧ OneLine name := by
    unfold OneLine
    decide
  have hmember : ∀ name ∈ ["__", "123", "ⸯ"], ¬(memberStem name).Sound := by decide
  have htype : ∀ name ∈ ["123", "ⸯ"], ¬(recordTypeStem name).Sound := by decide
  have hmembers : ∀ name ∈ ["__", "123", "ⸯ"],
      (memberStem name).text ∈ declaredMembers (generate {} (lone name) none).document ∧
        ¬CodeSafe (memberStem name).text := by
    intro name hname
    obtain ⟨hne, hline⟩ := hnames name hname
    rw [Stem.codeSafe_iff]
    exact ⟨mem_declaredMembers_lone hne hline, hmember name hname⟩
  refine ⟨hmembers, fun name hname => ?_, fun h => ?_⟩
  · obtain ⟨hne, hline⟩ := hnames name (List.mem_cons_of_mem _ hname)
    rw [Stem.codeSafe_iff]
    exact ⟨mem_declaredTypes_lone hne hline, htype name hname⟩
  · obtain ⟨hmem, hunsafe⟩ := hmembers "__" List.mem_cons_self
    exact hunsafe (h (lone "__") (by decide) _ hmem)

end SchemaGen.Zod
