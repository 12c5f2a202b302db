import SchemaGen.Proofs.Occurrences
import SchemaGen.Proofs.Zod.Assembly

/-! # Warnings

Generation warns of a field whose name an earlier field of its collection has, and of a field of an
unknown kind. The walk over the fields that carries the names it has seen finds each repeated name
where it stands (`duplicateWarnings_eq`). Over all collections the warnings are those of the ones
with a block, in the order of the document, so there are none exactly if each of these has different
names and known kinds only (`warnings_exact`).
-/

namespace SchemaGen.Zod

set_option autoImplicit false

open SchemaGen.Schema SchemaGen.StableSort SchemaGen.Text SchemaGen.Occurrences

/-! ## Repeated names -/

theorem duplicateWarnings_eq_repeatsAfter (collection : String) (seen : List String)
    (fields : List Field) :
    duplicateWarnings collection seen fields =
      (repeatsAfter (·.name) seen fields).map fun f => .duplicateField collection f.name := by
  induction fields generalizing seen with
  | nil => rfl
  | cons f rest ih =>
    rw [repeatsAfter_cons, List.map_append, duplicateWarnings]
    by_cases h : f.name ∈ seen
    · -- The walk leaves the names as they are, of which the new one is none.
      rw [if_pos (List.contains_iff_mem.mpr h), if_pos h, ih,
        repeatsAfter_congr (mem_cons_seen_iff h)]
      rfl
    · rw [if_neg (fun hc => h (List.contains_iff_mem.mp hc)), if_neg h, ih]
      rfl

theorem duplicateWarnings_eq (collection : String) (fields : List Field) :
    duplicateWarnings collection [] fields =
      (repeats (·.name) fields).map fun f => .duplicateField collection f.name := by
  rw [duplicateWarnings_eq_repeatsAfter, repeatsAfter_nil]

/-! ## Unknown kinds -/

/-- The fields of a kind without a validator of its own. -/
def unknownFields (fields : List Field) : List Field := fields.filter fun f => !f.kind.isKnown

theorem kindWarning?_eq (collection : String) (f : Field) :
    kindWarning? collection f =
      if f.kind.isKnown then none else some (.unknownKind collection f.name f.kind.tag) := by
  unfold kindWarning?
  cases f.kind <;> rfl

theorem kindWarnings_eq (collection : String) (fields : List Field) :
    fields.filterMap (kindWarning? collection) =
      (unknownFields fields).map fun f => .unknownKind collection f.name f.kind.tag := by
  unfold unknownFields
  induction fields with
  | nil => rfl
  | cons f rest ih =>
    by_cases h : f.kind.isKnown = true
    · rw [List.filterMap_cons_none (by rw [kindWarning?_eq, if_pos h]), ih,
        List.filter_cons_of_neg (by simp [h])]
    · rw [List.filterMap_cons_some (by rw [kindWarning?_eq, if_neg h]), ih,
        List.filter_cons_of_pos (by simp [h]), List.map_cons]

/-! ## Warnings of a collection -/

/-- The warnings of fields, by where they stand: repeated names, then unknown kinds. -/
def fieldWarnings (collection : String) (fields : List Field) : List Warning :=
  ((repeats (·.name) fields).map fun f => .duplicateField collection f.name) ++
    (unknownFields fields).map fun f => .unknownKind collection f.name f.kind.tag

theorem blockWarnings_eq {c : Collection} (h : c.wellFormed = true) :
    blockWarnings c = fieldWarnings c.name (c.fields.getD []) := by
  rw [blockWarnings, if_pos h]
  dsimp only
  rw [duplicateWarnings_eq, kindWarnings_eq, fieldWarnings]

theorem fieldWarnings_eq_nil_iff (collection : String) (fields : List Field) :
    fieldWarnings collection fields = [] ↔
      (fields.map (·.name)).Nodup ∧ ∀ f ∈ fields, f.kind.isKnown = true := by
  rw [fieldWarnings, List.append_eq_nil_iff, List.map_eq_nil_iff, List.map_eq_nil_iff,
    repeats_eq_nil_iff, unknownFields, List.filter_eq_nil_iff]
  simp

/-- Collections without a block bring no warnings. -/
theorem flatMap_blockWarnings (collections : List Collection) :
    collections.flatMap blockWarnings = (collections.filter Collection.wellFormed).flatMap
      fun c => fieldWarnings c.name (c.fields.getD []) := by
  induction collections with
  | nil => rfl
  | cons c rest ih =>
    by_cases h : c.wellFormed = true
    · rw [List.filter_cons_of_pos h, List.flatMap_cons, List.flatMap_cons, blockWarnings_eq h, ih]
    · have hnone : blockWarnings c = [] := by rw [blockWarnings, if_neg h]
      rw [List.filter_cons_of_neg h, List.flatMap_cons, hnone, ih, List.nil_append]

/-! ## Warnings of a run -/

/-- The warnings of generation are those of the collections with a name and a field list, in the
order by the bytes of their names that keeps collections of one name as they came. For each of them
there is one for each field whose name stands before it among the fields, and then one with the tag
for each field of an unknown kind, both in the order of the fields. So there are none exactly if all
these collections have fields of different names and known kinds. -/
theorem warnings_exact (s : Settings) (p : Option Provenance) (collections : List Collection) :
    (∃ order : List Collection,
      (generate s collections p).order = order ∧
      order.Perm collections ∧
      order.Pairwise (fun c d => bytes c.name ≤ bytes d.name) ∧
      (∀ n, order.filter (·.name = n) = collections.filter (·.name = n)) ∧
      (generate s collections p).warnings =
        (order.filter fun c => c.name ≠ "" ∧ c.fields.isSome).flatMap fun c =>
          ((repeats (·.name) (c.fields.getD [])).map fun f => .duplicateField c.name f.name) ++
            (unknownFields (c.fields.getD [])).map fun f =>
              .unknownKind c.name f.name f.kind.tag) ∧
    ((generate s collections p).warnings = [] ↔
      ∀ c ∈ collections, ∀ fields, c.name ≠ "" → c.fields = some fields →
        (fields.map (·.name)).Nodup ∧ ∀ f ∈ fields, f.kind.isKnown = true) := by
  have hwarnings : (generate s collections p).warnings =
      ((sortByName collections).filter Collection.wellFormed).flatMap
        fun c => fieldWarnings c.name (c.fields.getD []) :=
    flatMap_blockWarnings (sortByName collections)
  have hmem : ∀ c, c ∈ sortByName collections ↔ c ∈ collections := fun _ =>
    (sort_perm Collection.name collections).mem_iff
  constructor
  · have hascending : Ascending Collection.name (sortByName collections) :=
      sort_ascending collections
    refine ⟨sortByName collections, rfl, sort_perm Collection.name collections,
      hascending.imp fun h => (le_iff_bytes_le _ _).mp h,
      fun n => under_sort Collection.name n collections, ?_⟩
    rw [hwarnings, filter_wellFormed]
    rfl
  · rw [hwarnings, List.flatMap_eq_nil_iff]
    simp only [fieldWarnings_eq_nil_iff, List.mem_filter, hmem]
    constructor
    · intro h c hc fields hname hfields
      have hclean := h c ⟨hc, by simp [Collection.wellFormed, hname, hfields]⟩
      rwa [hfields] at hclean
    · rintro h c ⟨hc, hwell⟩
      obtain ⟨hname, hsome⟩ : c.name ≠ "" ∧ c.fields.isSome = true := by
        simpa [Collection.wellFormed] using hwell
      obtain ⟨fields, hfields⟩ := Option.isSome_iff_exists.mp hsome
      rw [hfields]
      exact h c hc fields hname hfields

end SchemaGen.Zod
