import SchemaGen.Proofs.StableSort
import SchemaGen.Zod.Document

/-! # The order of the input

A generated document lists the collections by name, whatever their order in the input was. Two
orders are in play: that of the names in the enumeration and that of the blocks. Both are one
stable sort of the collections that have a name (`sortedNames_eq`, `document_eq`,
`warnings_eq`); the rest of the input leaves no trace. So a document depends on its input only
through the collections of each single name (`SameNamed.generate_eq`).
-/

namespace SchemaGen.Zod

set_option autoImplicit false

open SchemaGen.Schema SchemaGen.StableSort

/-- The collections that have a name. -/
def named (collections : List Collection) : List Collection := collections.filter (·.name != "")

theorem sortByName_eq (collections : List Collection) :
    sortByName collections = sort Collection.name collections := rfl

theorem named_sortByName (collections : List Collection) :
    named (sortByName collections) = sortByName (named collections) :=
  filter_sort Collection.name _ collections

/-! ## Collections without a name -/

theorem block?_unnamed (s : Settings) {c : Collection} (h : c.name = "") : block? s c = none := by
  simp [block?, Collection.wellFormed, h]

theorem blockWarnings_unnamed {c : Collection} (h : c.name = "") : blockWarnings c = [] := by
  simp [blockWarnings, Collection.wellFormed, h]

theorem blocks_named (s : Settings) (collections : List Collection) :
    blocks s (named collections) = blocks s collections := by
  induction collections with
  | nil => rfl
  | cons c rest ih =>
    unfold blocks named at ih ⊢
    by_cases h : c.name = ""
    · rw [List.filter_cons_of_neg (by simp [h]), List.filterMap_cons_none (block?_unnamed s h), ih]
    · rw [List.filter_cons_of_pos (by simp [h]), List.filterMap_cons, List.filterMap_cons, ih]

theorem warnings_named (collections : List Collection) :
    (named collections).flatMap blockWarnings = collections.flatMap blockWarnings := by
  induction collections with
  | nil => rfl
  | cons c rest ih =>
    unfold named at ih ⊢
    by_cases h : c.name = ""
    · rw [List.filter_cons_of_neg (by simp [h]), List.flatMap_cons, blockWarnings_unnamed h, ih,
        List.nil_append]
    · rw [List.filter_cons_of_pos (by simp [h]), List.flatMap_cons, List.flatMap_cons, ih]

/-! ## One order for names, blocks and warnings -/

/-- The names of the enumeration are those of the sorted collections. -/
theorem sortedNames_eq (collections : List Collection) :
    sortedNames collections = (sortByName (named collections)).map (·.name) := by
  have h : (sortByName (named collections)).map (·.name) =
      sort id ((named collections).map (·.name)) :=
    map_sort id Collection.name (fun _ => rfl) (named collections)
  have hnames : (named collections).map (·.name) =
      (collections.map (·.name)).filter (· != "") := by
    rw [List.filter_map]
    rfl
  rw [h, hnames]
  rfl

theorem document_eq (s : Settings) (collections : List Collection) (p : Option Provenance) :
    (generate s collections p).document =
      assemble (provenanceParts p ++
        preamble s ((sortByName (named collections)).map (·.name)) ++
        (blocks s (sortByName (named collections))).map renderAll) := by
  rw [← named_sortByName, blocks_named, named_sortByName, ← sortedNames_eq]
  rfl

theorem warnings_eq (s : Settings) (collections : List Collection) (p : Option Provenance) :
    (generate s collections p).warnings =
      (sortByName (named collections)).flatMap blockWarnings := by
  rw [← named_sortByName, warnings_named]
  rfl

/-! ## Inputs that hold the same collections under each name -/

/-- Under each name the two lists hold the same collections in one order. Collections without a
name do not count. -/
def SameNamed (l m : List Collection) : Prop :=
  ∀ n, n ≠ "" → l.filter (·.name = n) = m.filter (·.name = n)

theorem under_named {n : String} (h : n ≠ "") (collections : List Collection) :
    under Collection.name n (named collections) = collections.filter (·.name = n) := by
  rw [under, named, List.filter_filter]
  apply List.filter_congr
  intro c _
  by_cases hc : c.name = n <;> simp [hc, h]

theorem under_named_empty (collections : List Collection) :
    under Collection.name "" (named collections) = [] := by
  simp [under, named, List.filter_eq_nil_iff]

theorem SameNamed.sortByName_eq {l m : List Collection} (h : SameNamed l m) :
    sortByName (named l) = sortByName (named m) := by
  apply sort_congr Collection.name
  intro n
  -- What has no name is not among the named ones, whatever the lists hold.
  by_cases hn : n = ""
  · rw [hn, under_named_empty, under_named_empty]
  · rw [under_named hn, under_named hn, h n hn]

theorem SameNamed.generate_eq {l m : List Collection} (h : SameNamed l m) (s : Settings)
    (p : Option Provenance) :
    (generate s l p).document = (generate s m p).document ∧
      (generate s l p).warnings = (generate s m p).warnings := by
  rw [document_eq, document_eq, warnings_eq, warnings_eq, h.sortByName_eq]
  exact ⟨rfl, rfl⟩

/-- Collections that share one name, though no two do, are at most one. -/
theorem eq_of_perm_of_name_eq {l m : List Collection} {n : String} (h : l.Perm m)
    (hname : ∀ c ∈ l, c.name = n) (hn : (l.map (·.name)).Nodup) : l = m := by
  match l with
  | [] => exact h.nil_eq
  | [c] => exact List.singleton_perm.mp h
  | c :: d :: rest =>
    have hcd : c.name = d.name := by rw [hname c (by simp), hname d (by simp)]
    simp [hcd] at hn

/-- A permutation of collections with different names keeps them under each name. -/
theorem SameNamed.of_perm {l m : List Collection} (h : l.Perm m)
    (hn : ((l.map (·.name)).filter (· != "")).Nodup) : SameNamed l m := by
  intro n hne
  apply eq_of_perm_of_name_eq (h.filter _) (fun c hc => by simpa using (List.mem_filter.mp hc).2)
  refine hn.sublist ?_
  rw [List.filter_map]
  refine List.Sublist.map _ (List.monotone_filter_right l ?_)
  intro c hc
  simp only [decide_eq_true_eq] at hc
  simp [hc, hne]

theorem SameNamed.of_sortByName (l : List Collection) : SameNamed (sortByName l) l :=
  fun n _ => under_sort Collection.name n l

/-- A document and its warnings depend on the order of the input only through the collections that
share a name. In particular they are the same for each permutation of collections with different
names, and for the list that a first run has sorted. -/
theorem generate_eq_of_same_named (s : Settings) (p : Option Provenance) :
    (∀ l m : List Collection,
      (∀ n, n ≠ "" → l.filter (·.name = n) = m.filter (·.name = n)) →
      (generate s l p).document = (generate s m p).document ∧
        (generate s l p).warnings = (generate s m p).warnings) ∧
    (∀ l m : List Collection, l.Perm m → ((l.map (·.name)).filter (· != "")).Nodup →
      (generate s l p).document = (generate s m p).document ∧
        (generate s l p).warnings = (generate s m p).warnings) ∧
    (∀ l : List Collection,
      (generate s (generate s l p).order p).document = (generate s l p).document ∧
        (generate s (generate s l p).order p).warnings = (generate s l p).warnings) := by
  refine ⟨fun l m h => ?_, fun l m h hn => ?_, fun l => ?_⟩
  · exact SameNamed.generate_eq h s p
  · exact (SameNamed.of_perm h hn).generate_eq s p
  · exact (SameNamed.of_sortByName l).generate_eq s p

/-- Two collections of one name, apart from each other, and one without a name. -/
def scattered : List Collection := [
  { name := "posts" }, { name := "users", kind := .auth, fields := some [] }, {},
  { name := "posts", fields := some [] }]

/-- The same, sorted in another way and without the one that has no name. -/
def gathered : List Collection := [
  { name := "users", kind := .auth, fields := some [] }, { name := "posts" },
  { name := "posts", fields := some [] }]

theorem generate_scattered :
    (∀ n, n ≠ "" → scattered.filter (·.name = n) = gathered.filter (·.name = n)) ∧
      (generate {} scattered none).document = (generate {} gathered none).document ∧
      (generate {} scattered none).warnings = (generate {} gathered none).warnings ∧
      (scattered.drop 1).Perm (scattered.drop 1).reverse ∧
      (((scattered.drop 1).map (·.name)).filter (· != "")).Nodup ∧
      (generate {} (scattered.drop 1) none).document =
        (generate {} (scattered.drop 1).reverse none).document := by
  obtain ⟨hsame, hperm, -⟩ := generate_eq_of_same_named {} none
  have hfilter : ∀ n, n ≠ "" →
      scattered.filter (·.name = n) = gathered.filter (·.name = n) := by
    intro n hn
    by_cases hposts : "posts" = n
    · subst hposts
      decide
    · by_cases husers : "users" = n
      · subst husers
        decide
      · simp [scattered, gathered, hposts, husers, Ne.symm hn]
  have hreverse : (scattered.drop 1).Perm (scattered.drop 1).reverse :=
    (List.reverse_perm _).symm
  have hnodup : (((scattered.drop 1).map (·.name)).filter (· != "")).Nodup := by decide
  obtain ⟨hdocument, hwarnings⟩ := hsame scattered gathered hfilter
  exact ⟨hfilter, hdocument, hwarnings, hreverse, hnodup, (hperm _ _ hreverse hnodup).1⟩

end SchemaGen.Zod
