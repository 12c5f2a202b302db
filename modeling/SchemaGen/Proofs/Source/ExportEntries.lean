import SchemaGen.Proofs.Schema.Readings
import SchemaGen.Proofs.Traversal
import SchemaGen.Source.Export

/-! # Exports entry by entry

An empty field list is put into an object that has none before its entries are read. As it goes by
the same keys as the reading does, each entry is read as it stands, and an absent list becomes an
empty one afterwards (`ofJson_withFieldList`). So an export is either read entry by entry or fails as
its first entry that is refused (`parseExport_entrywise`).
-/

namespace SchemaGen.Schema

set_option autoImplicit false

/-- The same collection with a field list, which is empty if there was none. -/
def Collection.listed (c : Collection) : Collection :=
  { c with fields := some (c.fields.getD []) }

theorem Collection.wellFormed_listed (c : Collection) :
    c.listed.wellFormed = true ↔ c.listed.name ≠ "" := by
  simp [wellFormed, listed]

end SchemaGen.Schema

namespace SchemaGen.Source

set_option autoImplicit false

open SchemaGen.Schema

/-! ## Entries -/

/-- The list that is put in is the one that is found. -/
theorem fieldListOf_insert (entries : List (String × Json)) :
    fieldListOf (.object (Entries.insert "fields" (.array []) entries)) = some (.array []) := by
  have hget : (Json.object (Entries.insert "fields" (.array []) entries)).get? "fields" =
      some (.array []) := by
    rw [Json.get?, Entries.lookup_insert, if_pos rfl]
  exact fieldListOf_fields rfl hget

theorem get?_insert_of_ne {key : String} (hkey : key ≠ "fields") (v : Json)
    (entries : List (String × Json)) :
    (Json.object (Entries.insert "fields" v entries)).get? key = (Json.object entries).get? key := by
  rw [Json.get?, Entries.lookup_insert, if_neg hkey]
  rfl

theorem ofJson_withFieldList (entry : Json) :
    Collection.ofJson (withFieldList entry) = (Collection.ofJson entry).map Collection.listed := by
  cases entry with
  | object entries =>
    cases hlist : fieldListOf (.object entries) with
    | none =>
      simp only [withFieldList, hlist, Option.isSome_none, Bool.false_eq_true, if_false]
      simp only [Collection.ofJson, fieldListOf_insert, hlist,
        get?_insert_of_ne (show "name" ≠ "fields" by decide),
        get?_insert_of_ne (show "type" ≠ "fields" by decide)]
      rfl
    | some list =>
      simp only [withFieldList, hlist, Option.isSome_some, if_true]
      rw [Collection.ofJson, hlist]
      dsimp only
      cases readList Field.shape.read list <;> rfl
  | null | bool | number | string | array => rfl

/-! ## Exports -/

/-- An array is read entry by entry, each as it stands, and its collections are listed then. -/
theorem parseExport_of_array {text : String} {entries : List Json}
    (h : Json.parse text = .ok (.array entries)) :
    parseExport text =
      ((entries.mapM Collection.ofJson).map (List.map Collection.listed)).mapError .schema := by
  rw [parseExport, h, ← mapM_mapOk]
  simp only [withFieldLists, collectionsOfJson, List.mapM_map, ← ofJson_withFieldList]
  rfl

theorem array_of_parseExport {text : String} {collections : List Collection}
    (h : parseExport text = .ok collections) :
    ∃ entries, Json.parse text = .ok (.array entries) := by
  unfold parseExport at h
  cases hparse : Json.parse text with
  | error e =>
    rw [hparse] at h
    cases h
  | ok value =>
    rw [hparse] at h
    cases value with
    | array entries => exact ⟨entries, rfl⟩
    | null | bool | number | string | object => cases h

theorem parseExport_eq_ok_iff {text : String} {collections : List Collection} :
    parseExport text = .ok collections ↔ ∃ entries given, Json.parse text = .ok (.array entries) ∧
      List.Forall₂ (fun entry c => Collection.ofJson entry = .ok c) entries given ∧
      given.map Collection.listed = collections := by
  constructor
  · intro h
    obtain ⟨entries, hparse⟩ := array_of_parseExport h
    rw [parseExport_of_array hparse, mapError_eq_ok_iff, map_eq_ok_iff] at h
    obtain ⟨given, hgiven, hlisted⟩ := h
    exact ⟨entries, given, hparse, mapM_eq_ok_iff.mp hgiven, hlisted⟩
  · rintro ⟨entries, given, hparse, hgiven, hlisted⟩
    rw [parseExport_of_array hparse, mapError_eq_ok_iff, map_eq_ok_iff]
    exact ⟨given, mapM_eq_ok_iff.mpr hgiven, hlisted⟩

theorem parseExport_eq_error_iff {text : String} {entries : List Json} {e : SourceError}
    (h : Json.parse text = .ok (.array entries)) : parseExport text = .error e ↔
      ∃ before entry after cause, entries = before ++ entry :: after ∧
        (∀ earlier ∈ before, ∃ c, Collection.ofJson earlier = .ok c) ∧
        Collection.ofJson entry = .error cause ∧ e = .schema cause := by
  have herror (cause : SchemaError) :
      (entries.mapM Collection.ofJson).map (List.map Collection.listed) = .error cause ↔
        entries.mapM Collection.ofJson = .error cause := by
    cases entries.mapM Collection.ofJson <;> simp [Except.map]
  rw [parseExport_of_array h, mapError_eq_error_iff]
  simp only [herror, mapM_eq_error_iff]
  constructor
  · rintro ⟨cause, ⟨before, entry, after, hsplit, hbefore, hentry⟩, rfl⟩
    exact ⟨before, entry, after, cause, hsplit, hbefore, hentry, rfl⟩
  · rintro ⟨before, entry, after, cause, hsplit, hbefore, hentry, rfl⟩
    exact ⟨cause, ⟨before, entry, after, hsplit, hbefore, hentry⟩, rfl⟩

/-- An export is read exactly if it is an array of entries that are all accepted. Then it gives one
collection for each entry, in order: the entry's own, with an empty list where it has none, so that
it is well formed as soon as it has a name. Of an array with an entry that is refused the first such
entry gives the error. -/
theorem parseExport_entrywise (text : String) :
    ((∃ collections, parseExport text = .ok collections) ↔
      ∃ entries, Json.parse text = .ok (.array entries) ∧
        ∀ entry ∈ entries, ∃ c, Collection.ofJson entry = .ok c) ∧
    (∀ collections, parseExport text = .ok collections ↔
      ∃ entries given, Json.parse text = .ok (.array entries) ∧
        List.Forall₂ (fun entry c => Collection.ofJson entry = .ok c) entries given ∧
        given.map Collection.listed = collections) ∧
    (∀ collections, parseExport text = .ok collections →
      ∀ c ∈ collections, c.wellFormed = true ↔ c.name ≠ "") ∧
    ∀ entries, Json.parse text = .ok (.array entries) → ∀ e, parseExport text = .error e ↔
      ∃ before entry after cause, entries = before ++ entry :: after ∧
        (∀ earlier ∈ before, ∃ c, Collection.ofJson earlier = .ok c) ∧
        Collection.ofJson entry = .error cause ∧ e = .schema cause := by
  refine ⟨⟨?_, ?_⟩, fun _ => parseExport_eq_ok_iff, ?_, fun _ h _ => parseExport_eq_error_iff h⟩
  · rintro ⟨collections, h⟩
    obtain ⟨entries, given, hparse, hgiven, -⟩ := parseExport_eq_ok_iff.mp h
    refine ⟨entries, hparse, fun entry hentry => ?_⟩
    obtain ⟨c, -, hc⟩ := exists_of_mapM_eq_ok (mapM_eq_ok_iff.mpr hgiven) hentry
    exact ⟨c, hc⟩
  · rintro ⟨entries, hparse, hall⟩
    obtain ⟨given, hgiven⟩ := exists_mapM_eq_ok hall
    exact ⟨_, parseExport_eq_ok_iff.mpr ⟨entries, given, hparse, mapM_eq_ok_iff.mp hgiven, rfl⟩⟩
  · intro collections h c hc
    obtain ⟨entries, given, -, -, rfl⟩ := parseExport_eq_ok_iff.mp h
    obtain ⟨d, -, rfl⟩ := List.mem_map.mp hc
    exact d.wellFormed_listed

/-! ## Two exports -/

/-- A collection whose list is null, and one without a name whose list has the older key. -/
def nullExport : String :=
  "[\x7b\"name\":\"stats\",\"fields\":null\x7d,\x7b\"schema\":[]\x7d]"

def nullCollections : List Collection := [⟨"stats", .base, some []⟩, ⟨"", .base, some []⟩]

/-- An entry that is no object, before one whose list is none. -/
def brokenExport : String := "[\x7b\"name\":\"a\"\x7d,5,\x7b\"fields\":\"x\"\x7d]"

def brokenList : List Json :=
  [.object [("name", .string "a")], .number (.natural 5), .object [("fields", .string "x")]]

set_option maxRecDepth 2000 in
theorem parseExport_entrywise_both :
    parseExport nullExport = .ok nullCollections ∧
      (∀ c ∈ nullCollections, c.wellFormed = true ↔ c.name ≠ "") ∧
      Json.parse brokenExport = .ok (.array brokenList) ∧
      parseExport brokenExport = .error (.schema .entryNotAnObject) := by
  have hnull : parseExport nullExport = .ok nullCollections := rfl
  have hbroken : Json.parse brokenExport = .ok (.array brokenList) := rfl
  obtain ⟨-, -, hformed, -⟩ := parseExport_entrywise nullExport
  obtain ⟨-, -, -, herror⟩ := parseExport_entrywise brokenExport
  refine ⟨hnull, hformed _ hnull, hbroken, (herror _ hbroken _).mpr ?_⟩
  exact ⟨[_], _, [_], .entryNotAnObject, rfl, List.forall_mem_singleton.mpr ⟨_, rfl⟩, rfl, rfl⟩

end SchemaGen.Source
