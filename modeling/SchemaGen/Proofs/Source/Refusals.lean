import SchemaGen.Proofs.Source.Details
import SchemaGen.Proofs.Source.Exchanges

/-! # Listings that a document fails

When the listing itself succeeds and each entry is a collection, requests for details that break, are
refused or are answered with something else than JSON do no harm: the entry stands. A listing fails
only through a document that comes as an answer and is no collection (`listing_ok_iff`).
-/

namespace SchemaGen.Source.Remote

set_option autoImplicit false

open SchemaGen.Schema SchemaGen.Web

variable {server : Server} {f : Fetching} {base token : String} {entries : List Json}

/-! ## Refused documents -/

/-- A request for details is answered with a document that is no collection. -/
def Refused (f : Fetching) (base token : String) (entries : List Json) (e : SchemaError) : Prop :=
  ∃ place name r document, (place, name) ∈ errands entries ∧
    documentRequest token (detailAddress base name) = .ok r ∧
    Answers (f.server place) Json.parse r document ∧
    Collection.ofJson (withFieldList document) = .error e

/-- An entry that is a collection is described by what is no collection only if that is the document
which its own request has brought. -/
theorem ofJson_presented_eq_error_iff {outcome : Nat → String → Except SourceError Json}
    {entry : Json} {place : Nat} {e : SchemaError} (hentry : (Collection.ofJson entry).isOk) :
    Collection.ofJson (presented outcome entry place) = .error e ↔
      ∃ name document, requestName? entry = some name ∧ outcome place name = .ok document ∧
        Collection.ofJson (withFieldList document) = .error e := by
  have hsound : Collection.ofJson entry ≠ .error e := by
    intro h
    rw [h] at hentry
    cases hentry
  -- In all cases but one the entry describes itself, and it is a collection.
  cases hname : requestName? entry with
  | none => simp [presented, hname, hsound]
  | some name => cases hend : outcome place name <;> simp [presented, hname, hend, hsound]

theorem refused_iff {e : SchemaError} (hentries : ∀ entry ∈ entries, (Collection.ofJson entry).isOk) :
    Refused f base token entries e ↔ ∃ p ∈ entries.zipIdx,
      Collection.ofJson (presented (f.outcome base token) p.1 p.2) = .error e := by
  constructor
  · rintro ⟨place, name, r, document, herrand, hr, hanswer, hrefused⟩
    obtain ⟨entry, hentry, hname⟩ := mem_errands.mp herrand
    exact ⟨(entry, place), List.mem_zipIdx_iff_getElem?.mpr hentry,
      (ofJson_presented_eq_error_iff (hentries entry (List.mem_of_getElem? hentry))).mpr
        ⟨name, document, hname, outcome_eq_ok_iff.mpr ⟨r, hr, hanswer⟩, hrefused⟩⟩
  · rintro ⟨⟨entry, place⟩, hmem, hrefused⟩
    have hentry : entries[place]? = some entry := List.mem_zipIdx_iff_getElem?.mp hmem
    obtain ⟨name, document, hname, hend, hrefused⟩ := (ofJson_presented_eq_error_iff
      (hentries entry (List.mem_of_getElem? hentry))).mp hrefused
    obtain ⟨r, hr, hanswer⟩ := outcome_eq_ok_iff.mp hend
    exact ⟨place, name, r, document, mem_errands.mpr ⟨entry, hentry, hname⟩, hr, hanswer, hrefused⟩

/-- Entries that are collections are described unless a document is refused. -/
theorem described_eq_error (hentries : ∀ entry ∈ entries, (Collection.ofJson entry).isOk)
    {e : SourceError} (h : described (f.outcome base token) entries = .error e) :
    ∃ cause, Refused f base token entries cause ∧ e = .schema cause := by
  rw [described] at h
  cases hread : entries.zipIdx.mapM fun p =>
      Collection.ofJson (presented (f.outcome base token) p.1 p.2) with
  | ok collections => rw [hread] at h; cases h
  | error cause =>
    rw [hread] at h
    cases h
    exact ⟨cause, (refused_iff hentries).mpr (exists_of_mapM_eq_error hread), rfl⟩

theorem described_eq_ok_iff {outcome : Nat → String → Except SourceError Json}
    {collections : List Collection} : described outcome entries = .ok collections ↔
      List.Forall₂ (fun p c => Collection.ofJson (presented outcome p.1 p.2) = .ok c)
        entries.zipIdx collections := by
  rw [described, mapError_eq_ok_iff]
  exact mapM_eq_ok_iff

theorem not_refused_of_described (hentries : ∀ entry ∈ entries, (Collection.ofJson entry).isOk)
    {collections : List Collection} (h : described (f.outcome base token) entries = .ok collections)
    (e : SchemaError) : ¬Refused f base token entries e := by
  intro hrefused
  obtain ⟨p, hp, herror⟩ := (refused_iff hentries).mp hrefused
  have hboth := (described_eq_ok_iff.mp h).imp fun _ c hc => And.intro (Exists.intro c hc) hc
  obtain ⟨c, hc⟩ := ((List.forall₂_and_left ..).mp hboth).1 p hp
  exact nomatch herror.symm.trans hc

/-! ## A server with one collection -/

/-- The entry of a listing. -/
def onlyEntry : Json :=
  .object [("fields", .array []), ("name", .string "a"), ("type", .string "base")]

/-- The content of a listing with one page. -/
def onlyPage : String :=
  (Json.object [("items", .array [onlyEntry]), ("totalPages", .number (.natural 1))]).compact

def routesOfOne (answer : Response) : List (String × Response) := [
  ("http://h/api/collections?page=1&perPage=200", ⟨200, onlyPage⟩),
  ("http://h/api/collections/a", answer)]

/-- A server with one collection that answers the request for its details in a given way. -/
def serverOfOne (answer : Response) : Server := serverOf (routesOfOne answer)

theorem serverOfOne_answer (answer : Response) :
    ∃ r, documentRequest "t" (detailAddress "http://h" "a") = .ok r ∧
      serverOfOne answer r = .ok answer := by
  have haddress : (documentRequest "t" (detailAddress "http://h" "a")).toOption.map
      (·.url.render) = some "http://h/api/collections/a" := by decide +kernel
  exact serverOf_answer (routesOfOne answer) haddress rfl

theorem result_listSummaries_serverOfOne (answer : Response) :
    (listSummaries (serverOfOne answer) "http://h" "t").result = .ok [onlyEntry] := by
  have haddress : (documentRequest "t" (pageAddress "http://h" 1)).toOption.map (·.url.render) =
      some "http://h/api/collections?page=1&perPage=200" := by decide +kernel
  have hread : Page.shape.ofText onlyPage = .ok ⟨[onlyEntry], 1⟩ := rfl
  obtain ⟨r, hr, hanswer⟩ := serverOf_answer (routesOfOne answer) haddress rfl
  exact result_listFrom (.last hr ⟨_, hanswer, rfl, hread⟩ (by decide))

theorem errands_onlyEntry : errands [onlyEntry] = [(0, "a")] := rfl

/-! ## Listing -/

/-- A listing of collections succeeds, with one collection for each entry in the order of the
listing, exactly if no request for details is answered with a document that is no collection. -/
theorem listing_ok_iff (hlisting : (listSummaries server base token).result = .ok entries)
    (hentries : ∀ entry ∈ entries, (Collection.ofJson entry).isOk) :
    ((∃ collections, (listCollectionsBy server f base token).result = .ok collections) ↔
      ∀ e, ¬Refused f base token entries e) ∧
    (∀ collections, (listCollectionsBy server f base token).result = .ok collections →
      List.Forall₂ (fun p c =>
        Collection.ofJson (presented (f.outcome base token) p.1 p.2) = .ok c)
        entries.zipIdx collections) ∧
    ∀ stop, (listCollectionsBy server f base token).result = .error stop →
      ∃ e, Refused f base token entries e ∧ stop = .failed (.schema e) := by
  rw [result_of_listed server f base token hlisting]
  cases hdescribed : described (f.outcome base token) entries with
  | ok collections =>
    refine ⟨⟨fun _ => ?_, fun _ => ⟨collections, rfl⟩⟩, ?_, ?_⟩
    · exact not_refused_of_described hentries hdescribed
    · rintro _ ⟨rfl⟩
      exact described_eq_ok_iff.mp hdescribed
    · rintro _ ⟨⟩
  | error e =>
    obtain ⟨cause, hrefused, rfl⟩ := described_eq_error hentries hdescribed
    refine ⟨⟨?_, fun h => absurd hrefused (h cause)⟩, ?_, ?_⟩
    · rintro ⟨_, ⟨⟩⟩
    · rintro _ ⟨⟩
    · rintro _ ⟨rfl⟩
      exact ⟨cause, hrefused, rfl⟩

/-- An answer that is no success leaves the listing as it is. -/
theorem listing_ok_of_notFound :
    (listSummaries (serverOfOne ⟨404, ""⟩) "http://h" "t").result = .ok [onlyEntry] ∧
      (∀ entry ∈ [onlyEntry], (Collection.ofJson entry).isOk) ∧
      ∃ collections, (listCollections (serverOfOne ⟨404, ""⟩) "http://h" "t").result =
        .ok collections := by
  have hlisting := result_listSummaries_serverOfOne ⟨404, ""⟩
  have hentries : ∀ entry ∈ [onlyEntry], (Collection.ofJson entry).isOk :=
    List.forall_mem_singleton.mpr rfl
  have hnone : ∀ e, ¬Refused (.steady (serverOfOne ⟨404, ""⟩)) "http://h" "t" [onlyEntry] e := by
    rintro e ⟨place, name, r, document, herrand, hr, ⟨response, hresponse, hsuccess, -⟩, -⟩
    rw [errands_onlyEntry, List.mem_singleton] at herrand
    cases herrand
    obtain ⟨s, hs, hanswer⟩ := serverOfOne_answer ⟨404, ""⟩
    cases hr.symm.trans hs
    cases hresponse.symm.trans hanswer
    cases hsuccess
  exact ⟨hlisting, hentries, (listing_ok_iff hlisting hentries).1.mpr hnone⟩

/-- An answer that is an array fails the listing, although the listing itself succeeds and its only
entry is a collection. -/
theorem not_listing_ok :
    ¬∀ (server : Server) (base token : String) (entries : List Json),
      (listSummaries server base token).result = .ok entries →
      (∀ entry ∈ entries, (Collection.ofJson entry).isOk) →
      ∃ collections, (listCollections server base token).result = .ok collections := by
  intro h
  have hlisting := result_listSummaries_serverOfOne ⟨200, "[]"⟩
  obtain ⟨collections, hok⟩ := h _ _ _ _ hlisting (List.forall_mem_singleton.mpr rfl)
  obtain ⟨r, hr, hanswer⟩ := serverOfOne_answer ⟨200, "[]"⟩
  have hrefused : Refused (.steady (serverOfOne ⟨200, "[]"⟩)) "http://h" "t" [onlyEntry]
      .entryNotAnObject :=
    ⟨0, "a", r, .array [], List.mem_singleton.mpr rfl, hr, ⟨_, hanswer, rfl, rfl⟩, rfl⟩
  rw [listCollections, result_of_listed _ _ _ _ hlisting] at hok
  cases hdescribed : described ((Fetching.steady (serverOfOne ⟨200, "[]"⟩)).outcome "http://h" "t")
      [onlyEntry] with
  | error e => rw [hdescribed] at hok; cases hok
  | ok cs =>
    exact not_refused_of_described (List.forall_mem_singleton.mpr rfl) hdescribed _ hrefused

end SchemaGen.Source.Remote
