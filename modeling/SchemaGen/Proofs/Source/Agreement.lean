import SchemaGen.Proofs.Source.Details
import SchemaGen.Proofs.Source.Exchanges
import SchemaGen.Proofs.Source.Rows

/-! # Sources that hold the same objects

Collection objects may stand in an export, in the rows of a table or on a server that lists them and
gives each again for its details. All three are read alike (`sources_agree`), as far as a table can
hold the names and types: there they end at a zero.
-/

namespace SchemaGen.Source

set_option autoImplicit false

open SchemaGen.Schema SchemaGen.Web

/-! ## Servers -/

section Servers

open Remote

variable {server : Server} {f : Fetching} {base token : String} {objects : List CollectionObject}
  {pages : List (List Json)}

/-- Each request for details that can be made is answered with the object that was listed. -/
def Repeats (f : Fetching) (base token : String) (objects : List CollectionObject) : Prop :=
  ∀ place o r, objects[place]? = some o →
    documentRequest token (detailAddress base o.name) = .ok r →
    Answers (f.server place) Json.parse r o.value

theorem presented_of_repeats (h : Repeats f base token objects) {place : Nat}
    {o : CollectionObject} (ho : objects[place]? = some o) :
    presented (f.outcome base token) o.value place = o.value := by
  have hname : requestName? o.value = some o.name := by
    rw [requestName?, CollectionObject.value, Json.get?, o.name_eq]
    rfl
  cases hend : f.outcome base token place o.name with
  | error e =>
    -- Where the request cannot even be made, the object stands as it was listed.
    simp only [presented, hname, hend]
  | ok document =>
    obtain ⟨r, hr, response, hresponse, -, hparse⟩ := outcome_eq_ok_iff.mp hend
    obtain ⟨other, hother, -, hvalue⟩ := h place o r ho hr
    cases hresponse.symm.trans hother
    cases hparse.symm.trans hvalue
    simp only [presented, hname, hend, o.withFieldList_value]

theorem described_of_repeats (h : Repeats f base token objects) :
    described (f.outcome base token) (objects.map (·.value)) =
      (collectionsOf objects).mapError .schema := by
  rw [described, List.zipIdx_map, List.mapM_map]
  have hitems : List.Forall₂ (fun (p : CollectionObject × Nat) (o : CollectionObject) =>
      Collection.ofJson (presented (f.outcome base token) p.1.value p.2) =
        Collection.ofJson o.value) objects.zipIdx (objects.zipIdx.map (·.1)) := by
    refine List.forall₂_map_right_iff.mpr (List.forall₂_same.mpr fun p hp => ?_)
    rw [presented_of_repeats h (List.mem_zipIdx_iff_getElem?.mp hp)]
  rw [List.zipIdx_map_fst] at hitems
  exact congrArg (Except.mapError SourceError.schema) (mapM_eq_of_forall₂ hitems)

theorem result_listCollectionsBy_objects (hpages : Lists server base token 1 pages)
    (hobjects : pages.flatten = objects.map (·.value)) (hdetails : Repeats f base token objects) :
    (listCollectionsBy server f base token).result =
      ((collectionsOf objects).mapError .schema).mapError .failed := by
  have hlisting : (listSummaries server base token).result = .ok (objects.map (·.value)) :=
    hobjects ▸ result_listFrom hpages
  rw [result_of_listed server f base token hlisting]
  exact congrArg (Except.mapError Stop.failed) (described_of_repeats hdetails)

end Servers

/-! ## Two collections -/

def posts : CollectionObject where
  entries := [("fields", .array [.object [("name", .string "title"), ("type", .string "text")]]),
    ("name", .string "posts"), ("type", .string "base")]
  name := "posts"
  kind := "base"
  fields := [.object [("name", .string "title"), ("type", .string "text")]]
  name_eq := rfl
  kind_eq := rfl
  fields_eq := rfl

def users : CollectionObject where
  entries := [("fields", .array []), ("name", .string "users"), ("schema", .null),
    ("type", .string "auth")]
  name := "users"
  kind := "auth"
  fields := []
  name_eq := rfl
  kind_eq := rfl
  fields_eq := rfl

def pageOf (o : CollectionObject) : String :=
  (Json.object [("items", .array [o.value]), ("totalPages", .number (.natural 2))]).compact

def routesOfBoth : List (String × Response) := [
  ("http://h/api/collections?page=1&perPage=200", ⟨200, pageOf posts⟩),
  ("http://h/api/collections?page=2&perPage=200", ⟨200, pageOf users⟩),
  ("http://h/api/collections/posts", ⟨200, posts.value.compact⟩),
  ("http://h/api/collections/users", ⟨200, users.value.compact⟩)]

/-- A server that lists both, each on a page of its own. -/
def serverOfBoth : Server := Remote.serverOf routesOfBoth

def rowOf (o : CollectionObject) : List Cell :=
  [.text (Json.array o.fields).compact, .number, .text o.kind, .text o.name]

/-- A table with the older name for the column of field lists. -/
def tableOfBoth : Table :=
  ⟨"_Collections", ["schema", "id", "TYPE", "Name"], [rowOf posts, rowOf users]⟩

def placesOfBoth : Database.Places tableOfBoth.columns where
  name := 3
  kind := 2
  fields := 0
  distinct := by
    simp only [tableOfBoth, Database.sameName_eq]
    decide
  name_at := ⟨"Name", rfl, by rw [Database.sameName_eq]; decide⟩
  kind_at := ⟨"TYPE", rfl, by rw [Database.sameName_eq]; decide⟩
  fields_at := by
    simp only [tableOfBoth, Database.sameName_eq]
    exact .inr ⟨by decide, "schema", rfl, by decide⟩

def exportOfBoth : String := (Json.array [posts.value, users.value]).compact

set_option maxRecDepth 2000 in
theorem read_exportOfBoth :
    Json.parse exportOfBoth = .ok (.array ([posts, users].map (·.value))) := rfl

theorem lists_serverOfBoth :
    Remote.Lists serverOfBoth "http://h" "t" 1 [[posts.value], [users.value]] := by
  have hfirst : (Remote.documentRequest "t" (Remote.pageAddress "http://h" 1)).toOption.map
      (·.url.render) = some "http://h/api/collections?page=1&perPage=200" := by decide +kernel
  have hsecond : (Remote.documentRequest "t" (Remote.pageAddress "http://h" 2)).toOption.map
      (·.url.render) = some "http://h/api/collections?page=2&perPage=200" := by decide +kernel
  have hposts : Remote.Page.shape.ofText (pageOf posts) = .ok ⟨[posts.value], 2⟩ := rfl
  have husers : Remote.Page.shape.ofText (pageOf users) = .ok ⟨[users.value], 2⟩ := rfl
  obtain ⟨r, hr, hanswer⟩ := Remote.serverOf_answer routesOfBoth hfirst rfl
  obtain ⟨s, hs, hother⟩ := Remote.serverOf_answer routesOfBoth hsecond rfl
  exact .more hr ⟨_, hanswer, rfl, hposts⟩ (by decide)
    (.last hs ⟨_, hother, rfl, husers⟩ (by decide))

theorem repeats_serverOfBoth : Repeats (.steady serverOfBoth) "http://h" "t" [posts, users] := by
  have hposts : (Remote.documentRequest "t" (Remote.detailAddress "http://h" "posts")).toOption.map
      (·.url.render) = some "http://h/api/collections/posts" := by decide +kernel
  have husers : (Remote.documentRequest "t" (Remote.detailAddress "http://h" "users")).toOption.map
      (·.url.render) = some "http://h/api/collections/users" := by decide +kernel
  intro place o r ho hr
  match place with
  | 0 =>
    cases ho
    obtain ⟨s, hs, hanswer⟩ := Remote.serverOf_answer routesOfBoth hposts rfl
    cases hr.symm.trans hs
    exact ⟨_, hanswer, rfl, rfl⟩
  | 1 =>
    cases ho
    obtain ⟨s, hs, hanswer⟩ := Remote.serverOf_answer routesOfBoth husers rfl
    cases hr.symm.trans hs
    exact ⟨_, hanswer, rfl, rfl⟩
  | _ + 2 => cases ho

theorem holds_tableOfBoth : List.Forall₂ placesOfBoth.Holds tableOfBoth.rows [posts, users] :=
  .cons ⟨rfl, rfl, _, rfl, rfl⟩ (.cons ⟨rfl, rfl, _, rfl, rfl⟩ .nil)

/-! ## Agreement -/

/-- An export, a server and a table that hold the same objects are read alike, but for names and
types that hold a zero, which a table ends there. -/
theorem sources_agree {objects : List CollectionObject} {text : String}
    (htext : Json.parse text = .ok (.array (objects.map (·.value))))
    {server : Server} {f : Remote.Fetching} {base token : String} {pages : List (List Json)}
    (hpages : Remote.Lists server base token 1 pages)
    (hobjects : pages.flatten = objects.map (·.value))
    (hdetails : Repeats f base token objects) {t : Table}
    (hname : Database.sameName t.name Database.tableName = true)
    (places : Database.Places t.columns) (hrows : List.Forall₂ places.Holds t.rows objects) :
    parseExport text = (collectionsOf objects).mapError .schema ∧
      (Remote.listCollectionsBy server f base token).result =
        ((collectionsOf objects).mapError .schema).mapError .failed ∧
      (Database.readTable (some t)).result =
        ((collectionsOf (objects.map Database.stored)).mapError .schema).mapError .failed ∧
      ((∀ o ∈ objects, '\x00' ∉ o.name.toList ∧ '\x00' ∉ o.kind.toList) →
        collectionsOf (objects.map Database.stored) = collectionsOf objects) := by
  refine ⟨parseExport_objects htext,
    result_listCollectionsBy_objects hpages hobjects hdetails,
    Database.result_readTable hname places hrows, fun hzero => ?_⟩
  rw [collectionsOf, List.mapM_map]
  refine mapM_eq_of_forall₂ (List.forall₂_same.mpr fun o ho => ?_)
  exact Database.ofJson_stored (hzero o ho).1 (hzero o ho).2

/-- The two collections as they are read, wherever they stand. -/
theorem sources_agree_both :
    let agreed : List Collection :=
      [⟨"posts", .base, some [Field.ofTag "title" "text"]⟩, ⟨"users", .auth, some []⟩]
    parseExport exportOfBoth = .ok agreed ∧
      (Remote.listCollections serverOfBoth "http://h" "t").result = .ok agreed ∧
      (Database.readTable (some tableOfBoth)).result = .ok agreed := by
  intro agreed
  have hname : Database.sameName tableOfBoth.name Database.tableName = true := by
    rw [Database.sameName_eq]
    decide
  obtain ⟨hexport, hserver, htable, hzero⟩ := sources_agree read_exportOfBoth lists_serverOfBoth
    rfl repeats_serverOfBoth hname placesOfBoth holds_tableOfBoth
  have hread : collectionsOf [posts, users] = .ok agreed := rfl
  rw [hzero (by decide), hread] at htable
  rw [hread] at hexport hserver
  exact ⟨hexport, hserver, htable⟩

/-- A collection with a zero in its name. -/
def zeroNamed : CollectionObject where
  entries := [("fields", .array []), ("name", .string "a\x00b"), ("type", .string "base")]
  name := "a\x00b"
  kind := "base"
  fields := []
  name_eq := rfl
  kind_eq := rfl
  fields_eq := rfl

def tableOfZeroNamed : Table :=
  ⟨"_collections", ["name", "type", "fields"], [[.text "a\x00b", .text "base", .text "[]"]]⟩

def placesOfZeroNamed : Database.Places tableOfZeroNamed.columns where
  name := 0
  kind := 1
  fields := 2
  distinct := by
    simp only [tableOfZeroNamed, Database.sameName_eq]
    decide
  name_at := ⟨"name", rfl, beq_self_eq_true _⟩
  kind_at := ⟨"type", rfl, beq_self_eq_true _⟩
  fields_at := .inl ⟨"fields", rfl, beq_self_eq_true _⟩

/-- A table does not agree with an export on a name that holds a zero. -/
theorem not_sources_agree :
    ¬∀ (objects : List CollectionObject) (text : String) (t : Table)
      (places : Database.Places t.columns),
      (objects.map (·.name)).Nodup → (∀ o ∈ objects, o.name ≠ "") →
      Json.parse text = .ok (.array (objects.map (·.value))) →
      Database.sameName t.name Database.tableName = true →
      List.Forall₂ places.Holds t.rows objects →
      (Database.readTable (some t)).result = (parseExport text).mapError .failed := by
  intro h
  have hexport : Json.parse (Json.array [zeroNamed.value]).compact =
      .ok (.array ([zeroNamed].map (·.value))) := rfl
  have hrows : List.Forall₂ placesOfZeroNamed.Holds tableOfZeroNamed.rows [zeroNamed] :=
    .cons ⟨rfl, rfl, "[]", rfl, rfl⟩ .nil
  have hagree := h [zeroNamed] _ tableOfZeroNamed placesOfZeroNamed (List.nodup_singleton _)
    (by decide) hexport (beq_self_eq_true _) hrows
  rw [Database.result_readTable (beq_self_eq_true _) placesOfZeroNamed hrows,
    parseExport_objects hexport] at hagree
  have htable : collectionsOf ([zeroNamed].map Database.stored) = .ok [⟨"a", .base, some []⟩] := rfl
  have htext : collectionsOf [zeroNamed] = .ok [⟨"a\x00b", .base, some []⟩] := rfl
  rw [htable, htext] at hagree
  have hsame : [Collection.mk "a" .base (some [])] = [Collection.mk "a\x00b" .base (some [])] :=
    Except.ok.inj hagree
  exact absurd hsame (by decide)

end SchemaGen.Source
