import SchemaGen.Json.Writer
import SchemaGen.Schema.Record.Text
import SchemaGen.Source.Attempt
import SchemaGen.Source.Export

/-! Collections of a server. They are listed page by page; as a listing may hold summaries only,
each listed collection is asked for once more by its name. Where that fails, the summary stands. -/

namespace SchemaGen.Source.Remote

set_option autoImplicit false

open SchemaGen.Schema SchemaGen.Web

/-! ## Addresses -/

/-- The address of a server without slashes at its end. -/
def baseAddress (url : String) : String :=
  String.ofList (url.toList.reverse.dropWhile (· == '/')).reverse

/-- Collections on one page of a listing. -/
def pageSize : Nat := 200

def pageAddress (base : String) (page : Nat) : String :=
  base ++ "/api/collections?page=" ++ toString page ++ "&perPage=" ++ toString pageSize

def detailAddress (base name : String) : String :=
  base ++ "/api/collections/" ++ String.ofList (percentEncode keptInName name.toList)

/-- Where administrators of older servers sign in. -/
def adminAddress (base : String) : String := base ++ "/api/admins/auth-with-password"

/-- Where administrators of newer servers sign in. -/
def superuserAddress (base : String) : String :=
  base ++ "/api/collections/_superusers/auth-with-password"

/-! ## Exchanges -/

/-- The successful response to a request. -/
def exchange (server : Server) (request : Except HttpError Request) :
    Attempt (Request × Response) := do
  let request ← .ofExcept (request.mapError .http)
  .asked request
  match server request with
  | .error cause => .fail (.http (.broken request.url cause))
  | .ok response =>
    if response.isSuccess then return (request, response)
    .notify (.requestFailed response.status response.text)
    .fail (.status response.status response.text)

/-- What the content of a response is read as. -/
def decode {α : Type} (request : Request) (value : Except Json.ReadError α) : Attempt α :=
  .ofExcept (value.mapError fun cause => .http (.content request.url cause))

/-- A request for a document. -/
def documentRequest (token address : String) : Except HttpError Request :=
  prepare .get address (some token) ""

/-! ## Listing -/

structure Page where
  items : List Json := []
  totalPages : UInt32 := 0

def Page.shape : Shape Page where
  name := "CollectionPage"
  initial := {}
  members := [
    member "items" (readList .ok) fun r v => { r with items := v },
    member "totalPages" readCount fun r v => { r with totalPages := v }]

/-- One page of the listing. -/
def readPage (server : Server) (base token : String) (page : Nat) : Attempt Page := do
  let (request, response) ← exchange server (documentRequest token (pageAddress base page))
  decode request (Page.shape.ofText response.content)

/-- The pages from one on. There is another page as long as the number of pages is greater. -/
def listFrom (server : Server) (base token : String) (page : Nat) : Attempt (List Json) :=
  let attempt := readPage server base token page
  attempt.andThen fun data =>
    if _h : page < data.totalPages.toNat then
      (listFrom server base token (page + 1)).andThen fun rest => pure (data.items ++ rest)
    else pure data.items
termination_by 0x100000000 - page
decreasing_by
  have := data.totalPages.toNat_lt
  omega

/-- The summaries of all collections. -/
def listSummaries (server : Server) (base token : String) : Attempt (List Json) :=
  listFrom server base token 1

/-! ## Details -/

/-- The name that details are asked for under. -/
def requestName? (summary : Json) : Option String := (summary.get? "name").bind Json.text?

/-- The document of one collection. -/
def readDetail (server : Server) (base token name : String) : Attempt Json := do
  let (request, response) ← exchange server (documentRequest token (detailAddress base name))
  decode request (Json.parse response.content)

/-- The requests for details: the places of the summaries that have a name, with the names. -/
def errands (summaries : List Json) : List (Nat × String) :=
  summaries.zipIdx.filterMap fun (summary, place) =>
    (requestName? summary).map fun name => (place, name)

/-- A request for details that has come to its end: the place of its summary, the name asked for,
and the document or why there is none. -/
structure Completion where
  place : Nat
  name : String
  result : Except SourceError Json

/-- The details so far with those of one completion. -/
def settle (details : List (Option Json)) (c : Completion) : List (Option Json) :=
  match c.result with
  | .ok document => details.set c.place (some (withFieldList document))
  | .error _ => details

/-- The notice of a completion without a document. -/
def Completion.notice? (c : Completion) : Option Notice :=
  match c.result with
  | .ok _ => none
  | .error e => some (.detailFailed c.name e.message)

/-- The details after all completions, in whatever order they come. -/
def settleAll (summaries : List Json) (completions : List Completion) : List (Option Json) :=
  completions.foldl settle (List.replicate summaries.length none)

/-- The requests for details with their ends, in the order of the summaries. -/
def completions (outcome : Nat → String → Except SourceError Json) (summaries : List Json) :
    List Completion :=
  (errands summaries).map fun (place, name) => ⟨place, name, outcome place name⟩

/-- A completed attempt as a result for details, which are never broken off. -/
def detailResult (attempt : Attempt Json) : Except SourceError Json :=
  match attempt.result with
  | .ok document => .ok document
  | .error (.failed e) => .error e
  | .error .aborted => .error (.schema .entryNotAnObject)

/-- Each summary, or its details if there are any, as a collection. -/
def describeAll (summaries : List Json) (details : List (Option Json)) :
    Except SourceError (List Collection) :=
  (summaries.zip details).mapM fun (summary, detail) =>
    (Collection.ofJson (detail.getD summary)).mapError .schema

/-- How fetching details goes, as far as it is not in the hand of the one who fetches. -/
structure Fetching where
  /-- The server as the request for the summary at a place meets it. -/
  server : Nat → Server
  /-- The order in which the requests come to their end. -/
  arrange : List Completion → List Completion
  arrange_perm : ∀ done, (arrange done).Perm done

/-- One server answers all requests, and they end in the order of the summaries. -/
def Fetching.steady (server : Server) : Fetching := ⟨fun _ => server, id, fun done => .refl done⟩

/-- The end of the request for the details of a name, made for the summary at a place. -/
def Fetching.outcome (f : Fetching) (base token : String) (place : Nat) (name : String) :
    Except SourceError Json :=
  detailResult (readDetail (f.server place) base token name)

/-- The collections that a token shows, where fetching their details goes in a given way. -/
def listCollectionsBy (server : Server) (f : Fetching) (base token : String) :
    Attempt (List Collection) := do
  let summaries ← listSummaries server base token
  .notify (.listed summaries.length)
  let attempts := (errands summaries).map fun (place, name) =>
    readDetail (f.server place) base token name
  let done := f.arrange (completions (f.outcome base token) summaries)
  { result := .ok ()
    requests := attempts.flatMap (·.requests)
    notices := attempts.flatMap (·.notices) ++ done.filterMap Completion.notice? }
  .ofExcept (describeAll summaries (settleAll summaries done))

/-- The collections that a token shows. -/
def listCollections (server : Server) (base token : String) : Attempt (List Collection) :=
  listCollectionsBy server (.steady server) base token

/-! ## Signing in -/

/-- The token in the response to a sign-in. -/
structure Grant where
  token : String := ""

def Grant.shape : Shape Grant where
  name := "AuthResponse"
  initial := {}
  members := [member "token" readText fun r v => { r with token := v }]

/-- The body of a sign-in. -/
def credentials (email password : String) : String :=
  (Json.ofEntries [("identity", .string email), ("password", .string password)]).compact

/-- Signs in at one address. -/
def signInAt (server : Server) (address email password : String) : Attempt String := do
  let (request, response) ←
    exchange server (prepare .post address none (credentials email password))
  let grant ← decode request (Grant.shape.ofText response.content)
  if grant.token = "" then .fail (.auth .noToken) else return grant.token

/-- A status that is no success refuses the credentials. -/
def asRefusal : SourceError → SourceError
  | .status code body => .auth (.refused code body)
  | e => e

/-- The same attempt with its failure told as one of signing in. -/
def refusing {α : Type} (attempt : Attempt α) : Attempt α :=
  { attempt with
    result := attempt.result.mapError fun
      | .failed e => .failed (asRefusal e)
      | .aborted => .aborted }

/-- Signs in as an administrator: at the newer address only if the server does not know the older.
-/
def signIn (server : Server) (base email password : String) : Attempt String :=
  let first := signInAt server (adminAddress base) email password
  match first.result with
  | .error (.failed (.status 404 _)) =>
    let second := refusing (signInAt server (superuserAddress base) email password)
    ⟨second.result, first.requests ++ second.requests,
      first.notices ++ .tryingSuperusers :: second.notices⟩
  | _ => refusing first

end SchemaGen.Source.Remote
