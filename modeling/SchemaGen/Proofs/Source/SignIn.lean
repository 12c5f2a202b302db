import SchemaGen.Proofs.Json.Steps
import SchemaGen.Proofs.Json.Texts
import SchemaGen.Proofs.Schema.Records
import SchemaGen.Proofs.Source.Exchanges
import SchemaGen.Proofs.Web.Endings

/-! # Signing in

A request to sign in ends with a token, without an answer, or with an answer that grants none
(`Concludes`). Only where the first address is not known is there a second request
(`requests_signIn`), and the last one decides (`Concludes.result_signIn`). A token is taken from a
body that names it under its key or holds it alone in an array (`Grants`, `Grant.ofText_eq_ok_iff`).
-/

namespace SchemaGen.Source.Remote

set_option autoImplicit false

open SchemaGen.Schema SchemaGen.Web
open Members (Holds)

/-! ## Bodies with a token -/

/-- The token of a body, empty if it names none. It stands under its key, or alone in an array. -/
inductive Grants : Json → String → Prop where
  | named {entries : List (String × Json)} {token : String} :
    entries.lookup "token" = some (.string token) → Grants (.object entries) token
  | unnamed {entries : List (String × Json)} :
    entries.lookup "token" = none → Grants (.object entries) ""
  | listed (token : String) : Grants (.array [.string token]) token
  | unlisted : Grants (.array []) ""

namespace Grant

variable {entries : List (String × Json)} {token : String}

theorem holds_token : Holds shape.members "token" readText Grant.token := by
  constructor <;> simp [shape, member, map_eq_ok_iff]

theorem readText_eq_ok_iff {v : Json} : readText v = .ok token ↔ v = .string token := by
  cases v <;> simp [readText]

/-! ### Objects -/

theorem grants_of_read_object (hkeys : (entries.map Prod.fst).Nodup)
    (h : shape.read (.object entries) = .ok ⟨token⟩) : Grants (.object entries) token := by
  rw [Shape.read_object] at h
  cases hlookup : entries.lookup "token" with
  | some v =>
    have hown := holds_token.foldlM_own hkeys (Entries.mem_of_lookup hlookup) h
    exact .named (readText_eq_ok_iff.mp hown ▸ hlookup)
  | none =>
    obtain rfl : token = "" := holds_token.get_eq hkeys h
      (fun v hv => nomatch hlookup.symm.trans hv) (fun _ => rfl)
    exact .unnamed hlookup

theorem read_object_of_grants (hkeys : (entries.map Prod.fst).Nodup)
    (h : Grants (.object entries) token) : shape.read (.object entries) = .ok ⟨token⟩ := by
  have hvalue : ∀ v, entries.lookup "token" = some v → readText v = .ok token := by
    intro v hv
    cases h with
    | named hnamed => exact readText_eq_ok_iff.mpr (Option.some.inj (hv.symm.trans hnamed))
    | unnamed hnone => exact nomatch hv.symm.trans hnone
  have hnone : entries.lookup "token" = none → shape.initial.token = token := by
    intro hlookup
    cases h with
    | named hnamed => exact nomatch hlookup.symm.trans hnamed
    | unnamed => rfl
  have hmembers : ∀ key read v, (key, read) ∈ shape.members → (key, v) ∈ entries →
      ∀ r, ∃ r', read r v = .ok r' := by
    intro key read v hmember hv r
    obtain ⟨rfl, rfl⟩ := Prod.mk.inj (List.mem_singleton.mp hmember)
    exact ⟨_, map_eq_ok_iff.mpr ⟨_, hvalue v (Entries.lookup_of_mem hkeys hv), rfl⟩⟩
  -- Other keys have no member, so nothing but the token can fail.
  obtain ⟨grant, hread⟩ := Members.exists_foldlM_readEntry hmembers shape.initial
  obtain rfl : grant.token = token := holds_token.get_eq hkeys hread hvalue hnone
  rw [Shape.read_object, hread]

/-! ### Arrays -/

theorem read_array_eq_ok_iff {items : List Json} :
    shape.read (.array items) = .ok ⟨token⟩ ↔ Grants (.array items) token := by
  match items with
  | [] =>
    constructor
    · rintro ⟨⟩
      exact .unlisted
    · rintro ⟨⟩
      rfl
  | [item] =>
    have hread : shape.read (.array [item]) = (readText item).map Grant.mk := by
      cases item <;> rfl
    rw [hread, map_eq_ok_iff]
    constructor
    · rintro ⟨_, hitem, ⟨⟩⟩
      exact readText_eq_ok_iff.mp hitem ▸ .listed token
    · rintro ⟨⟩
      exact ⟨token, rfl, rfl⟩
  | first :: second :: rest =>
    have hread : ∀ grant, shape.read (.array (first :: second :: rest)) ≠ .ok grant := by
      intro grant h
      obtain ⟨_, -, hlength⟩ := bind_eq_ok_iff.mp h
      rw [if_pos (by simp [shape])] at hlength
      cases hlength
    exact ⟨fun h => absurd h (hread _), nofun⟩

/-! ### Texts -/

theorem ofText_eq_ok_iff {text : String} : shape.ofText text = .ok ⟨token⟩ ↔
    ∃ body, Json.parseOutlined shape.outline text = .ok body ∧ Grants body token := by
  rw [Shape.ofText, bind_eq_ok_iff]
  refine exists_congr fun body => and_congr_right fun hbody => ?_
  rw [mapError_eq_ok_iff]
  cases body with
  | object entries =>
    have hkeys := (Json.ascending_of_parseOutlined hbody).nodup
    exact ⟨grants_of_read_object hkeys, read_object_of_grants hkeys⟩
  | array items => exact read_array_eq_ok_iff
  | null | bool | number | string => exact ⟨nofun, nofun⟩

end Grant

/-! ## Requests -/

variable {server : Server} {base address email password : String}

/-- The request that signs in at an address. -/
def signInRequest (address email password : String) : Except HttpError Request :=
  prepare .post address none (credentials email password)

theorem parse_credentials (email password : String) : Json.parse (credentials email password) =
    .ok (.object [("identity", .string email), ("password", .string password)]) := by
  have hentries : Json.ofEntries [("identity", .string email), ("password", .string password)] =
      .object ([("identity", email), ("password", password)].map Json.Reader.textEntry) := rfl
  rw [credentials, hentries, Json.parse_textEntries]
  exact congrArg Except.ok hentries

theorem requests_signInAt (server : Server) (address email password : String) :
    (signInAt server address email password).requests =
      (signInRequest address email password).toOption.toList := by
  rw [signInRequest, ← requests_exchange server, signInAt]
  refine Attempt.requests_bind_of_none fun answer => Attempt.requests_bind_of_none fun grant => ?_
  split <;> rfl

/-- The server answers that it does not know the address of a request. -/
def isUnknown (server : Server) (request : Except HttpError Request) : Bool :=
  (request.toOption.bind fun r => (server r).toOption).any (·.status == 404)

/-! ## One request -/

/-- How signing in with a request ends. -/
inductive Concludes (server : Server) :
    Except HttpError Request → Except SourceError String → Prop where
  | unprepared (e : HttpError) : Concludes server (.error e) (.error (.http e))
  | broken {r : Request} {cause : Breach} : server r = .error cause →
    Concludes server (.ok r) (.error (.http (.broken r.url cause)))
  | refused {r : Request} {response : Response} : server r = .ok response →
    response.isSuccess = false →
      Concludes server (.ok r) (.error (.status response.status response.text))
  | unread {r : Request} {response : Response} {cause : Json.ReadError} : server r = .ok response →
    response.isSuccess = true → Grant.shape.ofText response.content = .error cause →
      Concludes server (.ok r) (.error (.http (.content r.url cause)))
  | tokenless {r : Request} : Answers server Grant.shape.ofText r ⟨""⟩ →
    Concludes server (.ok r) (.error (.auth .noToken))
  | granted {r : Request} {token : String} : Answers server Grant.shape.ofText r ⟨token⟩ →
    token ≠ "" → Concludes server (.ok r) (.ok token)

theorem exists_concludes (server : Server) (request : Except HttpError Request) :
    ∃ outcome, Concludes server request outcome := by
  cases request with
  | error e => exact ⟨_, .unprepared e⟩
  | ok r =>
    cases hr : server r with
    | error cause => exact ⟨_, .broken hr⟩
    | ok response =>
      cases hsuccess : response.isSuccess with
      | false => exact ⟨_, .refused hr hsuccess⟩
      | true =>
        cases hread : Grant.shape.ofText response.content with
        | error cause => exact ⟨_, .unread hr hsuccess hread⟩
        | ok grant =>
          by_cases htoken : grant.token = ""
          · obtain ⟨_⟩ := grant
            obtain rfl := htoken
            exact ⟨_, .tokenless ⟨response, hr, hsuccess, hread⟩⟩
          · exact ⟨_, .granted ⟨response, hr, hsuccess, hread⟩ htoken⟩

theorem result_signInAt_of_success {r : Request} {response : Response}
    {read : Except Json.ReadError Grant}
    (hrequest : signInRequest address email password = .ok r) (hr : server r = .ok response)
    (hsuccess : response.isSuccess = true) (hread : Grant.shape.ofText response.content = read) :
    (signInAt server address email password).result =
      (decode r read >>= fun grant =>
        if grant.token = "" then Attempt.fail (.auth .noToken) else pure grant.token).result := by
  rw [signInAt, ← signInRequest,
    Attempt.result_bind_of_ok (exchange_eq_ok_iff.mpr ⟨hrequest, hr, hsuccess⟩), ← hread]

theorem Concludes.result_signInAt {outcome : Except SourceError String}
    (h : Concludes server (signInRequest address email password) outcome) :
    (signInAt server address email password).result = outcome.mapError .failed := by
  generalize hrequest : signInRequest address email password = request at h
  cases h with
  | unprepared e =>
    rw [signInAt, ← signInRequest, hrequest]
    rfl
  | @broken r cause hr =>
    have hexchange := result_exchange server r
    rw [hr] at hexchange
    rw [signInAt, ← signInRequest, hrequest]
    exact Attempt.result_bind_of_error hexchange _
  | @refused r response hr hsuccess =>
    have hexchange := result_exchange server r
    simp only [hr, hsuccess, Bool.false_eq_true, if_false] at hexchange
    rw [signInAt, ← signInRequest, hrequest]
    exact Attempt.result_bind_of_error hexchange _
  | unread hr hsuccess hread =>
    rw [result_signInAt_of_success hrequest hr hsuccess hread]
    rfl
  | tokenless hanswer =>
    obtain ⟨response, hr, hsuccess, hread⟩ := hanswer
    rw [result_signInAt_of_success hrequest hr hsuccess hread]
    rfl
  | granted hanswer htoken =>
    obtain ⟨response, hr, hsuccess, hread⟩ := hanswer
    rw [result_signInAt_of_success hrequest hr hsuccess hread, Attempt.result_bind_of_ok rfl,
      if_neg htoken]
    rfl

theorem Concludes.isUnknown_iff {request : Except HttpError Request}
    {outcome : Except SourceError String} (h : Concludes server request outcome) :
    isUnknown server request = true ↔ ∃ text, outcome = .error (.status 404 text) := by
  have hsuccess {r : Request} {response : Response} (hr : server r = .ok response)
      (hs : response.isSuccess = true) : isUnknown server (.ok r) = false := by
    -- The status is no success, so only a refusal can have it.
    have hstatus : response.status ≠ 404 := by
      intro heq
      simp [Response.isSuccess, heq] at hs
    simp [isUnknown, Except.toOption, hr, hstatus]
  cases h with
  | unprepared e => simp [isUnknown, Except.toOption]
  | broken hr => simp [isUnknown, Except.toOption, hr]
  | refused hr hs => simp [isUnknown, Except.toOption, hr]
  | unread hr hs => simp [hsuccess hr hs]
  | tokenless hanswer =>
    obtain ⟨response, hr, hs, -⟩ := hanswer
    simp [hsuccess hr hs]
  | granted hanswer =>
    obtain ⟨response, hr, hs, -⟩ := hanswer
    simp [hsuccess hr hs]

/-! ## At most two requests -/

/-- The request that decides: at the newer address if the older one is not known. -/
def lastRequest (server : Server) (base email password : String) : Except HttpError Request :=
  if isUnknown server (signInRequest (adminAddress base) email password) then
    signInRequest (superuserAddress base) email password
  else signInRequest (adminAddress base) email password

theorem signIn_of_known
    (h : isUnknown server (signInRequest (adminAddress base) email password) = false) :
    signIn server base email password =
      refusing (signInAt server (adminAddress base) email password) := by
  obtain ⟨outcome, hfirst⟩ :=
    exists_concludes server (signInRequest (adminAddress base) email password)
  unfold signIn
  dsimp only
  split
  · -- The first request would have ended in the status that it did not have.
    next text htext =>
    obtain ⟨e, rfl, htold⟩ := mapError_eq_error_iff.mp (hfirst.result_signInAt.symm.trans htext)
    cases htold
    rw [hfirst.isUnknown_iff.mpr ⟨text, rfl⟩] at h
    cases h
  · rfl

theorem signIn_of_unknown
    (h : isUnknown server (signInRequest (adminAddress base) email password) = true) :
    (signIn server base email password).result =
      (refusing (signInAt server (superuserAddress base) email password)).result ∧
    (signIn server base email password).requests =
      (signInAt server (adminAddress base) email password).requests ++
        (signInAt server (superuserAddress base) email password).requests := by
  obtain ⟨outcome, hfirst⟩ :=
    exists_concludes server (signInRequest (adminAddress base) email password)
  obtain ⟨text, rfl⟩ := hfirst.isUnknown_iff.mp h
  unfold signIn
  dsimp only
  rw [hfirst.result_signInAt]
  exact ⟨rfl, rfl⟩

theorem requests_signIn (server : Server) (base email password : String) :
    (signIn server base email password).requests =
      (signInRequest (adminAddress base) email password).toOption.toList ++
        if isUnknown server (signInRequest (adminAddress base) email password) then
          (signInRequest (superuserAddress base) email password).toOption.toList
        else [] := by
  cases hunknown : isUnknown server (signInRequest (adminAddress base) email password) with
  | false =>
    rw [signIn_of_known hunknown, ← requests_signInAt server]
    exact (List.append_nil _).symm
  | true =>
    rw [(signIn_of_unknown hunknown).2, requests_signInAt, requests_signInAt]
    rfl

theorem exists_address_of_mem_requests {r : Request}
    (hr : r ∈ (signIn server base email password).requests) :
    ∃ address, signInRequest address email password = .ok r := by
  rw [requests_signIn, List.mem_append] at hr
  rcases hr with hfirst | hsecond
  · exact ⟨_, eq_ok_of_toOption (Option.mem_toList.mp hfirst)⟩
  · split at hsecond
    · exact ⟨_, eq_ok_of_toOption (Option.mem_toList.mp hsecond)⟩
    · cases hsecond

theorem length_requests_signIn_le (server : Server) (base email password : String) :
    (signIn server base email password).requests.length ≤ 2 := by
  have hfirst := Option.length_toList_le
    (o := (signInRequest (adminAddress base) email password).toOption)
  have hsecond := Option.length_toList_le
    (o := (signInRequest (superuserAddress base) email password).toOption)
  rw [requests_signIn, List.length_append]
  split
  · omega
  · rw [List.length_nil]
    omega

/-- Signing in ends as the last request does, a status told as a refusal of the credentials. -/
theorem Concludes.result_signIn {request : Except HttpError Request}
    {outcome : Except SourceError String} (h : Concludes server request outcome)
    (hlast : lastRequest server base email password = request) :
    (signIn server base email password).result =
      outcome.mapError fun e => .failed (asRefusal e) := by
  have hrefusing {address : String} (hrequest : signInRequest address email password = request) :
      (refusing (signInAt server address email password)).result =
        outcome.mapError fun e => .failed (asRefusal e) := by
    subst hrequest
    rw [refusing, h.result_signInAt]
    cases outcome <;> rfl
  unfold lastRequest at hlast
  split at hlast
  · next hunknown => exact (signIn_of_unknown hunknown).1.trans (hrefusing hlast)
  · next hknown =>
    rw [signIn_of_known (Bool.eq_false_iff.mpr hknown)]
    exact hrefusing hlast

theorem signIn_eq_ok_iff {token : String} : (signIn server base email password).result = .ok token ↔
    token ≠ "" ∧ ∃ r, lastRequest server base email password = .ok r ∧
      Answers server Grant.shape.ofText r ⟨token⟩ := by
  constructor
  · intro h
    obtain ⟨outcome, hlast⟩ := exists_concludes server (lastRequest server base email password)
    rw [hlast.result_signIn rfl, mapError_eq_ok_iff] at h
    subst h
    generalize lastRequest server base email password = request at hlast
    cases hlast with
    | granted hanswer htoken => exact ⟨htoken, _, rfl, hanswer⟩
  · rintro ⟨htoken, r, hr, hanswer⟩
    exact (Concludes.granted hanswer htoken).result_signIn hr

theorem signIn_ne_status (code : Nat) (text : String) :
    (signIn server base email password).result ≠ .error (.failed (.status code text)) := by
  obtain ⟨outcome, hlast⟩ := exists_concludes server (lastRequest server base email password)
  rw [hlast.result_signIn rfl]
  intro h
  obtain ⟨e, -, htold⟩ := mapError_eq_error_iff.mp h
  cases e <;> cases htold

theorem answers_grant_iff {r : Request} {token : String} :
    Answers server Grant.shape.ofText r ⟨token⟩ ↔
      ∃ body, Answers server (Json.parseOutlined Grant.shape.outline) r body ∧
        Grants body token := by
  constructor
  · rintro ⟨response, hr, hsuccess, hread⟩
    obtain ⟨body, hbody, hgrants⟩ := Grant.ofText_eq_ok_iff.mp hread
    exact ⟨body, ⟨response, hr, hsuccess, hbody⟩, hgrants⟩
  · rintro ⟨body, ⟨response, hr, hsuccess, hbody⟩, hgrants⟩
    exact ⟨response, hr, hsuccess, Grant.ofText_eq_ok_iff.mpr ⟨body, hbody, hgrants⟩⟩

/-- Whatever a server answers, it is asked at the older address first, and at the newer one exactly
if it does not know the older. Each request is a post of the identity and the password, and the
answer to the last one decides: a token is what its body grants, and an answer that is no success,
or grants none, is told as a refusal. -/
theorem signIn_by_last_answer (server : Server) (base email password : String) :
    (signIn server base email password).requests =
      (signInRequest (adminAddress base) email password).toOption.toList ++
        (if isUnknown server (signInRequest (adminAddress base) email password) then
          (signInRequest (superuserAddress base) email password).toOption.toList
        else []) ∧
    (signIn server base email password).requests.length ≤ 2 ∧
    (∀ r ∈ (signIn server base email password).requests, r.method = .post ∧
      Json.parse r.body =
        .ok (.object [("identity", .string email), ("password", .string password)])) ∧
    (∀ token, (signIn server base email password).result = .ok token ↔
      token ≠ "" ∧ ∃ r body, lastRequest server base email password = .ok r ∧
        Answers server (Json.parseOutlined Grant.shape.outline) r body ∧ Grants body token) ∧
    (∀ code text,
      (signIn server base email password).result ≠ .error (.failed (.status code text))) ∧
    (∀ r response, lastRequest server base email password = .ok r → server r = .ok response →
      response.isSuccess = false →
        ∃ cause, (signIn server base email password).result = .error (.failed (.auth cause)) ∧
          cause.message = toString response.status ++ ": " ++ response.text) ∧
    ∀ r body, lastRequest server base email password = .ok r →
      Answers server (Json.parseOutlined Grant.shape.outline) r body → Grants body "" →
        (signIn server base email password).result = .error (.failed (.auth .noToken)) := by
  refine ⟨requests_signIn server base email password,
    length_requests_signIn_le server base email password, ?_, ?_, signIn_ne_status, ?_, ?_⟩
  · intro r hr
    obtain ⟨address, hrequest⟩ := exists_address_of_mem_requests hr
    obtain ⟨hmethod, hbody, -⟩ := parts_of_prepare hrequest
    exact ⟨hmethod, hbody ▸ parse_credentials email password⟩
  · intro token
    rw [signIn_eq_ok_iff]
    refine and_congr_right fun _ => exists_congr fun r => ?_
    rw [answers_grant_iff, exists_and_left]
  · intro r response hlast hr hsuccess
    exact ⟨_, (Concludes.refused hr hsuccess).result_signIn hlast, rfl⟩
  · intro r body hlast hanswer hgrants
    have htokenless := answers_grant_iff.mpr ⟨body, hanswer, hgrants⟩
    exact (Concludes.tokenless htokenless).result_signIn hlast

/-- A server that knows the newer address only. -/
def newerRoutes : List (String × Response) :=
  [(superuserAddress "http://h", ⟨200, (Json.object [("token", .string "t")]).compact⟩)]

theorem signIn_by_last_answer_newer :
    (signIn (serverOf newerRoutes) "http://h" "a" "p").requests.length = 2 ∧
      (signIn (serverOf newerRoutes) "http://h" "a" "p").result = .ok "t" := by
  have hunknown : isUnknown (serverOf newerRoutes)
      (signInRequest (adminAddress "http://h") "a" "p") = true := by decide +kernel
  have haddress : (signInRequest (superuserAddress "http://h") "a" "p").toOption.map
      (·.url.render) = some (superuserAddress "http://h") := by decide +kernel
  obtain ⟨r, hr, hanswer⟩ := serverOf_answer newerRoutes haddress rfl
  have hlast : lastRequest (serverOf newerRoutes) "http://h" "a" "p" = .ok r := by
    rw [lastRequest, if_pos hunknown, hr]
  obtain ⟨hrequests, -, -, htoken, -⟩ :=
    signIn_by_last_answer (serverOf newerRoutes) "http://h" "a" "p"
  refine ⟨?_, (htoken "t").mpr ⟨by decide, r, _, hlast, ⟨_, hanswer, rfl, rfl⟩, .named rfl⟩⟩
  rw [hrequests]
  decide +kernel

/-! ## Bodies that do not name a token -/

/-- A server that knows the older address. -/
def olderServer (content : String) : Server := serverOf [(adminAddress "http://h", ⟨200, content⟩)]

theorem olderServer_answer (content : String) :
    ∃ r, lastRequest (olderServer content) "http://h" "a" "p" = .ok r ∧
      olderServer content r = .ok ⟨200, content⟩ := by
  have haddress : (signInRequest (adminAddress "http://h") "a" "p").toOption.map (·.url.render) =
      some (adminAddress "http://h") := by decide +kernel
  obtain ⟨r, hr, hanswer⟩ := serverOf_answer [(adminAddress "http://h", ⟨200, content⟩)] haddress rfl
  have hknown : isUnknown (olderServer content) (.ok r) = false := by
    simp [isUnknown, Except.toOption, olderServer, hanswer]
  refine ⟨r, ?_, hanswer⟩
  rw [lastRequest, hr, hknown]
  rfl

/-- A token without its key. -/
def bareContent : String := (Json.array [.string "t"]).compact

/-- Null for a token. -/
def nullContent : String := (Json.object [("token", .null)]).compact

/-- A token may come from an array, and a success with no text for a token may be told as unreadable.
-/
theorem not_signIn_by_named_token :
    (¬∀ (server : Server) (base email password token : String),
      (signIn server base email password).result = .ok token →
        ∃ r body, lastRequest server base email password = .ok r ∧
          Answers server Json.parse r body ∧ body.get? "token" = some (.string token)) ∧
    ¬∀ (server : Server) (base email password : String) (r : Request) (body : Json),
      lastRequest server base email password = .ok r → Answers server Json.parse r body →
        (∀ token, body.get? "token" ≠ some (.string token)) →
          ∃ cause, (signIn server base email password).result = .error (.failed (.auth cause)) := by
  constructor
  · intro h
    obtain ⟨r, hr, hanswer⟩ := olderServer_answer bareContent
    have hread : Grant.shape.ofText bareContent = .ok ⟨"t"⟩ := rfl
    have hresult := (Concludes.granted ⟨_, hanswer, rfl, hread⟩ (by decide)).result_signIn hr
    obtain ⟨r', body, hr', ⟨response, hresponse, -, hbody⟩, htoken⟩ := h _ _ _ _ _ hresult
    cases hr.symm.trans hr'
    cases hanswer.symm.trans hresponse
    have hparse : Json.parse bareContent = .ok (.array [.string "t"]) := rfl
    cases hparse.symm.trans hbody
    cases htoken
  · intro h
    obtain ⟨r, hr, hanswer⟩ := olderServer_answer nullContent
    have hparse : Json.parse nullContent = .ok (.object [("token", .null)]) := rfl
    obtain ⟨cause, hcause⟩ := h _ _ _ _ _ _ hr ⟨_, hanswer, rfl, hparse⟩ nofun
    have hread : (Grant.shape.ofText nullContent).isOk = false := rfl
    cases hgrant : Grant.shape.ofText nullContent with
    | ok grant =>
      rw [hgrant] at hread
      cases hread
    | error fault => cases hcause.symm.trans ((Concludes.unread hanswer rfl hgrant).result_signIn hr)

end SchemaGen.Source.Remote
