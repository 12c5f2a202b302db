import SchemaGen.Proofs.Source.Attempt
import SchemaGen.Proofs.Traversal
import SchemaGen.Source.Remote

/-! # Answered requests

A request is answered when the server gives a success with content that reads as a value
(`Answers`). Exactly then a page or a document is read (`readPage_eq_ok_iff`,
`readDetail_eq_ok_iff`), and a whole listing is the pages one after another (`result_listFrom`).
-/

namespace SchemaGen.Source.Remote

set_option autoImplicit false

open SchemaGen.Schema SchemaGen.Web

variable {server : Server} {base token : String}

/-! ## Answers -/

/-- The server answers a request with a success, and its content is read as a value. -/
def Answers {α : Type} (server : Server) (read : String → Except Json.ReadError α)
    (request : Request) (value : α) : Prop :=
  ∃ response, server request = .ok response ∧ response.isSuccess = true ∧
    read response.content = .ok value

theorem result_exchange (server : Server) (r : Request) :
    (exchange server (.ok r)).result =
      match server r with
      | .error cause => .error (.failed (.http (.broken r.url cause)))
      | .ok response =>
        if response.isSuccess then .ok (r, response)
        else .error (.failed (.status response.status response.text)) := by
  rw [exchange, Attempt.result_bind_of_ok rfl, Attempt.result_bind_of_ok rfl]
  cases server r with
  | error cause => rfl
  | ok response =>
    dsimp only
    split <;> rfl

theorem exchange_eq_ok_iff {request : Except HttpError Request} {r : Request}
    {response : Response} : (exchange server request).result = .ok (r, response) ↔
      request = .ok r ∧ server r = .ok response ∧ response.isSuccess = true := by
  cases request with
  | error e =>
    rw [exchange, Attempt.result_bind_of_error rfl]
    simp
  | ok s =>
    rw [result_exchange, Except.ok.injEq]
    cases hs : server s with
    | error cause =>
      refine ⟨nofun, ?_⟩
      rintro ⟨rfl, hr, -⟩
      exact nomatch hs.symm.trans hr
    | ok answer =>
      by_cases hsuccess : answer.isSuccess = true
      · simp only [if_pos hsuccess, Except.ok.injEq, Prod.mk.injEq]
        constructor
        · rintro ⟨rfl, rfl⟩
          exact ⟨rfl, hs, hsuccess⟩
        · rintro ⟨rfl, hr, -⟩
          exact ⟨rfl, Except.ok.inj (hs.symm.trans hr)⟩
      · simp only [if_neg hsuccess]
        refine ⟨nofun, ?_⟩
        rintro ⟨rfl, hr, h⟩
        exact absurd (Except.ok.inj (hs.symm.trans hr) ▸ h) hsuccess

theorem requests_exchange (server : Server) (request : Except HttpError Request) :
    (exchange server request).requests = request.toOption.toList := by
  cases request with
  | error e => rfl
  | ok r =>
    rw [exchange, Attempt.bind_of_ok rfl, Attempt.bind_of_ok rfl]
    cases server r with
    | error cause => rfl
    | ok response =>
      by_cases hsuccess : response.isSuccess = true
      · simp only [if_pos hsuccess]
        rfl
      · simp only [if_neg hsuccess]
        rfl

theorem decode_eq_ok_iff {α : Type} {request : Request} {value : Except Json.ReadError α} {a : α} :
    (decode request value).result = .ok a ↔ value = .ok a := by
  rw [decode, Attempt.result_ofExcept, mapError_eq_ok_iff, mapError_eq_ok_iff]

/-- What is asked for is read exactly if the request can be made and is answered with it. -/
theorem read_eq_ok_iff {α : Type} {read : String → Except Json.ReadError α}
    {request : Except HttpError Request} {value : α} :
    (exchange server request >>= fun (r, response) => decode r (read response.content)).result =
      .ok value ↔ ∃ r, request = .ok r ∧ Answers server read r value := by
  rw [Attempt.result_bind_eq_ok_iff]
  constructor
  · rintro ⟨⟨r, response⟩, hexchange, hdecode⟩
    obtain ⟨hr, hresponse, hsuccess⟩ := exchange_eq_ok_iff.mp hexchange
    exact ⟨r, hr, response, hresponse, hsuccess, decode_eq_ok_iff.mp hdecode⟩
  · rintro ⟨r, hr, response, hresponse, hsuccess, hread⟩
    exact ⟨(r, response), exchange_eq_ok_iff.mpr ⟨hr, hresponse, hsuccess⟩,
      decode_eq_ok_iff.mpr hread⟩

/-- A server with an answer for each of some addresses. -/
def serverOf (routes : List (String × Response)) : Server := fun r =>
  .ok ((routes.lookup r.url.render).getD ⟨404, ""⟩)

/-- A request to an address can be made, and has the answer of this address. -/
theorem serverOf_answer (routes : List (String × Response))
    {request : Except HttpError Request} {address : String} {response : Response}
    (haddress : request.toOption.map (·.url.render) = some address)
    (hroute : routes.lookup address = some response) :
    ∃ r, request = .ok r ∧ serverOf routes r = .ok response := by
  cases request with
  | error e => cases haddress
  | ok r =>
    have hr : r.url.render = address := Option.some.inj haddress
    refine ⟨r, rfl, congrArg Except.ok ?_⟩
    rw [hr, hroute, Option.getD_some]

/-! ## Pages -/

theorem readPage_eq_ok_iff {page : Nat} {data : Page} :
    (readPage server base token page).result = .ok data ↔
      ∃ r, documentRequest token (pageAddress base page) = .ok r ∧
        Answers server Page.shape.ofText r data :=
  read_eq_ok_iff

/-- From one page on, a server lists collections in so many pages. Each but the last announces that
another one follows. -/
inductive Lists (server : Server) (base token : String) : Nat → List (List Json) → Prop
  | last {page : Nat} {r : Request} {data : Page} :
    documentRequest token (pageAddress base page) = .ok r →
      Answers server Page.shape.ofText r data → data.totalPages.toNat ≤ page →
        Lists server base token page [data.items]
  | more {page : Nat} {r : Request} {data : Page} {rest : List (List Json)} :
    documentRequest token (pageAddress base page) = .ok r →
      Answers server Page.shape.ofText r data → page < data.totalPages.toNat →
        Lists server base token (page + 1) rest →
          Lists server base token page (data.items :: rest)

theorem listFrom_eq (server : Server) (base token : String) (page : Nat) :
    listFrom server base token page = (do
      let data ← readPage server base token page
      if page < data.totalPages.toNat then
        let rest ← listFrom server base token (page + 1)
        return data.items ++ rest
      else return data.items) := by
  fun_cases listFrom server base token page
  rfl

theorem result_listFrom {page : Nat} {pages : List (List Json)}
    (h : Lists server base token page pages) :
    (listFrom server base token page).result = .ok pages.flatten := by
  induction h with
  | last hr hanswer hlast =>
    rw [listFrom_eq, Attempt.result_bind_of_ok (readPage_eq_ok_iff.mpr ⟨_, hr, hanswer⟩),
      if_neg (by omega)]
    simp
  | more hr hanswer hmore hrest ih =>
    rw [listFrom_eq, Attempt.result_bind_of_ok (readPage_eq_ok_iff.mpr ⟨_, hr, hanswer⟩),
      if_pos hmore, Attempt.result_bind_of_ok ih]
    simp

/-! ## Details -/

theorem readDetail_eq_ok_iff {name : String} {document : Json} :
    (readDetail server base token name).result = .ok document ↔
      ∃ r, documentRequest token (detailAddress base name) = .ok r ∧
        Answers server Json.parse r document :=
  read_eq_ok_iff

theorem outcome_eq_ok_iff {f : Fetching} {place : Nat} {name : String} {document : Json} :
    f.outcome base token place name = .ok document ↔
      ∃ r, documentRequest token (detailAddress base name) = .ok r ∧
        Answers (f.server place) Json.parse r document := by
  rw [← readDetail_eq_ok_iff, Fetching.outcome, detailResult]
  split <;> simp_all

end SchemaGen.Source.Remote
