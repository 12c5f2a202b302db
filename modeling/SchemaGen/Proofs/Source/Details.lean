import SchemaGen.Proofs.Source.Completions
import SchemaGen.Proofs.Traversal

/-! # What a listing comes to

Fetching details describes each summary by its own document, or by itself where there is none
(`describeAll_settleAll`), and warns once of each request that fails (`filterMap_notice?_perm`). Neither
depends on the order in which the requests end, nor does the whole of listing
(`listing_in_any_order`).
-/

namespace SchemaGen.Source.Remote

set_option autoImplicit false

open SchemaGen.Schema SchemaGen.Web

variable {outcome : Nat → String → Except SourceError Json} {summaries : List Json}
  {done : List Completion}

/-! ## Descriptions -/

/-- What describes the summary at a place: the document that its own request has brought, else the
summary. -/
def presented (outcome : Nat → String → Except SourceError Json) (summary : Json) (place : Nat) :
    Json :=
  match requestName? summary with
  | none => summary
  | some name =>
    match outcome place name with
    | .ok document => withFieldList document
    | .error _ => summary

/-- The collections of a listing, in its order. -/
def described (outcome : Nat → String → Except SourceError Json) (summaries : List Json) :
    Except SourceError (List Collection) :=
  (summaries.zipIdx.mapM fun (summary, place) =>
    Collection.ofJson (presented outcome summary place)).mapError .schema

theorem getD_foundFor (summary : Json) (place : Nat) :
    (foundFor outcome summary place).getD summary = presented outcome summary place := by
  cases hname : requestName? summary with
  | none => simp only [foundFor, presented, hname, Option.bind_none, Option.getD_none]
  | some name =>
    cases hend : outcome place name <;>
      simp [foundFor, presented, hname, hend, Completion.detail?]

theorem describeAll_settleAll (h : done.Perm (completions outcome summaries)) :
    describeAll summaries (settleAll summaries done) = described outcome summaries := by
  have hzip : summaries.zip (settleAll summaries done) = summaries.zipIdx.map fun p =>
      (p.1, foundFor outcome p.1 p.2) := by
    rw [settleAll_eq h]
    conv_lhs => lhs; rw [← List.zipIdx_map_fst 0 summaries]
    exact List.zip_map'
  rw [describeAll, hzip, List.mapM_map, described, ← mapM_mapError]
  congr 1
  funext p
  exact congrArg (fun v => (Collection.ofJson v).mapError SourceError.schema)
    (getD_foundFor p.1 p.2)

/-! ## Places -/

/-- Each completion finds its place among the details when its turn comes. -/
theorem place_lt_length_settled (h : done.Perm (completions outcome summaries))
    {before after : List Completion} {c : Completion} (hdone : done = before ++ c :: after) :
    c.place < (before.foldl settle (List.replicate summaries.length none)).length := by
  rw [length_foldl_settle, List.length_replicate]
  exact place_lt_length h (by simp [hdone])

/-! ## Warnings -/

/-- One notice for each request that fails. -/
def failures (outcome : Nat → String → Except SourceError Json) (summaries : List Json) :
    List Notice :=
  (errands summaries).filterMap fun (place, name) =>
    match outcome place name with
    | .ok _ => none
    | .error e => some (.detailFailed name e.message)

theorem filterMap_notice?_perm (h : done.Perm (completions outcome summaries)) :
    (done.filterMap Completion.notice?).Perm (failures outcome summaries) := by
  have hfailures : (completions outcome summaries).filterMap Completion.notice? =
      failures outcome summaries := by
    rw [completions, List.filterMap_map]
    rfl
  exact hfailures ▸ h.filterMap Completion.notice?

/-- The warnings among notices. -/
def warnings (notices : List Notice) : List Notice := notices.filter (·.level == .warn)

@[simp] theorem warnings_append (a b : List Notice) :
    warnings (a ++ b) = warnings a ++ warnings b := List.filter_append ..

theorem warnings_filterMap_notice? (done : List Completion) :
    warnings (done.filterMap Completion.notice?) = done.filterMap Completion.notice? := by
  refine List.filter_eq_self.mpr fun n hn => ?_
  obtain ⟨c, -, hc⟩ := List.mem_filterMap.mp hn
  unfold Completion.notice? at hc
  split at hc <;> cases hc
  rfl

/-- No warning is given. -/
def Quiet {α : Type} (x : Attempt α) : Prop := warnings x.notices = []

theorem Quiet.bind {α β : Type} {x : Attempt α} {f : α → Attempt β} (hx : Quiet x)
    (hf : ∀ a, Quiet (f a)) : Quiet (x >>= f) := by
  unfold Quiet at hx ⊢
  cases h : x.result with
  | error e => rw [Attempt.bind_of_error h, hx]
  | ok a => rw [Attempt.bind_of_ok h, warnings_append, hx, hf a, List.append_nil]

/-- An exchange tells of a request that failed, but leaves it to others to warn of it. -/
theorem quiet_exchange (server : Server) (request : Except HttpError Request) :
    Quiet (exchange server request) := by
  refine Quiet.bind rfl fun r => Quiet.bind rfl fun _ => ?_
  cases server r with
  | error cause => exact rfl
  | ok response =>
    dsimp only
    split
    · exact rfl
    · exact Quiet.bind rfl fun _ => rfl

theorem quiet_listFrom (server : Server) (base token : String) (page : Nat) :
    Quiet (listFrom server base token page) := by
  fun_induction listFrom server base token page with
  | case1 page attempt ih =>
    have hpage : Quiet (readPage server base token page) :=
      (quiet_exchange ..).bind fun _ => rfl
    refine Quiet.bind hpage fun data => ?_
    split
    · next hmore => exact Quiet.bind (ih data hmore) fun _ => rfl
    · exact rfl

theorem quiet_readDetail (server : Server) (base token name : String) :
    Quiet (readDetail server base token name) :=
  (quiet_exchange ..).bind fun _ => rfl

/-! ## Listing -/

variable (server : Server) (f : Fetching) (base token : String)

theorem result_listCollectionsBy :
    (listCollectionsBy server f base token).result =
      (listSummaries server base token).result >>= fun summaries =>
        (described (f.outcome base token) summaries).mapError .failed := by
  rw [listCollectionsBy, Attempt.result_bind]
  congr 1
  funext summaries
  rw [← describeAll_settleAll (f.arrange_perm _)]
  rfl

theorem result_of_listed (hlisting : (listSummaries server base token).result = .ok summaries) :
    (listCollectionsBy server f base token).result =
      (described (f.outcome base token) summaries).mapError .failed := by
  rw [result_listCollectionsBy, hlisting]
  rfl

theorem warnings_listCollectionsBy_of_error {e : Stop}
    (h : (listSummaries server base token).result = .error e) :
    warnings (listCollectionsBy server f base token).notices = [] := by
  rw [listCollectionsBy, Attempt.bind_of_error h]
  exact quiet_listFrom server base token 1

theorem warnings_listCollectionsBy (h : (listSummaries server base token).result = .ok summaries) :
    warnings (listCollectionsBy server f base token).notices =
      (f.arrange (completions (f.outcome base token) summaries)).filterMap
        Completion.notice? := by
  have hlisting : warnings (listSummaries server base token).notices = [] :=
    quiet_listFrom server base token 1
  have hdetails : warnings (((errands summaries).map fun (place, name) =>
      readDetail (f.server place) base token name).flatMap (·.notices)) = [] := by
    rw [warnings, List.filter_flatMap, List.flatMap_eq_nil_iff]
    intro x hx
    obtain ⟨⟨place, name⟩, -, rfl⟩ := List.mem_map.mp hx
    exact quiet_readDetail (f.server place) base token name
  rw [listCollectionsBy, Attempt.bind_of_ok h, warnings_append, hlisting, List.nil_append]
  -- What is left are the notices of the details themselves, and those of the requests are quiet.
  set done := f.arrange (completions (f.outcome base token) summaries)
  show warnings ([.listed summaries.length] ++ ((_ ++ done.filterMap _) ++ [])) = _
  rw [List.append_nil, warnings_append, warnings_append, hdetails, warnings_filterMap_notice?]
  rfl

/-- In whatever order the requests for details end, the collections are those of the summaries in
the order of the listing, each with its own details or else as listed. Each completion has a place
to write to, and there is one warning for each request that fails. -/
theorem listing_in_any_order :
    (∀ (outcome : Nat → String → Except SourceError Json) (summaries : List Json)
      (done : List Completion), done.Perm (completions outcome summaries) →
        describeAll summaries (settleAll summaries done) = described outcome summaries ∧
        (∀ before c after, done = before ++ c :: after →
          c.place < (before.foldl settle (List.replicate summaries.length none)).length) ∧
        (done.filterMap Completion.notice?).Perm (failures outcome summaries)) ∧
    ∀ (server : Server) (f : Fetching) (base token : String),
      (listCollectionsBy server f base token).result =
        ((listSummaries server base token).result >>= fun summaries =>
          (described (f.outcome base token) summaries).mapError .failed) ∧
      (warnings (listCollectionsBy server f base token).notices).Perm
        (match (listSummaries server base token).result with
        | .ok summaries => failures (f.outcome base token) summaries
        | .error _ => []) := by
  refine ⟨fun outcome summaries done h => ⟨describeAll_settleAll h, fun before c after hdone =>
    place_lt_length_settled h hdone, filterMap_notice?_perm h⟩, fun server f base token =>
    ⟨result_listCollectionsBy server f base token, ?_⟩⟩
  cases hlisting : (listSummaries server base token).result with
  | error e => rw [warnings_listCollectionsBy_of_error server f base token hlisting]
  | ok summaries =>
    rw [warnings_listCollectionsBy server f base token hlisting]
    exact filterMap_notice?_perm (f.arrange_perm _)

/-- A listing of three: details of the first come, the second has no name, and the request for the
third fails, before that for the first has ended. -/
theorem listing_of_three :
    let first : Json := .object [("name", .string "a")]
    let unnamed : Json := .object [("type", .string "auth")]
    let last : Json := .object [("name", .string "c")]
    let outcome (place : Nat) (_ : String) : Except SourceError Json :=
      if place = 0 then .ok (.object [("fields", .null), ("name", .string "A")])
      else .error (.status 404 "")
    let done : List Completion :=
      [⟨2, "c", .error (.status 404 "")⟩,
        ⟨0, "a", .ok (.object [("fields", .null), ("name", .string "A")])⟩]
    done.Perm (completions outcome [first, unnamed, last]) ∧
      describeAll [first, unnamed, last] (settleAll [first, unnamed, last] done) =
        .ok [⟨"A", .base, some []⟩, ⟨"", .auth, none⟩, ⟨"c", .base, none⟩] := by
  intro first unnamed last outcome done
  have hdone : done.Perm (completions outcome [first, unnamed, last]) := .swap ..
  exact ⟨hdone, (listing_in_any_order.1 outcome _ done hdone).1.trans rfl⟩

end SchemaGen.Source.Remote
