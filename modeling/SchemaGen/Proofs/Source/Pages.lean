import Mathlib.Data.List.Nodup
import SchemaGen.Proofs.Source.Exchanges
import SchemaGen.Proofs.Web.Endings

/-! # Listings page by page

A server may announce another number of pages with each page. The listing goes on until a page fails
or announces no further one (`Closes`), and the first such page comes before the numbers of pages
run out (`exists_closesAt`). The requests are those of the pages up to this one, each once
(`requests_listFrom`, `nodup_requests`), and the result is what these pages hold one after another
(`result_listFrom_of_closesAt`).
-/

namespace SchemaGen.Source.Remote

set_option autoImplicit false

open SchemaGen.Schema SchemaGen.Web

variable {server : Server} {base token : String}

/-! ## Requests for pages -/

/-- The end of a page's address, which tells pages apart. -/
def pageMark (page : Nat) : List Char :=
  "page".toList ++ ('=' :: Nat.toDigits 10 page ++ "&perPage=200".toList)

theorem suffix_pageAddress (base : String) (page : Nat) :
    '?' :: pageMark page <:+ (pageAddress base page).toList := by
  refine ⟨base.toList ++ "/api/collections".toList, ?_⟩
  have hsize : "&perPage=200".toList = "&perPage=".toList ++ Nat.toDigits 10 pageSize := by decide
  simp [pageAddress, pageMark, hsize]

theorem isInert_of_mem_pageMark {page : Nat} : ∀ c ∈ pageMark page, isInert c = true := by
  intro c hc
  have hname : "page".toList.all isInert = true := by decide
  have hend : "&perPage=200".toList.all isInert = true := by decide
  simp only [pageMark, List.mem_append, List.mem_cons] at hc
  rcases hc with hc | (rfl | hc) | hc
  · exact List.all_eq_true.mp hname c hc
  · rfl
  · have hdigit := Nat.isDigit_of_mem_toDigits (by decide) (by decide) hc
    simp [isInert, Char.isAlphanum, hdigit]
  · exact List.all_eq_true.mp hend c hc

theorem page_eq_of_suffix {p q : Nat} (h : '=' :: Nat.toDigits 10 p <:+ '=' :: Nat.toDigits 10 q) :
    p = q := by
  rcases List.suffix_cons_iff.mp h with heq | hdigits
  · have hvalue := congrArg (Nat.ofDigitChars 10 · 0) (List.cons.inj heq).2
    simpa only [Nat.ofDigitChars_ten_toDigits] using hvalue
  · have hmem : '=' ∈ Nat.toDigits 10 q := hdigits.subset (List.mem_cons_self ..)
    exact absurd (Nat.isDigit_of_mem_toDigits (by decide) (by decide) hmem) (by decide)

/-- No text ends in the marks of two pages. -/
theorem page_unique {p q : Nat} {cs : List Char} (hp : pageMark p <:+ cs) (hq : pageMark q <:+ cs) :
    p = q := by
  obtain ⟨front, hfront⟩ := hp
  obtain ⟨front', hfront'⟩ := hq
  have hboth := hfront.trans hfront'.symm
  simp only [pageMark, ← List.append_assoc] at hboth
  have hmarks := List.append_cancel_right hboth
  rcases List.suffix_or_suffix_of_suffix (List.suffix_append _ _) ⟨_, hmarks.symm⟩ with h | h
  · exact page_eq_of_suffix h
  · exact (page_eq_of_suffix h).symm

/-- Distinct pages are asked for with distinct requests. -/
theorem page_of_request {p q : Nat} {r : Request}
    (hp : documentRequest token (pageAddress base p) = .ok r)
    (hq : documentRequest token (pageAddress base q) = .ok r) : p = q :=
  page_unique
    (suffix_ending_of_prepare hp (suffix_pageAddress base p) isInert_of_mem_pageMark)
    (suffix_ending_of_prepare hq (suffix_pageAddress base q) isInert_of_mem_pageMark)

/-- The request for a page, if it can be made. -/
def pageRequest? (base token : String) (page : Nat) : Option Request :=
  (documentRequest token (pageAddress base page)).toOption

theorem requests_readPage (server : Server) (base token : String) (page : Nat) :
    (readPage server base token page).requests = (pageRequest? base token page).toList := by
  rw [pageRequest?, ← requests_exchange server, readPage]
  exact Attempt.requests_bind_of_none fun _ => rfl

/-! ## The page that closes a listing -/

/-- A page fails, or announces no further one. -/
def Closes (server : Server) (base token : String) (page : Nat) : Prop :=
  ∀ data, (readPage server base token page).result = .ok data → data.totalPages.toNat ≤ page

/-- From a first page on, the first that closes the listing. -/
structure ClosesAt (server : Server) (base token : String) (first last : Nat) : Prop where
  le : first ≤ last
  closes : Closes server base token last
  goesOn : ∀ page, first ≤ page → page < last → ¬Closes server base token page

theorem not_closes_iff {page : Nat} : ¬Closes server base token page ↔
    ∃ data, (readPage server base token page).result = .ok data ∧ page < data.totalPages.toNat := by
  simp [Closes]

/-- The listing ends before the numbers of pages do, as each announced number is one of them. -/
theorem exists_closesAt (server : Server) (base token : String) {first : Nat}
    (hfirst : first < 0x100000000) :
    ∃ last, last < 0x100000000 ∧ ClosesAt server base token first last := by
  by_cases hcloses : Closes server base token first
  · exact ⟨first, hfirst, Nat.le_refl first, hcloses, fun page hpage hlt => by omega⟩
  · obtain ⟨data, -, hmore⟩ := not_closes_iff.mp hcloses
    have hpages : data.totalPages.toNat < 0x100000000 := data.totalPages.toNat_lt
    have hnext : first + 1 < 0x100000000 := by omega
    obtain ⟨last, hlast, hclosesAt⟩ := exists_closesAt server base token hnext
    refine ⟨last, hlast, by have := hclosesAt.le; omega, hclosesAt.closes, ?_⟩
    intro page hpage hlt
    rcases Nat.eq_or_lt_of_le hpage with rfl | hlater
    · exact hcloses
    · exact hclosesAt.goesOn page hlater hlt
termination_by 0x100000000 - first
decreasing_by omega

/-- What holds at the closing page, and before each page that goes on if it holds after it, holds at
the first page. -/
theorem ClosesAt.induct {motive : Nat → Prop} {first last : Nat}
    (h : ClosesAt server base token first last)
    (stop : Closes server base token last → motive last)
    (goOn : ∀ page data, first ≤ page → page < last →
      (readPage server base token page).result = .ok data → page < data.totalPages.toNat →
        motive (page + 1) → motive page) : motive first := by
  refine Nat.decreasingInduction' (fun page hlt hpage ih => ?_) h.le (stop h.closes)
  obtain ⟨data, hdata, hmore⟩ := not_closes_iff.mp (h.goesOn page hpage hlt)
  exact goOn page data hpage hlt hdata hmore ih

/-! ## The listing up to that page -/

theorem listFrom_of_closes {page : Nat} (h : Closes server base token page) :
    listFrom server base token page =
      Page.items <$> readPage server base token page := by
  rw [listFrom_eq, map_eq_pure_bind]
  cases hpage : (readPage server base token page).result with
  | error e => rw [Attempt.bind_of_error hpage, Attempt.bind_of_error hpage]
  | ok data =>
    have hlast : ¬page < data.totalPages.toNat := Nat.not_lt.mpr (h data hpage)
    rw [Attempt.bind_of_ok hpage, Attempt.bind_of_ok hpage, if_neg hlast]

theorem listFrom_of_more {page : Nat} {data : Page}
    (hpage : (readPage server base token page).result = .ok data)
    (hmore : page < data.totalPages.toNat) :
    listFrom server base token page =
      readPage server base token page >>= fun data =>
        (data.items ++ ·) <$> listFrom server base token (page + 1) := by
  rw [listFrom_eq, Attempt.bind_of_ok hpage, Attempt.bind_of_ok hpage, if_pos hmore,
    map_eq_pure_bind]

theorem requests_listFrom {first last : Nat} (h : ClosesAt server base token first last) :
    (listFrom server base token first).requests =
      (List.range' first (last + 1 - first)).filterMap (pageRequest? base token) := by
  refine h.induct (motive := fun page => (listFrom server base token page).requests =
      (List.range' page (last + 1 - page)).filterMap (pageRequest? base token)) ?_ ?_
  · intro hcloses
    rw [listFrom_of_closes hcloses, Attempt.requests_map, requests_readPage,
      Nat.add_sub_cancel_left, List.range'_one, List.filterMap_cons]
    cases pageRequest? base token last <;> rfl
  · intro page data hfirst hlast hpage hmore ih
    have hcount : last + 1 - page = (last + 1 - (page + 1)) + 1 := by omega
    rw [listFrom_of_more hpage hmore, Attempt.bind_of_ok hpage, Attempt.requests_map, ih,
      requests_readPage, hcount, List.range'_succ, List.filterMap_cons]
    cases pageRequest? base token page <;> rfl

/-- What reading a page comes to. -/
def pageResult (server : Server) (base token : String) (page : Nat) : Except Stop Page :=
  (readPage server base token page).result

/-- The pages up to the closing one, one after another. -/
theorem result_listFrom_of_closesAt {first last : Nat} (h : ClosesAt server base token first last) :
    (listFrom server base token first).result =
      ((List.range' first (last + 1 - first)).mapM (pageResult server base token)).map
        (·.flatMap Page.items) := by
  refine h.induct (motive := fun page => (listFrom server base token page).result =
      ((List.range' page (last + 1 - page)).mapM (pageResult server base token)).map
        (·.flatMap Page.items)) ?_ ?_
  · intro hcloses
    rw [listFrom_of_closes hcloses, Attempt.result_map, Nat.add_sub_cancel_left, List.range'_one]
    cases hpage : (readPage server base token last).result with
    | error e =>
      rw [mapM_cons_of_error (f := pageResult server base token) hpage]
      rfl
    | ok data =>
      rw [mapM_cons_of_ok (f := pageResult server base token) hpage]
      exact congrArg Except.ok (List.append_nil data.items).symm
  · intro page data hfirst hlast hpage hmore ih
    have hcount : last + 1 - page = (last + 1 - (page + 1)) + 1 := by omega
    rw [listFrom_of_more hpage hmore, Attempt.result_bind_of_ok hpage, Attempt.result_map, ih,
      hcount, List.range'_succ, mapM_cons_of_ok (f := pageResult server base token) hpage]
    cases (List.range' (page + 1) (last + 1 - (page + 1))).mapM
      (pageResult server base token) <;> rfl

/-! ## Counting in words -/

theorem toNat_succ_of_lt {page total : UInt32} (h : page < total) :
    (page + 1).toNat = page.toNat + 1 := by
  have htotal : total.toNat < 2 ^ 32 := total.toNat_lt
  have hpage : page.toNat < total.toNat := UInt32.lt_iff_toNat_lt.mp h
  rw [UInt32.toNat_add, UInt32.toNat_one]
  exact Nat.mod_eq_of_lt (by omega)

/-- The listing with pages counted in words of 32 bits, which start over when they run out. -/
def listCounting (server : Server) (base token : String) (page : UInt32) : Attempt (List Json) :=
  readPage server base token page.toNat |>.andThen fun data =>
    if _h : page < data.totalPages then
      (listCounting server base token (page + 1)).andThen fun rest => pure (data.items ++ rest)
    else pure data.items
termination_by UInt32.size - page.toNat
decreasing_by
  have hnext := toNat_succ_of_lt _h
  have hlast := (page + 1).toNat_lt_size
  omega

/-- The words never run out. -/
theorem listCounting_eq (server : Server) (base token : String) (page : UInt32) :
    listCounting server base token page = listFrom server base token page.toNat := by
  fun_induction listCounting server base token page with
  | case1 page ih =>
    rw [listFrom_eq]
    show Attempt.andThen _ _ = Attempt.andThen _ _
    congr 1
    funext data
    by_cases hmore : page < data.totalPages
    · rw [dif_pos hmore, if_pos (UInt32.lt_iff_toNat_lt.mp hmore), ih data hmore,
        toNat_succ_of_lt hmore]
      rfl
    · rw [dif_neg hmore, if_neg (mt UInt32.lt_iff_toNat_lt.mpr hmore)]

/-! ## The whole listing -/

theorem nodup_requests {pages : List Nat} (h : pages.Nodup) :
    (pages.filterMap (pageRequest? base token)).Nodup :=
  h.filterMap fun _ _ _ hp hq => page_of_request (eq_ok_of_toOption hp) (eq_ok_of_toOption hq)

/-- The request for a page that goes on was made. -/
theorem isSome_pageRequest? {page : Nat} (h : ¬Closes server base token page) :
    (pageRequest? base token page).isSome := by
  obtain ⟨data, hdata, -⟩ := not_closes_iff.mp h
  obtain ⟨r, hr, -⟩ := readPage_eq_ok_iff.mp hdata
  simp [pageRequest?, hr, Except.toOption]

theorem exists_pageResult {page : Nat} (h : ¬Closes server base token page) :
    ∃ data, pageResult server base token page = .ok data := by
  obtain ⟨data, hdata, -⟩ := not_closes_iff.mp h
  exact ⟨data, hdata⟩

/-- Only the closing page may fail. -/
theorem ClosesAt.eq_of_error {first last page : Nat} {e : Stop}
    (h : ClosesAt server base token first last) (hfirst : first ≤ page) (hlast : page ≤ last)
    (herror : pageResult server base token page = .error e) : page = last := by
  by_contra hne
  obtain ⟨data, hdata⟩ := exists_pageResult (h.goesOn page hfirst (by omega))
  exact nomatch hdata.symm.trans herror

theorem mapM_pageResult_of_error {last : Nat} {e : Stop} (h : ClosesAt server base token 1 last)
    (he : pageResult server base token last = .error e) :
    (List.range' 1 last).mapM (pageResult server base token) = .error e := by
  have hlast : last ∈ List.range' 1 last := List.mem_range'_1.mpr ⟨h.le, by omega⟩
  refine mapM_eq_error hlast he fun page hpage e' he' => ?_
  obtain ⟨hfirst, hbound⟩ := List.mem_range'_1.mp hpage
  have hpage := h.eq_of_error hfirst (by omega) he'
  subst hpage
  exact Except.error.inj (he'.symm.trans he)

/-- Whatever a server answers to each request, pages are asked for one after another, each once, up
to the first that fails or announces none further. Words of 32 bits are enough to count them. What
they hold is listed in their order, unless the last one fails: then so does the listing, and no
details are asked for. -/
theorem listing_in_pages (server : Server) (base token : String) :
    listCounting server base token 1 = listSummaries server base token ∧
    ∃ last, last < UInt32.size ∧ ClosesAt server base token 1 last ∧
      (listSummaries server base token).requests =
        (List.range' 1 last).filterMap (pageRequest? base token) ∧
      (∀ page, 1 ≤ page → page < last → (pageRequest? base token page).isSome) ∧
      (listSummaries server base token).requests.Nodup ∧
      (∀ e, pageResult server base token last = .error e →
        (listSummaries server base token).result = .error e ∧
        ∀ f, (listCollectionsBy server f base token).result = .error e ∧
          (listCollectionsBy server f base token).requests =
            (listSummaries server base token).requests) ∧
      (∀ data, pageResult server base token last = .ok data →
        ∃ pages : List Page,
          List.Forall₂ (fun page data => pageResult server base token page = .ok data)
            (List.range' 1 last) pages ∧
          (listSummaries server base token).result = .ok (pages.flatMap Page.items)) := by
  have hfirst : 1 < 0x100000000 := by decide
  obtain ⟨last, hbound, hcloses⟩ := exists_closesAt server base token hfirst
  have hrequests := requests_listFrom hcloses
  have hresult := result_listFrom_of_closesAt hcloses
  rw [Nat.add_sub_cancel] at hrequests hresult
  refine ⟨listCounting_eq server base token 1, last, hbound, hcloses, hrequests, ?_, ?_, ?_, ?_⟩
  · intro page hfirst hlast
    exact isSome_pageRequest? (hcloses.goesOn page hfirst hlast)
  · rw [listSummaries, hrequests]
    exact nodup_requests List.nodup_range'
  · intro e he
    have hlisting : (listSummaries server base token).result = .error e := by
      rw [listSummaries, hresult, mapM_pageResult_of_error hcloses he]
      rfl
    refine ⟨hlisting, fun f => ?_⟩
    rw [listCollectionsBy, Attempt.bind_of_error hlisting]
    exact ⟨rfl, rfl⟩
  · intro data hdata
    obtain ⟨pages, hpages⟩ : ∃ pages,
        (List.range' 1 last).mapM (pageResult server base token) = .ok pages := by
      refine exists_mapM_eq_ok fun page hpage => ?_
      obtain ⟨hfirst, hlast⟩ := List.mem_range'_1.mp hpage
      rcases Nat.lt_or_ge page last with hbefore | hafter
      · exact exists_pageResult (hcloses.goesOn page hfirst hbefore)
      · obtain rfl : page = last := by omega
        exact ⟨data, hdata⟩
    refine ⟨pages, mapM_eq_ok_iff.mp hpages, ?_⟩
    rw [listSummaries, hresult, hpages]
    rfl

end SchemaGen.Source.Remote
