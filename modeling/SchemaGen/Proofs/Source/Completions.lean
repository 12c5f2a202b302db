import Mathlib.Data.List.Nodup
import Mathlib.Data.List.Perm.Basic
import SchemaGen.Proofs.Source.Attempt
import SchemaGen.Source.Remote

/-! # Details in any order

The requests for details run side by side and end in any order. Each has a place of its own, so that
a completion writes where no other does and leaves the rest as it was (`getElem?_settle_self`,
`getElem?_settle_ne`). After all of them each place holds what its own request has brought, whatever
the order was (`settleAll_eq`).
-/

namespace SchemaGen.Source.Remote

set_option autoImplicit false

open SchemaGen.Schema SchemaGen.Web

/-! ## Requests for details -/

theorem mem_errands {summaries : List Json} {place : Nat} {name : String} :
    (place, name) ∈ errands summaries ↔
      ∃ summary, summaries[place]? = some summary ∧ requestName? summary = some name := by
  rw [errands, List.mem_filterMap]
  constructor
  · rintro ⟨⟨summary, i⟩, hmem, h⟩
    obtain ⟨n, hn, heq⟩ := Option.map_eq_some_iff.mp h
    cases heq
    exact ⟨summary, List.mem_zipIdx_iff_getElem?.mp hmem, hn⟩
  · rintro ⟨summary, hmem, hn⟩
    exact ⟨(summary, place), List.mem_zipIdx_iff_getElem?.mpr hmem, by simp [hn]⟩

/-- No two requests are made for one place. -/
theorem nodup_errands (summaries : List Json) : ((errands summaries).map (·.1)).Nodup := by
  have hplaces : summaries.zipIdx.Pairwise fun a b => a.2 ≠ b.2 := by
    rw [← List.pairwise_map, List.zipIdx_map_snd]
    exact List.nodup_range'
  rw [List.Nodup, List.pairwise_map, errands, List.pairwise_filterMap]
  refine hplaces.imp fun {a b} hne x hx y hy => ?_
  obtain ⟨-, -, rfl⟩ := Option.map_eq_some_iff.mp hx
  obtain ⟨-, -, rfl⟩ := Option.map_eq_some_iff.mp hy
  exact hne

variable {outcome : Nat → String → Except SourceError Json} {summaries : List Json}
  {details : List (Option Json)} {done : List Completion}

theorem mem_completions {c : Completion} : c ∈ completions outcome summaries ↔
    (c.place, c.name) ∈ errands summaries ∧ c.result = outcome c.place c.name := by
  obtain ⟨place, name, result⟩ := c
  rw [completions, List.mem_map]
  constructor
  · rintro ⟨⟨i, n⟩, hmem, heq⟩
    cases heq
    exact ⟨hmem, rfl⟩
  · rintro ⟨hmem, hresult⟩
    exact ⟨(place, name), hmem, congrArg (Completion.mk place name) hresult.symm⟩

theorem nodup_completions (h : done.Perm (completions outcome summaries)) :
    (done.map (·.place)).Nodup := by
  have hplaces : (completions outcome summaries).map (·.place) =
      (errands summaries).map (·.1) := by
    rw [completions, List.map_map]
    rfl
  rw [(h.map _).nodup_iff, hplaces]
  exact nodup_errands summaries

theorem place_lt_length (h : done.Perm (completions outcome summaries)) {c : Completion}
    (hc : c ∈ done) : c.place < summaries.length := by
  obtain ⟨summary, hsummary, -⟩ := mem_errands.mp (mem_completions.mp (h.subset hc)).1
  exact (List.getElem?_eq_some_iff.mp hsummary).1

/-! ## One completion -/

/-- What a completion brings for its place. -/
def Completion.detail? (c : Completion) : Option Json :=
  match c.result with
  | .ok document => some (withFieldList document)
  | .error _ => none

@[simp] theorem length_settle (details : List (Option Json)) (c : Completion) :
    (settle details c).length = details.length := by
  unfold settle
  split
  · exact List.length_set
  · rfl

/-- A completion leaves all other places as they are. -/
theorem getElem?_settle_ne {c : Completion} {place : Nat} (h : c.place ≠ place) :
    (settle details c)[place]? = details[place]? := by
  unfold settle
  split
  · exact List.getElem?_set_ne h
  · rfl

/-- A completion puts what it brings into its place, where nothing was before. -/
theorem getElem?_settle_self {c : Completion} (h : details[c.place]? = some none) :
    (settle details c)[c.place]? = some c.detail? := by
  have hlt : c.place < details.length := (List.getElem?_eq_some_iff.mp h).1
  cases hresult : c.result with
  | ok document =>
    simp only [settle, Completion.detail?, hresult]
    exact List.getElem?_set_self hlt
  | error e =>
    simp only [settle, Completion.detail?, hresult]
    exact h

/-! ## All completions -/

@[simp] theorem length_foldl_settle (done : List Completion) (details : List (Option Json)) :
    (done.foldl settle details).length = details.length := by
  induction done generalizing details with
  | nil => rfl
  | cons c rest ih => rw [List.foldl_cons, ih, length_settle]

theorem getElem?_foldl_settle_of_ne {place : Nat} (h : ∀ c ∈ done, c.place ≠ place) :
    (done.foldl settle details)[place]? = details[place]? := by
  induction done generalizing details with
  | nil => rfl
  | cons c rest ih =>
    rw [List.foldl_cons, ih fun d hd => h d (List.mem_cons_of_mem c hd)]
    exact getElem?_settle_ne (h c (List.mem_cons_self ..))

theorem getElem?_foldl_settle_of_mem (hnodup : (done.map (·.place)).Nodup) {c : Completion}
    (hc : c ∈ done) (h : details[c.place]? = some none) :
    (done.foldl settle details)[c.place]? = some c.detail? := by
  induction done generalizing details with
  | nil => cases hc
  | cons d rest ih =>
    obtain ⟨hd, hrest⟩ := List.nodup_cons.mp hnodup
    have hother : ∀ e ∈ rest, e.place ≠ d.place :=
      fun e he heq => hd (List.mem_map.mpr ⟨e, he, heq⟩)
    rw [List.foldl_cons]
    rcases List.mem_cons.mp hc with rfl | hc
    · -- The completion is the first of all, and none of the others writes to its place.
      rw [getElem?_foldl_settle_of_ne hother]
      exact getElem?_settle_self h
    · refine ih hrest hc ?_
      rw [getElem?_settle_ne (hother c hc).symm]
      exact h

/-- What is known in the end about the summary at a place. -/
def foundFor (outcome : Nat → String → Except SourceError Json) (summary : Json) (place : Nat) :
    Option Json :=
  (requestName? summary).bind fun name => (Completion.mk place name (outcome place name)).detail?

/-- The details do not depend on the order of the completions: each place holds what the request
for its own summary has brought. -/
theorem settleAll_eq (h : done.Perm (completions outcome summaries)) :
    settleAll summaries done =
      summaries.zipIdx.map fun (summary, place) => foundFor outcome summary place := by
  apply List.ext_getElem?
  intro place
  rw [List.getElem?_map, List.getElem?_zipIdx]
  cases hsummary : summaries[place]? with
  | none =>
    have hlength : (settleAll summaries done).length ≤ place := by
      simpa [settleAll] using hsummary
    simpa using hlength
  | some summary =>
    have hplace : place < summaries.length := (List.getElem?_eq_some_iff.mp hsummary).1
    have hstart : (List.replicate summaries.length (none : Option Json))[place]? = some none :=
      List.getElem?_replicate_of_lt hplace
    simp only [Option.map_some, Nat.zero_add]
    cases hname : requestName? summary with
    | none =>
      have hother : ∀ c ∈ done, c.place ≠ place := by
        rintro c hc rfl
        obtain ⟨other, hother, hsome⟩ := mem_errands.mp (mem_completions.mp (h.subset hc)).1
        rw [hsummary, Option.some.injEq] at hother
        rw [← hother, hname] at hsome
        cases hsome
      rw [settleAll, getElem?_foldl_settle_of_ne hother, hstart, foundFor, hname, Option.bind_none]
    | some name =>
      have hc : Completion.mk place name (outcome place name) ∈ done :=
        h.mem_iff.mpr (mem_completions.mpr ⟨mem_errands.mpr ⟨summary, hsummary, hname⟩, rfl⟩)
      rw [foundFor, hname, Option.bind_some]
      exact getElem?_foldl_settle_of_mem (nodup_completions h) hc hstart

end SchemaGen.Source.Remote
