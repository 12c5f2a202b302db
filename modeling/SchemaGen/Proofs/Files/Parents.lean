import SchemaGen.Files.Path
import SchemaGen.Proofs.Text.Lines

/-! # Parents of paths

A parent is cut out of its path before the last piece that names something. So its names stand at
the start of those of the path (`names_of_parent?`), and it starts where the path does
(`isAbsolute_of_parent?`). Both hold of all that the parents of parents lead to
(`names_of_ancestorsWithin`).
-/

namespace SchemaGen.Files.Path

set_option autoImplicit false

open SchemaGen.Text

/-! ## Pieces of a path -/

/-- What stands before the names of a path. -/
def lead (path : String) : List Char := path.toList.take (leadLength path.toList)

/-- What follows it. -/
def body (path : String) : List Char := path.toList.drop (leadLength path.toList)

/-- Pieces that are names. -/
def isNamed (piece : List Char) : Bool := !piece.isEmpty

theorem lead_append_body (path : String) : lead path ++ body path = path.toList :=
  List.take_append_drop ..

theorem eq_dropIdle_append (parts : List (List Char)) :
    ∃ idle, parts = dropIdle parts ++ idle := by
  refine ⟨(parts.reverse.takeWhile isIdle).reverse, ?_⟩
  rw [dropIdle, ← List.reverse_append, List.takeWhile_append_dropWhile, List.reverse_reverse]

theorem isIdle_of_dropIdle {parts outer : List (List Char)} {last : List Char}
    (h : (dropIdle parts).reverse = last :: outer) : isIdle last = false := by
  rw [dropIdle, List.reverse_reverse] at h
  have hhead := List.head?_dropWhile_not isIdle parts.reverse
  rw [h] at hhead
  simpa using hhead

theorem filter_pieces_joinWith {parts : List (List Char)} (h : ∀ part ∈ parts, '/' ∉ part) :
    (pieces isSlash (joinWith '/' parts)).filter isNamed = parts.filter isNamed := by
  by_cases hne : parts = []
  · subst hne
    rfl
  · exact congrArg _ (pieces_joinWith hne h)

theorem slash_not_mem {cs piece : List Char} (h : piece ∈ pieces isSlash cs) : '/' ∉ piece := by
  intro hslash
  have hsep := (exists_mem_pieces_iff.mp ⟨piece, h, hslash⟩).2
  cases hsep

theorem lead_cases (path : String) : lead path = [] ∨ lead path = ['/'] ∨
    lead path = ['.'] ∧ ∃ rest, pieces isSlash (body path) = [] :: rest := by
  unfold lead body leadLength
  split
  · next h => exact .inr (.inl (by rw [h]; rfl))
  · next h => exact .inr (.inr ⟨by rw [h]; rfl, [], by rw [h]; rfl⟩)
  · next rest h => exact .inr (.inr ⟨by rw [h]; rfl, pieces isSlash rest, by rw [h]; rfl⟩)
  · exact .inl rfl

/-- The names of joined pieces, behind the lead of a path: of the lead first, then of the pieces. A
lone dot at the start is a name; after it comes a slash, so that the first piece is empty. -/
theorem pieces_lead (path : String) : ∃ first, ∀ kept, kept <+: pieces isSlash (body path) →
    (pieces isSlash (lead path ++ joinWith '/' kept)).filter isNamed =
      first ++ kept.filter isNamed := by
  have hslash : ∀ kept, kept <+: pieces isSlash (body path) → ∀ part ∈ kept, '/' ∉ part :=
    fun kept hkept part hpart => slash_not_mem (hkept.subset hpart)
  rcases lead_cases path with hlead | hlead | ⟨hlead, rest, hbody⟩ <;> rw [hlead]
  · exact ⟨[], fun kept hkept => filter_pieces_joinWith (hslash kept hkept)⟩
  · refine ⟨[], fun kept hkept => ?_⟩
    have hopen : pieces isSlash (['/'] ++ joinWith '/' kept) =
        [] :: pieces isSlash (joinWith '/' kept) := rfl
    rw [hopen, List.filter_cons_of_neg (by decide), filter_pieces_joinWith (hslash kept hkept)]
    rfl
  · refine ⟨[['.']], fun kept hkept => ?_⟩
    cases kept with
    | nil => rfl
    | cons part more =>
      have hmore : ∀ p ∈ more, '/' ∉ p := fun p hp => hslash _ hkept p (List.mem_cons_of_mem _ hp)
      rw [hbody] at hkept
      obtain ⟨rfl, -⟩ := List.cons_prefix_cons.mp hkept
      cases more with
      | nil => rfl
      | cons next more =>
        have hopen : pieces isSlash (['.'] ++ joinWith '/' ([] :: next :: more)) =
            ['.'] :: pieces isSlash (joinWith '/' (next :: more)) :=
          pieces_append isSlash rfl ['.'] _
        rw [hopen, List.filter_cons_of_pos (by decide), filter_pieces_joinWith hmore]
        rfl

/-! ## Parents -/

/-- A parent keeps the pieces before the last that is not idle. -/
theorem parent?_eq_some {path parent : String} (h : parent? path = some parent)
    (hne : parent ≠ "") : ∃ kept inner, pieces isSlash (body path) = kept ++ inner ∧
      (∃ piece ∈ inner, isIdle piece = false) ∧
        parent.toList = lead path ++ joinWith '/' kept := by
  unfold parent? at h
  dsimp only at h
  split at h
  · split at h
    · exact absurd (Option.some.inj h).symm hne
    · cases h
  · next last outer houter =>
    have hwhole : dropIdle (pieces isSlash (body path)) = outer.reverse ++ [last] := by
      rw [← List.reverse_reverse (dropIdle _), ← List.reverse_cons]
      exact congrArg List.reverse houter
    obtain ⟨behind, hbehind⟩ := eq_dropIdle_append (pieces isSlash (body path))
    obtain ⟨idle, hidle⟩ := eq_dropIdle_append outer.reverse
    refine ⟨dropIdle outer.reverse, idle ++ [last] ++ behind, ?_,
      ⟨last, by simp, isIdle_of_dropIdle houter⟩, ?_⟩
    · rw [hbehind, hwhole]
      simp only [← List.append_assoc, ← hidle]
    · rw [← Option.some.inj h, String.toList_ofList]
      rfl

/-- The names of a parent stand before those that lead on from it. -/
theorem names_of_parent? {path parent : String} (h : parent? path = some parent)
    (hne : parent ≠ "") :
    ∃ inner, names path = names parent ++ inner ∧ ∃ name ∈ inner, name ≠ "." := by
  obtain ⟨kept, inner, hpieces, ⟨last, hmem, hlast⟩, hparent⟩ := parent?_eq_some h hne
  obtain ⟨first, hfirst⟩ := pieces_lead path
  have hbody : joinWith '/' (kept ++ inner) = body path := by
    rw [← hpieces]
    exact joinWith_pieces '/' (body path)
  have hpath := hfirst (kept ++ inner) (hpieces ▸ List.prefix_refl _)
  rw [hbody, lead_append_body, List.filter_append, ← List.append_assoc] at hpath
  have hkept := hfirst kept (hpieces ▸ List.prefix_append ..)
  rw [← hparent] at hkept
  refine ⟨(inner.filter isNamed).map String.ofList, ?_, String.ofList last, ?_, ?_⟩
  · change ((pieces isSlash path.toList).filter isNamed).map String.ofList = _
    rw [hpath, ← hkept, List.map_append]
    rfl
  · refine List.mem_map_of_mem (List.mem_filter.mpr ⟨hmem, ?_⟩)
    unfold isIdle at hlast
    simpa [isNamed] using (Bool.or_eq_false_iff.mp hlast).1
  · intro hdot
    have hidle : last = ['.'] := by
      rw [← String.toList_ofList (l := last), hdot]
      rfl
    rw [hidle] at hlast
    cases hlast

/-- A parent starts at the root where its path does. -/
theorem isAbsolute_of_parent? {path parent : String} (h : parent? path = some parent)
    (hne : parent ≠ "") : isAbsolute parent = isAbsolute path := by
  obtain ⟨kept, inner, hpieces, -, hparent⟩ := parent?_eq_some h hne
  have hstart : parent.toList <+: path.toList := by
    have hbody : joinWith '/' kept <+: body path := by
      rw [← joinWith_pieces '/' (body path)]
      exact joinWith_isPrefix (hpieces ▸ List.prefix_append ..)
    rw [hparent, ← lead_append_body path]
    exact (List.prefix_append_right_inj _).mpr hbody
  obtain ⟨rest, hrest⟩ := hstart
  have hnonempty : parent.toList ≠ [] := fun hnil => hne (String.toList_eq_nil_iff.mp hnil)
  rw [isAbsolute, isAbsolute, ← hrest, List.head?_append_of_ne_nil _ hnonempty]

/-! ## Ancestors -/

/-- The names of each ancestor stand at the start of the path. -/
theorem names_of_ancestorsWithin {fuel : Nat} {path ancestor : String}
    (h : ancestor ∈ ancestorsWithin fuel path) : ancestor ≠ "" ∧
      isAbsolute ancestor = isAbsolute path ∧ names ancestor <+: names path := by
  induction fuel generalizing path with
  | zero => cases h
  | succ fuel ih =>
    unfold ancestorsWithin at h
    split at h
    · cases h
    next hne =>
    have hself : ancestor = path → ancestor ≠ "" ∧ isAbsolute ancestor = isAbsolute path ∧
        names ancestor <+: names path := by
      rintro rfl
      exact ⟨hne, rfl, List.prefix_refl _⟩
    split at h
    · exact hself (List.mem_singleton.mp h)
    · next parent hparent =>
      rcases List.mem_cons.mp h with hsame | hrest
      · exact hself hsame
      · obtain ⟨hancestor, habsolute, hnames⟩ := ih hrest
        have hparentNe : parent ≠ "" := by
          rintro rfl
          cases fuel <;> cases hrest
        obtain ⟨inner, hinner, -⟩ := names_of_parent? hparent hparentNe
        refine ⟨hancestor, habsolute.trans (isAbsolute_of_parent? hparent hparentNe), ?_⟩
        exact hnames.trans (hinner ▸ List.prefix_append ..)

end SchemaGen.Files.Path
