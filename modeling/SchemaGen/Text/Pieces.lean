/-! Cutting a text at separators, and joining pieces with a separator between them. -/

namespace SchemaGen.Text

set_option autoImplicit false

/-! ## Cutting -/

/-- The pieces between separators, empty ones included. There is always one more than separators. -/
def pieces (sep : Char → Bool) : List Char → List (List Char)
  | [] => [[]]
  | c :: cs =>
    if sep c then [] :: pieces sep cs
    else
      match pieces sep cs with
      | [] => [[c]]
      | piece :: rest => (c :: piece) :: rest

/-- The part before the first separator, and the part after it if there is one. -/
def cutAt (sep : Char → Bool) : List Char → List Char × Option (List Char)
  | [] => ([], none)
  | c :: cs =>
    if sep c then ([], some cs)
    else
      let (before, after) := cutAt sep cs
      (c :: before, after)

theorem pieces_ne_nil (sep : Char → Bool) (cs : List Char) : pieces sep cs ≠ [] := by
  cases cs with
  | nil => simp [pieces]
  | cons c cs =>
    unfold pieces
    split
    · simp
    · split <;> simp

theorem cutAt_append {sep : Char → Bool} {c : Char} (hc : sep c = true) {before : List Char}
    (h : ∀ d ∈ before, sep d = false) (after : List Char) :
    cutAt sep (before ++ c :: after) = (before, some after) := by
  induction before with
  | nil => simp [cutAt, hc]
  | cons d rest ih =>
    obtain ⟨hd, hrest⟩ := List.forall_mem_cons.mp h
    simp [cutAt, hd, ih hrest]

/-! ## Joining -/

/-- The pieces with a character between them. -/
def joinWith (c : Char) : List (List Char) → List Char
  | [] => []
  | [piece] => piece
  | piece :: rest => piece ++ c :: joinWith c rest

/-- Joining gives back what was cut. -/
theorem joinWith_pieces (c : Char) (cs : List Char) : joinWith c (pieces (· == c) cs) = cs := by
  induction cs with
  | nil => rfl
  | cons d cs ih =>
    unfold pieces
    split
    next h =>
      have hd : d = c := by simpa using h
      match hp : pieces (· == c) cs with
      | [] => exact absurd hp (pieces_ne_nil _ _)
      | piece :: rest =>
        rw [hp] at ih
        simp [joinWith, ih, hd]
    next h =>
      match hp : pieces (· == c) cs with
      | [] => exact absurd hp (pieces_ne_nil _ _)
      | [piece] => rw [hp] at ih; simp_all [joinWith]
      | piece :: q :: rest => rw [hp] at ih; simp_all [joinWith]

end SchemaGen.Text
