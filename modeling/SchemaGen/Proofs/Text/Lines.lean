import SchemaGen.Text.Pieces
import Mathlib.Data.List.Basic

/-! # Texts line by line

The lines of a text put together from others at line feeds are those of its parts. So what is
collected from single lines, empty ones aside, is collected part by part (`collect_paragraphs`), and
the lines that stand between an opening and a closing text are found again (`linesBetween?_eq`).
-/

namespace SchemaGen.Text

set_option autoImplicit false

/-- The lines of a text. -/
def lines (text : String) : List (List Char) := pieces (· == '\n') text.toList

/-- What is found in the lines of a text, in their order. -/
def collect {β : Type} (find : List Char → Option β) (text : String) : List β :=
  (lines text).filterMap find

/-- A text without a line feed. -/
def OneLine (text : String) : Prop := '\n' ∉ text.toList

/-! ## Lines -/

theorem pieces_append (sep : Char → Bool) {c : Char} (hc : sep c = true) (a b : List Char) :
    pieces sep (a ++ c :: b) = pieces sep a ++ pieces sep b := by
  induction a with
  | nil => simp [pieces, hc]
  | cons d a ih =>
    by_cases hd : sep d = true
    · simp [pieces, hd, ih]
    · cases hp : pieces sep a with
      | nil => exact absurd hp (pieces_ne_nil sep a)
      | cons piece rest =>
        rw [hp] at ih
        simp [pieces, hd, ih, hp]

theorem pieces_of_all {sep : Char → Bool} {cs : List Char} (h : ∀ c ∈ cs, sep c = false) :
    pieces sep cs = [cs] := by
  induction cs with
  | nil => rfl
  | cons c cs ih =>
    have hc := h c (List.mem_cons_self ..)
    simp [pieces, hc, ih fun d hd => h d (List.mem_cons_of_mem _ hd)]

/-- What stands before the first separator belongs to the first piece. -/
theorem pieces_append_of_all {sep : Char → Bool} {before : List Char}
    (h : ∀ c ∈ before, sep c = false) (cs : List Char) :
    pieces sep (before ++ cs) = (pieces sep cs).modifyHead (before ++ ·) := by
  obtain ⟨first, rest, hcs⟩ := List.exists_cons_of_ne_nil (pieces_ne_nil sep cs)
  rw [hcs, List.modifyHead_cons]
  induction before with
  | nil => exact hcs
  | cons c before ih =>
    obtain ⟨hc, hbefore⟩ := List.forall_mem_cons.mp h
    simp [pieces, hc, ih hbefore]

/-- Cutting drops the separators and nothing else. -/
theorem flatten_pieces (sep : Char → Bool) (cs : List Char) :
    (pieces sep cs).flatten = cs.filter fun c => !sep c := by
  induction cs with
  | nil => rfl
  | cons c cs ih =>
    by_cases hc : sep c = true
    · rw [List.filter_cons_of_neg (by simp [hc]), ← ih]
      simp [pieces, hc]
    · cases hp : pieces sep cs with
      | nil => exact absurd hp (pieces_ne_nil sep cs)
      | cons piece rest =>
        rw [List.filter_cons_of_pos (by simp [hc]), ← ih, hp]
        simp [pieces, hc, hp]

theorem exists_mem_pieces_iff {sep : Char → Bool} {cs : List Char} {c : Char} :
    (∃ w ∈ pieces sep cs, c ∈ w) ↔ c ∈ cs ∧ sep c = false := by
  rw [← List.mem_flatten, flatten_pieces, List.mem_filter, Bool.not_eq_true']

theorem joinWith_append {c : Char} {a b : List (List Char)} (ha : a ≠ []) (hb : b ≠ []) :
    joinWith c (a ++ b) = joinWith c a ++ c :: joinWith c b := by
  induction a with
  | nil => exact absurd rfl ha
  | cons piece rest ih =>
    cases rest with
    | nil =>
      obtain ⟨next, more, rfl⟩ := List.exists_cons_of_ne_nil hb
      rfl
    | cons next rest =>
      have hrest := ih (List.cons_ne_nil next rest)
      simp only [List.cons_append, joinWith, List.append_assoc] at hrest ⊢
      rw [hrest]

theorem joinWith_isPrefix {c : Char} {a b : List (List Char)} (h : a <+: b) :
    joinWith c a <+: joinWith c b := by
  obtain ⟨more, rfl⟩ := h
  by_cases ha : a = []
  · subst ha
    exact ⟨_, List.nil_append _⟩
  by_cases hmore : more = []
  · exact ⟨[], by rw [hmore, List.append_nil, List.append_nil]⟩
  · rw [joinWith_append ha hmore]
    exact List.prefix_append ..

/-- Cutting gives back what was joined. -/
theorem pieces_joinWith {c : Char} {parts : List (List Char)} (hne : parts ≠ [])
    (h : ∀ piece ∈ parts, c ∉ piece) : pieces (· == c) (joinWith c parts) = parts := by
  have hwhole : ∀ piece : List Char, c ∉ piece → pieces (· == c) piece = [piece] := by
    intro piece hpiece
    refine pieces_of_all fun d hd => ?_
    rw [beq_eq_false_iff_ne]
    rintro rfl
    exact hpiece hd
  induction parts with
  | nil => exact absurd rfl hne
  | cons piece rest ih =>
    obtain ⟨hpiece, hrest⟩ := List.forall_mem_cons.mp h
    by_cases hlast : rest = []
    · rw [hlast]
      exact hwhole piece hpiece
    · have hcut : joinWith c (piece :: rest) = piece ++ c :: joinWith c rest :=
        joinWith_append (List.cons_ne_nil piece []) hlast
      rw [hcut, pieces_append (· == c) (beq_self_eq_true c), hwhole piece hpiece, ih hlast hrest]
      rfl

/-- Wherever else lines end, they end at line feeds. -/
theorem pieces_append_feed {sep : Char → Bool} (h : sep '\n' = true) (a b : String) :
    pieces sep (a ++ "\n" ++ b).toList = pieces sep a.toList ++ pieces sep b.toList := by
  have hlist : (a ++ "\n" ++ b).toList = a.toList ++ '\n' :: b.toList := by simp
  rw [hlist, pieces_append sep h]

theorem lines_append (a b : String) : lines (a ++ "\n" ++ b) = lines a ++ lines b :=
  pieces_append_feed rfl a b

/-- Between two paragraphs there is an empty line. -/
theorem append_paragraph (a b : String) :
    a ++ "\n\n" ++ b = a ++ "\n" ++ ("" ++ "\n" ++ b) := by
  have h : "\n\n" = "\n" ++ ("" ++ "\n") := by decide
  rw [h]
  simp only [String.append_assoc]

theorem OneLine.lines_eq {text : String} (h : OneLine text) : lines text = [text.toList] :=
  pieces_of_all fun c hc => by
    rw [beq_eq_false_iff_ne]
    rintro rfl
    exact h hc

theorem OneLine.append {a b : String} (ha : OneLine a) (hb : OneLine b) : OneLine (a ++ b) := by
  intro h
  rcases List.mem_append.mp (String.toList_append ▸ h) with h | h
  · exact ha h
  · exact hb h

/-! ## Counting -/

theorem length_le_lines (texts : List String) :
    texts.length ≤ (texts.flatMap lines).length := by
  induction texts with
  | nil => exact Nat.zero_le _
  | cons t rest ih =>
    have ht : 1 ≤ (lines t).length := List.length_pos_iff.mpr (pieces_ne_nil _ _)
    rw [List.flatMap_cons, List.length_append, List.length_cons]
    omega

/-- With no more lines than texts, each text is on one. -/
theorem lines_eq_of_length {texts : List String}
    (h : (texts.flatMap lines).length ≤ texts.length) : ∀ t ∈ texts, lines t = [t.toList] := by
  induction texts with
  | nil => exact fun t ht => absurd ht List.not_mem_nil
  | cons t rest ih =>
    have ht : 1 ≤ (lines t).length := List.length_pos_iff.mpr (pieces_ne_nil _ _)
    have hrest := length_le_lines rest
    rw [List.flatMap_cons, List.length_append, List.length_cons] at h
    have hone : (lines t).length = 1 := by omega
    rw [List.forall_mem_cons]
    refine ⟨?_, ih (by omega)⟩
    obtain ⟨line, hline⟩ := List.length_eq_one_iff.mp hone
    have hjoined : joinWith '\n' (lines t) = t.toList := joinWith_pieces '\n' t.toList
    rw [hline] at hjoined ⊢
    rw [← hjoined, joinWith]

/-! ## Collecting -/

section Collect

variable {β : Type} {find : List Char → Option β}

theorem collect_append (a b : String) :
    collect find (a ++ "\n" ++ b) = collect find a ++ collect find b := by
  rw [collect, lines_append, List.filterMap_append]
  rfl

theorem OneLine.collect_eq {text : String} (h : OneLine text) :
    collect find text = (find text.toList).toList := by
  rw [collect, h.lines_eq]
  cases hf : find text.toList with
  | none => rw [List.filterMap_cons_none hf, List.filterMap_nil, Option.toList_none]
  | some b => rw [List.filterMap_cons_some hf, List.filterMap_nil, Option.toList_some]

theorem OneLine.collect_of_none {text : String} (h : OneLine text)
    (hf : find text.toList = none) : collect find text = [] := by
  rw [h.collect_eq, hf]
  rfl

theorem collect_empty (h : find [] = none) : collect find "" = [] :=
  OneLine.collect_of_none (by simp [OneLine]) (by simpa using h)

/-- Texts with a line feed between them. -/
theorem collect_intercalate (h : find [] = none) (parts : List String) :
    collect find ("\n".intercalate parts) = parts.flatMap (collect find) := by
  induction parts with
  | nil => rw [String.intercalate_nil, collect_empty h, List.flatMap_nil]
  | cons part rest ih =>
    cases rest with
    | nil => rw [String.intercalate_singleton, List.flatMap_cons, List.flatMap_nil, List.append_nil]
    | cons next rest =>
      rw [String.intercalate_cons_cons, collect_append, ih, ← List.flatMap_cons]

/-- Texts with an empty line between them. -/
theorem collect_paragraphs (h : find [] = none) (parts : List String) :
    collect find ("\n\n".intercalate parts) = parts.flatMap (collect find) := by
  induction parts with
  | nil => rw [String.intercalate_nil, collect_empty h, List.flatMap_nil]
  | cons part rest ih =>
    cases rest with
    | nil => rw [String.intercalate_singleton, List.flatMap_cons, List.flatMap_nil, List.append_nil]
    | cons next rest =>
      rw [String.intercalate_cons_cons, append_paragraph, collect_append, collect_append,
        collect_empty h, List.nil_append, ih, ← List.flatMap_cons]

end Collect

/-! ## Joins -/

/-- A separator between texts stands before each of them but the first. -/
theorem intercalate_cons_eq_join (sep part : String) (rest : List String) :
    sep.intercalate (part :: rest) = part ++ String.join (rest.map (sep ++ ·)) := by
  induction rest generalizing part with
  | nil => rw [String.intercalate_singleton, List.map_nil, String.join_nil, String.append_empty]
  | cons next rest ih =>
    rw [String.intercalate_cons_cons, ih next, List.map_cons, String.join_cons]
    simp only [String.append_assoc]

theorem join_map_append (sep : String) {parts : List String} (h : parts ≠ []) :
    String.join (parts.map (sep ++ ·)) = sep ++ sep.intercalate parts := by
  cases parts with
  | nil => exact absurd rfl h
  | cons part rest =>
    rw [intercalate_cons_eq_join, List.map_cons, String.join_cons, String.append_assoc]

/-- A separator stands behind each text that others follow. -/
theorem intercalate_append_cons (sep : String) (parts : List String) (part : String)
    (rest : List String) :
    sep.intercalate (parts ++ part :: rest) =
      String.join (parts.map (· ++ sep)) ++ sep.intercalate (part :: rest) := by
  induction parts with
  | nil => rw [List.nil_append, List.map_nil, String.join_nil, String.empty_append]
  | cons first parts ih =>
    rw [List.cons_append, String.intercalate_cons_of_ne_nil (by simp), ih, List.map_cons,
      String.join_cons]
    simp only [String.append_assoc]

/-! ## Between two texts -/

/-- The lines between two texts that open and close a third; none where nothing stands between. -/
def linesBetween? (opening closing text : String) : Option (List (List Char)) := do
  let opened ← text.toList.dropPrefix? opening.toList
  let body ← opened.dropSuffix? closing.toList
  return if body = [] then [] else pieces (· == '\n') body

theorem dropPrefix?_append (start rest : List Char) : (start ++ rest).dropPrefix? start = some rest :=
  List.dropPrefix?_eq_some_iff.mpr ⟨start, by simp, by simp⟩

theorem dropSuffix?_append (start rest : List Char) : (start ++ rest).dropSuffix? rest = some start :=
  List.dropSuffix?_eq_some_iff.mpr ⟨rest, rfl, by simp⟩

theorem lines_intercalate {parts : List String} (h : parts ≠ []) :
    lines ("\n".intercalate parts) = parts.flatMap lines := by
  induction parts with
  | nil => exact absurd rfl h
  | cons part rest ih =>
    cases rest with
    | nil => rw [String.intercalate_singleton, List.flatMap_cons, List.flatMap_nil, List.append_nil]
    | cons next rest =>
      rw [String.intercalate_cons_cons, lines_append, ih (by simp), ← List.flatMap_cons]

theorem intercalate_ne_empty {parts : List String} (hne : parts ≠ []) (h : "" ∉ parts) :
    "\n".intercalate parts ≠ "" := by
  match parts, hne with
  | [part], _ =>
    rw [String.intercalate_singleton]
    rintro rfl
    exact h List.mem_cons_self
  | part :: next :: rest, _ =>
    rw [String.intercalate_cons_cons]
    simp

theorem linesBetween?_eq (opening closing : String) {parts : List String} (h : "" ∉ parts) :
    linesBetween? opening closing (opening ++ "\n".intercalate parts ++ closing) =
      some (parts.flatMap lines) := by
  have hopened : (opening ++ "\n".intercalate parts ++ closing).toList =
      opening.toList ++ (("\n".intercalate parts).toList ++ closing.toList) := by simp
  rw [linesBetween?, hopened, dropPrefix?_append, Option.bind_eq_bind, Option.bind_some,
    dropSuffix?_append, Option.bind_some]
  by_cases hne : parts = []
  · subst hne
    rfl
  · have hbody := intercalate_ne_empty hne h
    rw [← lines_intercalate hne, if_neg fun heq => hbody (String.toList_eq_nil_iff.mp heq)]
    rfl

end SchemaGen.Text
