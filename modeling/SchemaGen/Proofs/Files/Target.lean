import SchemaGen.Proofs.Files.Alike
import SchemaGen.Proofs.Files.Parents

/-! # The target of a document

Directories are made at the places of ancestors of the path only (`Extends.isAncestor`), and a file
is put at its goal (`node?_of_write`). So writing a document touches its target and nothing else,
whether it succeeds or fails on its way (`writeDocument_touches_target`).
-/

namespace SchemaGen.Files

set_option autoImplicit false

/-! ## Ancestors -/

/-- The first names of a path lead to the place, and more names lead on from it. -/
def IsAncestor (cwd : Place) (path : String) (place : Place) : Prop :=
  ∃ outer inner, Path.names path = outer ++ inner ∧ (∃ name ∈ inner, name ≠ ".") ∧
    place = outer.foldl Place.step (Tree.origin cwd path)

theorem Place.foldl_step_of_forward {names : List String} (h : ".." ∉ names) (place : Place) :
    names.foldl Place.step place = place ++ names.filter (· ≠ ".") := by
  induction names generalizing place with
  | nil => simp
  | cons name rest ih =>
    rw [List.mem_cons, not_or] at h
    rw [List.foldl_cons, ih h.2]
    by_cases hdot : name = "."
    · rw [List.filter_cons_of_neg (by simp [hdot]), Place.step, if_pos hdot]
    · rw [List.filter_cons_of_pos (by simp [hdot]), Place.step, if_neg hdot,
        if_neg (Ne.symm h.1), List.append_assoc]
      rfl

/-- Where no name leads back, an ancestor stands above the goal. -/
theorem IsAncestor.above {cwd place : Place} {path : String} (h : IsAncestor cwd path place)
    (hforward : ".." ∉ Path.names path) : ∃ rest, rest ≠ [] ∧ goalOf cwd path = place ++ rest := by
  obtain ⟨outer, inner, hnames, ⟨name, hmem, hname⟩, rfl⟩ := h
  rw [hnames, List.mem_append, not_or] at hforward
  refine ⟨inner.filter (· ≠ "."), ?_, ?_⟩
  · exact List.ne_nil_of_mem (List.mem_filter.mpr ⟨hmem, by simpa using hname⟩)
  · rw [goalOf, hnames, List.foldl_append, Place.foldl_step_of_forward hforward.2]

namespace Tree

variable {tree made : Tree} {cwd place : Place} {path document : String}

theorem isAncestor_of_outerPath {outer : String} (h : outer ∈ outerPaths path)
    (hwalk : made.walk cwd outer = .ok place) : IsAncestor cwd path place := by
  unfold outerPaths at h
  cases hparent : Path.parent? path with
  | none =>
    rw [hparent] at h
    cases h
  | some parent =>
    rw [hparent, Option.getD_some] at h
    have hne : parent ≠ "" := by
      rintro rfl
      cases h
    obtain ⟨-, habsolute, more, hmore⟩ := Path.names_of_ancestorsWithin h
    obtain ⟨inner, hinner, name, hmem, hname⟩ := Path.names_of_parent? hparent hne
    obtain ⟨_, -, hfollow⟩ := bind_eq_ok_iff.mp hwalk
    have horigin : origin cwd outer = origin cwd path := by
      rw [origin, origin, habsolute, Path.isAbsolute_of_parent? hparent hne]
    refine ⟨Path.names outer, more ++ inner, ?_, ⟨name, List.mem_append_right _ hmem, hname⟩, ?_⟩
    · rw [hinner, ← hmore, List.append_assoc]
    · rw [← horigin]
      exact follow_eq_foldl hfollow

theorem Extends.isAncestor (h : Extends cwd (outerPaths path) tree made)
    (hmade : made.node? place = some .directory) (hnew : tree.node? place ≠ some .directory) :
    tree.node? place = none ∧ IsAncestor cwd path place := by
  rcases h place with hsame | ⟨hfree, -, outer, houter, hwalk⟩
  · exact absurd (hsame ▸ hmade) hnew
  · exact ⟨hfree, isAncestor_of_outerPath houter hwalk⟩

/-! ## Writing -/

theorem write_eq_put {content : Content} (h : tree.write cwd path content = .ok made) :
    goalOf cwd path ≠ [] ∧ tree.node? (goalOf cwd path) ≠ some .directory ∧
      made = tree.put (goalOf cwd path) (.file content) := by
  obtain ⟨goal, hne, hfree, hmade, hwalk, -⟩ := write_eq_ok h
  obtain ⟨_, -, hfollow⟩ := bind_eq_ok_iff.mp hwalk
  have hgoal : goal = goalOf cwd path := follow_eq_foldl hfollow
  subst hgoal
  exact ⟨hne, hfree, hmade⟩

/-- A file is put at the goal of its path. Nothing else changes, and no directory is lost. -/
theorem node?_of_write {held : Tree} {content : Content}
    (h : held.write cwd path content = .ok made) :
    made.node? (goalOf cwd path) = some (.file content) ∧ held.HasDirectories made ∧
      ∀ place, place ≠ goalOf cwd path → made.node? place = held.node? place := by
  obtain ⟨hne, hfree, rfl⟩ := write_eq_put h
  refine ⟨node?_put_self held hne _, .put hne hfree _, fun place hplace => ?_⟩
  rw [node?_put held hne, if_neg hplace]

/-- Writing a document touches its target only. Where it succeeds, the file at the path holds the
document and all other files are as before; where it fails, all files are. Directories stay, and new
ones are ancestors of the path, whose places are above the goal unless the path leads back
somewhere. -/
theorem writeDocument_touches_target (tree : Tree) (cwd : Place) (path document : String) :
    ∃ made result, tree.writeDocument cwd path document = (made, result) ∧
      (result = .ok () → made.readText cwd path = .ok document ∧
        made.node? (goalOf cwd path) = some (.file (.text document)) ∧
        ∀ place content, place ≠ goalOf cwd path →
          (made.node? place = some (.file content) ↔ tree.node? place = some (.file content))) ∧
      (∀ e, result = .error e → ∀ place content,
        made.node? place = some (.file content) ↔ tree.node? place = some (.file content)) ∧
      (∀ place, tree.node? place = some .directory → made.node? place = some .directory) ∧
      ∀ place, made.node? place = some .directory → tree.node? place ≠ some .directory →
        tree.node? place = none ∧ IsAncestor cwd path place ∧
          (".." ∉ Path.names path → ∃ rest, rest ≠ [] ∧ goalOf cwd path = place ++ rest) := by
  rcases hresult : tree.writeDocument cwd path document with ⟨made, result⟩
  refine ⟨made, result, rfl, ?_⟩
  cases result with
  | error e =>
    have hextends := extends_of_writeDocument_error hresult
    refine ⟨nofun, fun _ _ => hextends.sameFiles, hextends.hasDirectories, ?_⟩
    intro place hmade hnew
    obtain ⟨hfree, hancestor⟩ := hextends.isAncestor hmade hnew
    exact ⟨hfree, hancestor, hancestor.above⟩
  | ok _ =>
    obtain ⟨held, hextends, hwrite⟩ := writeDocument_eq_ok hresult
    obtain ⟨hgoal, hkept, hother⟩ := node?_of_write hwrite
    refine ⟨fun _ => ⟨?_, hgoal, ?_⟩, nofun, ?_, ?_⟩
    · exact bind_eq_ok_iff.mpr ⟨_, bind_eq_ok_iff.mpr ⟨_, find_of_write hwrite, rfl⟩, rfl⟩
    · intro place content hplace
      rw [hother place hplace]
      exact hextends.sameFiles place content
    · exact fun place hplace => hkept place (hextends.hasDirectories place hplace)
    · intro place hmade hnew
      have hplace : place ≠ goalOf cwd path := by
        rintro rfl
        exact nomatch hgoal.symm.trans hmade
      rw [hother place hplace] at hmade
      obtain ⟨hfree, hancestor⟩ := hextends.isAncestor hmade hnew
      exact ⟨hfree, hancestor, hancestor.above⟩

/-- A path that leads back: the directory that it leaves again is new, beside its goal. -/
example : (Tree.empty.writeDocument [] "a/../b.ts" "export \x7b\x7d\n").1.node? ["a"] =
    some .directory := rfl

end Tree

end SchemaGen.Files
