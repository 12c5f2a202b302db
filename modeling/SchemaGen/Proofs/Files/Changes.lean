import SchemaGen.Files.Tree
import SchemaGen.Proofs.Entries
import SchemaGen.Proofs.Traversal

/-! # What writing changes

Making directories puts new ones where nothing stood, at places that the paths asked for lead to
(`Extends`), also where it fails. Writing puts a file where no directory stands, and the path then
leads to it (`find_of_write`). So a document that is written is found at its path
(`find_of_writeDocument`), and one that is not leaves all that stood before
(`extends_of_writeDocument_error`).
-/

namespace SchemaGen.Files

set_option autoImplicit false

/-- The place that a name leads to, whatever stands there. -/
def Place.step (place : Place) (name : String) : Place :=
  if name = "." then place else if name = ".." then place.dropLast else place ++ [name]

namespace Tree

variable {tree made : Tree} {cwd : Place} {path : String}

/-! ## Nodes -/

theorem node?_put (tree : Tree) {goal : Place} (hgoal : goal ≠ []) (node : Node) (place : Place) :
    (tree.put goal node).node? place = if place = goal then some node else tree.node? place := by
  unfold node? put
  by_cases hplace : place = []
  · rw [if_pos hplace, if_pos hplace, if_neg (hplace ▸ hgoal.symm)]
  · rw [if_neg hplace, if_neg hplace, Entries.lookup_replace]

theorem node?_put_self (tree : Tree) {goal : Place} (hgoal : goal ≠ []) (node : Node) :
    (tree.put goal node).node? goal = some node := by
  rw [node?_put tree hgoal, if_pos rfl]

theorem requireDirectory_eq_ok_iff {place : Place} :
    tree.requireDirectory place = .ok () ↔ tree.node? place = some .directory := by
  unfold requireDirectory
  cases tree.node? place with
  | none => simp
  | some node => cases node <;> simp

/-! ## Following paths in a tree with more directories -/

/-- All directories of one tree are directories of another. -/
def HasDirectories (tree made : Tree) : Prop :=
  ∀ place, tree.node? place = some .directory → made.node? place = some .directory

theorem HasDirectories.put {goal : Place} (hgoal : goal ≠ [])
    (hfree : tree.node? goal ≠ some .directory) (node : Node) :
    tree.HasDirectories (tree.put goal node) := by
  intro place hplace
  rw [node?_put tree hgoal, if_neg]
  · exact hplace
  · rintro rfl
    exact hfree hplace

theorem HasDirectories.enter (h : tree.HasDirectories made) {place goal : Place} {name : String}
    (henter : tree.enter place name = .ok goal) : made.enter place name = .ok goal := by
  obtain ⟨_, hdirectory, hrest⟩ := bind_eq_ok_iff.mp henter
  refine bind_eq_ok_iff.mpr ⟨(), ?_, hrest⟩
  exact requireDirectory_eq_ok_iff.mpr (h place (requireDirectory_eq_ok_iff.mp hdirectory))

theorem HasDirectories.follow (h : tree.HasDirectories made) {names : List String}
    {place goal : Place} (hfollow : names.foldlM tree.enter place = .ok goal) :
    names.foldlM made.enter place = .ok goal := by
  induction names generalizing place with
  | nil => exact hfollow
  | cons name names ih =>
    obtain ⟨next, hnext, hrest⟩ := foldlM_cons_eq_ok_iff.mp hfollow
    exact foldlM_cons_eq_ok_iff.mpr ⟨next, h.enter hnext, ih hrest⟩

theorem HasDirectories.walk (h : tree.HasDirectories made) {goal : Place}
    (hwalk : tree.walk cwd path = .ok goal) : made.walk cwd path = .ok goal := by
  obtain ⟨_, hcheck, hfollow⟩ := bind_eq_ok_iff.mp hwalk
  exact bind_eq_ok_iff.mpr ⟨(), hcheck, h.follow hfollow⟩

/-! ## Targets -/

/-- What a path is the target of: a name of its own in a directory. -/
theorem target_eq_ok {place : Place} {name : String}
    (h : tree.target cwd path = .ok (place, some name)) :
    checkPath path = .ok () ∧ tree.node? place = some .directory ∧
      (∃ outer, Path.names path = outer ++ [name] ∧
        outer.foldlM tree.enter (origin cwd path) = .ok place) ∧
      name ≠ "." ∧ name ≠ ".." := by
  unfold target at h
  obtain ⟨_, hcheck, h⟩ := bind_eq_ok_iff.mp h
  obtain ⟨found, hfollow, h⟩ := bind_eq_ok_iff.mp h
  obtain ⟨_, hdirectory, h⟩ := bind_eq_ok_iff.mp h
  split at h
  · cases h
  · cases h
  · cases h
  · next last hdot hdots hlast =>
    cases h
    refine ⟨hcheck, requireDirectory_eq_ok_iff.mp hdirectory, ⟨_, ?_, hfollow⟩, ?_, ?_⟩
    · exact (List.dropLast_append_getLast? _ hlast).symm
    · rintro rfl
      exact hdot rfl
    · rintro rfl
      exact hdots rfl

theorem enter_eq_step {place goal : Place} {name : String} (h : tree.enter place name = .ok goal) :
    goal = place.step name := by
  obtain ⟨_, -, h⟩ := bind_eq_ok_iff.mp h
  unfold Place.step
  split at h
  · next hdot =>
    rw [if_pos hdot]
    exact (Except.ok.inj h).symm
  next hdot =>
  rw [if_neg hdot]
  split at h
  · next hdots =>
    rw [if_pos hdots]
    exact (Except.ok.inj h).symm
  next hdots =>
  rw [if_neg hdots]
  split at h
  · cases h
  · exact (Except.ok.inj h).symm

theorem goal_ne_nil {place goal : Place} {name : String}
    (htarget : tree.target cwd path = .ok (place, some name))
    (hgoal : tree.enter place name = .ok goal) : goal ≠ [] := by
  obtain ⟨-, -, -, hdot, hdots⟩ := target_eq_ok htarget
  rw [enter_eq_step hgoal, Place.step, if_neg hdot, if_neg hdots]
  exact List.concat_ne_nil _ _

/-- The path leads to its target. -/
theorem walk_of_target {place goal : Place} {name : String}
    (htarget : tree.target cwd path = .ok (place, some name))
    (hgoal : tree.enter place name = .ok goal) : tree.walk cwd path = .ok goal := by
  obtain ⟨hcheck, -, ⟨outer, hnames, hfollow⟩, -⟩ := target_eq_ok htarget
  refine bind_eq_ok_iff.mpr ⟨(), hcheck, ?_⟩
  rw [hnames, List.foldlM_append]
  exact bind_eq_ok_iff.mpr ⟨place, hfollow, by simpa using hgoal⟩

/-! ## One directory -/

/-- Making a directory puts a new one at the place that the path then leads to. -/
theorem makeDirectory_eq_ok (h : tree.makeDirectory cwd path = .ok made) :
    ∃ goal, goal ≠ [] ∧ tree.node? goal = none ∧ made = tree.put goal .directory ∧
      made.walk cwd path = .ok goal := by
  unfold makeDirectory at h
  obtain ⟨⟨place, name?⟩, htarget, h⟩ := bind_eq_ok_iff.mp h
  cases name? with
  | none => cases h
  | some name =>
    obtain ⟨goal, hgoal, h⟩ := bind_eq_ok_iff.mp h
    have hne := goal_ne_nil htarget hgoal
    split at h
    · cases h
    · next hfree =>
      cases h
      have hmore : tree.HasDirectories (tree.put goal .directory) :=
        .put hne (by rw [hfree]; nofun) _
      exact ⟨goal, hne, hfree, rfl, hmore.walk (walk_of_target htarget hgoal)⟩

/-! ## New directories -/

/-- One tree has what another has, and new directories that paths lead to. -/
def Extends (cwd : Place) (paths : List String) (tree made : Tree) : Prop :=
  ∀ place, made.node? place = tree.node? place ∨
    tree.node? place = none ∧ made.node? place = some .directory ∧
      ∃ path ∈ paths, made.walk cwd path = .ok place

namespace Extends

variable {paths : List String} {further : Tree}

theorem refl (cwd : Place) (paths : List String) (tree : Tree) : Extends cwd paths tree tree :=
  fun _ => .inl rfl

theorem hasDirectories (h : Extends cwd paths tree made) : tree.HasDirectories made := by
  intro place hplace
  rcases h place with hsame | ⟨hfree, -⟩
  · rw [hsame, hplace]
  · exact nomatch hfree.symm.trans hplace

theorem mono {more : List String} (h : Extends cwd paths tree made) (hpaths : paths ⊆ more) :
    Extends cwd more tree made := by
  intro place
  refine (h place).imp_right ?_
  rintro ⟨hfree, hnew, path, hpath, hwalk⟩
  exact ⟨hfree, hnew, path, hpaths hpath, hwalk⟩

theorem trans (h : Extends cwd paths tree made) (h' : Extends cwd paths made further) :
    Extends cwd paths tree further := by
  intro place
  rcases h' place with hsame | ⟨hfree, hnew, hwalk⟩
  · rw [hsame]
    refine (h place).imp_right ?_
    rintro ⟨hfree, hnew, path, hpath, hwalk⟩
    exact ⟨hfree, hnew, path, hpath, h'.hasDirectories.walk hwalk⟩
  · rcases h place with hsame | ⟨-, hmade, -⟩
    · exact .inr ⟨hsame ▸ hfree, hnew, hwalk⟩
    · exact nomatch hfree.symm.trans hmade

end Extends

theorem extends_of_makeDirectory (h : tree.makeDirectory cwd path = .ok made) :
    Extends cwd [path] tree made := by
  obtain ⟨goal, hgoal, hfree, rfl, hwalk⟩ := makeDirectory_eq_ok h
  intro place
  rw [node?_put tree hgoal]
  by_cases hplace : place = goal
  · subst hplace
    rw [if_pos rfl]
    exact .inr ⟨hfree, rfl, path, List.mem_singleton_self path, hwalk⟩
  · rw [if_neg hplace]
    exact .inl rfl

/-- Directories are made one inside another. What was made before a failure stays. -/
theorem extends_makeDirectories (tree : Tree) (cwd : Place) (paths : List String) :
    Extends cwd paths tree (tree.makeDirectories cwd paths).1 := by
  induction paths generalizing tree with
  | nil => exact Extends.refl cwd [] tree
  | cons path outer ih =>
    have hsingle : [path] ⊆ path :: outer := by simp
    have houter : outer ⊆ path :: outer := List.subset_cons_self path outer
    unfold makeDirectories
    split
    · next made hmade => exact (extends_of_makeDirectory hmade).mono hsingle
    · have ihOuter := (ih tree).mono houter
      split
      · next made e hmade => exact hmade ▸ ihOuter
      · next made hmade =>
        rw [hmade] at ihOuter
        split
        · next all hall => exact ihOuter.trans ((extends_of_makeDirectory hall).mono hsingle)
        · exact ihOuter
    · exact Extends.refl cwd (path :: outer) tree

theorem extends_of_makeDirectories {paths : List String} {result : Except OsError Unit}
    (h : tree.makeDirectories cwd paths = (made, result)) : Extends cwd paths tree made := by
  have hextends := extends_makeDirectories tree cwd paths
  rwa [h] at hextends

/-! ## Files -/

/-- Writing puts a file where no directory stands, and the path leads to it. -/
theorem write_eq_ok {content : Content} (h : tree.write cwd path content = .ok made) :
    ∃ goal, goal ≠ [] ∧ tree.node? goal ≠ some .directory ∧ made = tree.put goal (.file content) ∧
      made.walk cwd path = .ok goal ∧ Path.endsInSlash path = false := by
  unfold write at h
  obtain ⟨⟨place, name?⟩, htarget, h⟩ := bind_eq_ok_iff.mp h
  cases name? with
  | none => cases h
  | some name =>
    dsimp only at h
    split at h
    · cases h
    next hslash =>
    obtain ⟨goal, hgoal, h⟩ := bind_eq_ok_iff.mp h
    have hne := goal_ne_nil htarget hgoal
    split at h
    · cases h
    · next hfree =>
      cases h
      have hmore : tree.HasDirectories (tree.put goal (.file content)) := .put hne hfree _
      exact ⟨goal, hne, hfree, rfl, hmore.walk (walk_of_target htarget hgoal),
        Bool.eq_false_iff.mpr hslash⟩

theorem find_of_write {content : Content} (h : tree.write cwd path content = .ok made) :
    made.find cwd path = .ok (.file content) := by
  obtain ⟨goal, hgoal, -, rfl, hwalk, hslash⟩ := write_eq_ok h
  refine bind_eq_ok_iff.mpr ⟨goal, hwalk, ?_⟩
  rw [node?_put_self tree hgoal]
  simp only [hslash]
  rfl

/-! ## Documents -/

/-- The paths of the directories that a path lies in, innermost first. -/
def outerPaths (path : String) : List String := Path.ancestors ((Path.parent? path).getD "")

theorem writeDocument_eq (tree : Tree) (cwd : Place) (path document : String) :
    tree.writeDocument cwd path document =
      match tree.makeDirectories cwd (outerPaths path) with
      | (made, .error e) => (made, .error (.directory ((Path.parent? path).getD "") e))
      | (made, .ok ()) =>
        match made.write cwd path (.text document) with
        | .ok written => (written, .ok ())
        | .error e => (made, .error (.file path e)) := rfl

variable {document : String}

/-- A document is written after the directories that it lies in are made. -/
theorem writeDocument_eq_ok (h : tree.writeDocument cwd path document = (made, .ok ())) :
    ∃ held, Extends cwd (outerPaths path) tree held ∧
      held.write cwd path (.text document) = .ok made := by
  rw [writeDocument_eq] at h
  split at h
  · cases h
  · next held hheld =>
    split at h
    · next hwrite =>
      cases h
      exact ⟨held, extends_of_makeDirectories hheld, hwrite⟩
    · cases h

theorem find_of_writeDocument (h : tree.writeDocument cwd path document = (made, .ok ())) :
    made.find cwd path = .ok (.file (.text document)) := by
  obtain ⟨held, -, hwrite⟩ := writeDocument_eq_ok h
  exact find_of_write hwrite

/-- Where a document is not written, there may be new directories for it, but nothing else. -/
theorem extends_of_writeDocument_error {e : WriteError}
    (h : tree.writeDocument cwd path document = (made, .error e)) :
    Extends cwd (outerPaths path) tree made := by
  rw [writeDocument_eq] at h
  split at h
  · next held cause hheld =>
    cases h
    exact extends_of_makeDirectories hheld
  · next held hheld =>
    split at h
    · cases h
    · cases h
      exact extends_of_makeDirectories hheld

/-- The same files, with the same contents. -/
def SameFiles (tree made : Tree) : Prop :=
  ∀ place content, made.node? place = some (.file content) ↔ tree.node? place = some (.file content)

theorem Extends.sameFiles {paths : List String} (h : Extends cwd paths tree made) :
    SameFiles tree made := by
  intro place content
  rcases h place with hsame | ⟨hfree, hnew, -⟩
  · rw [hsame]
  · rw [hfree, hnew]
    simp

end Tree

end SchemaGen.Files
