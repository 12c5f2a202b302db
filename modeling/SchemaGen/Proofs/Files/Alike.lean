import SchemaGen.Proofs.Files.Changes

/-! # Writing into trees that are alike

Whether a document can be written depends on what kind of thing stands at the places that its path
and the paths of its directories pass through, and on whether a directory stands at its goal. So
two trees that agree there (`AlikeFor`) take the same documents, or refuse them for the same cause
(`writeDocument_congr`), whatever else is in them.
-/

namespace SchemaGen.Files

set_option autoImplicit false

/-! ## Places on the way -/

/-- The places that names lead through, the first and the last included. -/
def Place.stations : Place → List String → List Place
  | place, [] => [place]
  | place, name :: rest => place :: Place.stations (place.step name) rest

/-- The places that a path leads through. -/
def stationsOf (cwd : Place) (path : String) : List Place :=
  (Tree.origin cwd path).stations (Path.names path)

/-- The place that a path leads to, whatever stands there. -/
def goalOf (cwd : Place) (path : String) : Place :=
  (Path.names path).foldl Place.step (Tree.origin cwd path)

/-- The places on the way to a path: it leads through them, or the paths of the directories that it
lies in do. -/
def wayOf (cwd : Place) (path : String) : List Place :=
  (Tree.origin cwd path).stations (Path.names path).dropLast ++
    (Tree.outerPaths path).flatMap (stationsOf cwd)

theorem Place.foldl_mem_stations (place : Place) (names : List String) :
    names.foldl Place.step place ∈ place.stations names := by
  induction names generalizing place with
  | nil => exact List.mem_singleton_self place
  | cons name rest ih => exact List.mem_cons_of_mem place (ih (place.step name))

theorem Place.stations_subset_concat (place : Place) (names : List String) (name : String) :
    place.stations names ⊆ place.stations (names ++ [name]) := by
  induction names generalizing place with
  | nil => simp [Place.stations]
  | cons first rest ih => exact List.cons_subset_cons place (ih (place.step first))

theorem dropLast_stations_subset {cwd : Place} {path : String} :
    (Tree.origin cwd path).stations (Path.names path).dropLast ⊆ stationsOf cwd path := by
  unfold stationsOf
  cases hlast : (Path.names path).getLast? with
  | none =>
    rw [List.getLast?_eq_none_iff.mp hlast]
    exact List.Subset.refl _
  | some last =>
    have hnames := List.dropLast_append_getLast? last hlast
    conv_rhs => rw [← hnames]
    exact Place.stations_subset_concat ..

namespace Tree

variable {tree t₁ t₂ : Tree} {cwd place : Place} {path : String}

/-! ## Kinds -/

def Node.isDirectory : Node → Bool
  | .directory => true
  | .file _ => false

/-- What kind of thing stands at a place: a directory, a file, or nothing. -/
def kindAt (tree : Tree) (place : Place) : Option Bool :=
  (tree.node? place).map Node.isDirectory

theorem kindAt_eq_true_iff : tree.kindAt place = some true ↔ tree.node? place = some .directory := by
  unfold kindAt
  cases tree.node? place with
  | none => simp
  | some node => cases node <;> simp [Node.isDirectory]

theorem node?_cases (h : t₁.kindAt place = t₂.kindAt place) :
    (t₁.node? place = none ∧ t₂.node? place = none) ∨
    (t₁.node? place = some .directory ∧ t₂.node? place = some .directory) ∨
    ∃ c₁ c₂, t₁.node? place = some (.file c₁) ∧ t₂.node? place = some (.file c₂) := by
  unfold kindAt at h
  cases h₁ : t₁.node? place with
  | none =>
    rw [h₁, Option.map_none, eq_comm, Option.map_eq_none_iff] at h
    exact .inl ⟨rfl, h⟩
  | some node =>
    rw [h₁, Option.map_some, eq_comm] at h
    obtain ⟨other, hother, hkind⟩ := Option.map_eq_some_iff.mp h
    cases node with
    | directory =>
      cases other with
      | directory => exact .inr (.inl ⟨rfl, hother⟩)
      | file c => cases hkind
    | file c =>
      cases other with
      | directory => cases hkind
      | file c' => exact .inr (.inr ⟨c, c', rfl, hother⟩)

theorem requireDirectory_congr (h : t₁.kindAt place = t₂.kindAt place) :
    t₁.requireDirectory place = t₂.requireDirectory place := by
  unfold requireDirectory
  rcases node?_cases h with ⟨h₁, h₂⟩ | ⟨h₁, h₂⟩ | ⟨c₁, c₂, h₁, h₂⟩ <;> rw [h₁, h₂]

/-! ## Following -/

theorem enter_congr (h : t₁.kindAt place = t₂.kindAt place) (name : String) :
    t₁.enter place name = t₂.enter place name := by
  unfold enter
  rw [requireDirectory_congr h]

theorem follow_eq_foldl {names : List String} {goal : Place}
    (h : names.foldlM tree.enter place = .ok goal) : goal = names.foldl Place.step place := by
  induction names generalizing place with
  | nil => exact (Except.ok.inj h).symm
  | cons name rest ih =>
    obtain ⟨next, hnext, hrest⟩ := foldlM_cons_eq_ok_iff.mp h
    rw [ih hrest, enter_eq_step hnext]
    rfl

theorem follow_congr {names : List String}
    (h : ∀ station ∈ place.stations names, t₁.kindAt station = t₂.kindAt station) :
    names.foldlM t₁.enter place = names.foldlM t₂.enter place := by
  induction names generalizing place with
  | nil => rfl
  | cons name rest ih =>
    rw [List.foldlM_cons, List.foldlM_cons, enter_congr (h place (List.mem_cons_self ..))]
    cases hnext : t₂.enter place name with
    | error e => rfl
    | ok next =>
      refine ih fun station hstation => h station (List.mem_cons_of_mem place ?_)
      rwa [enter_eq_step hnext] at hstation

theorem target_congr
    (h : ∀ station ∈ (origin cwd path).stations (Path.names path).dropLast,
      t₁.kindAt station = t₂.kindAt station) : t₁.target cwd path = t₂.target cwd path := by
  unfold target
  dsimp only
  rw [follow_congr h]
  cases hplace : (Path.names path).dropLast.foldlM t₂.enter (origin cwd path) with
  | error e => rfl
  | ok place =>
    have hstation : place ∈ (origin cwd path).stations (Path.names path).dropLast := by
      rw [follow_eq_foldl hplace]
      exact Place.foldl_mem_stations ..
    have hrequire := requireDirectory_congr (h place hstation)
    dsimp only [bind, Except.bind]
    rw [hrequire]

/-- The target of a path, if it has a name of its own, is in a directory on the way, and its place
is the goal of the path. -/
theorem goal_of_target {name : String} (h : tree.target cwd path = .ok (place, some name)) :
    place ∈ (origin cwd path).stations (Path.names path).dropLast ∧
      goalOf cwd path = place.step name := by
  obtain ⟨-, -, ⟨outer, hnames, hfollow⟩, -⟩ := target_eq_ok h
  have hplace := follow_eq_foldl hfollow
  constructor
  · rw [hnames, List.dropLast_concat, hplace]
    exact Place.foldl_mem_stations ..
  · rw [goalOf, hnames, List.foldl_append, ← hplace]
    rfl

theorem isDirectory_congr
    (h : ∀ station ∈ stationsOf cwd path, t₁.kindAt station = t₂.kindAt station) :
    t₁.isDirectory cwd path = t₂.isDirectory cwd path := by
  have hwalk : t₁.walk cwd path = t₂.walk cwd path := by
    unfold walk
    rw [follow_congr h]
  unfold isDirectory find
  rw [hwalk]
  cases hplace : t₂.walk cwd path with
  | error e => rfl
  | ok place =>
    obtain ⟨_, -, hfollow⟩ := bind_eq_ok_iff.mp hplace
    have hstation : place ∈ stationsOf cwd path := by
      rw [follow_eq_foldl hfollow]
      exact Place.foldl_mem_stations ..
    dsimp only [bind, Except.bind]
    rcases node?_cases (h place hstation) with ⟨h₁, h₂⟩ | ⟨h₁, h₂⟩ | ⟨c₁, c₂, h₁, h₂⟩
    · rw [h₁, h₂]
    · rw [h₁, h₂]
    · rw [h₁, h₂]
      cases Path.endsInSlash path <;> rfl

/-! ## Trees that are alike -/

/-- Two trees have the same kind of thing at some places, and a directory at a goal both or
neither. -/
structure Alike (way : List Place) (goal : Place) (t₁ t₂ : Tree) : Prop where
  way : ∀ station ∈ way, t₁.kindAt station = t₂.kindAt station
  goal : t₁.kindAt goal = some true ↔ t₂.kindAt goal = some true

/-- Two trees are alike for writing to a path. -/
def AlikeFor (cwd : Place) (path : String) (t₁ t₂ : Tree) : Prop :=
  Alike (wayOf cwd path) (goalOf cwd path) t₁ t₂

variable {way : List Place} {goal : Place}

theorem kindAt_put (tree : Tree) (hplace : place ≠ []) (node : Node) (other : Place) :
    (tree.put place node).kindAt other =
      if other = place then some (Node.isDirectory node) else tree.kindAt other := by
  unfold kindAt
  rw [node?_put tree hplace]
  split <;> rfl

theorem Alike.put (h : Alike way goal t₁ t₂) (hplace : place ≠ []) (node : Node) :
    Alike way goal (t₁.put place node) (t₂.put place node) := by
  constructor
  · intro station hstation
    rw [kindAt_put t₁ hplace, kindAt_put t₂ hplace, h.way station hstation]
  · rw [kindAt_put t₁ hplace, kindAt_put t₂ hplace]
    split
    · exact Iff.rfl
    · exact h.goal

/-! ## Making directories -/

/-- A directory is made in both trees, at the same place, or in neither for the same cause. -/
theorem makeDirectory_congr
    (h : ∀ station ∈ stationsOf cwd path, t₁.kindAt station = t₂.kindAt station) :
    (∃ place, place ≠ [] ∧ t₁.makeDirectory cwd path = .ok (t₁.put place .directory) ∧
      t₂.makeDirectory cwd path = .ok (t₂.put place .directory)) ∨
    ∃ e, t₁.makeDirectory cwd path = .error e ∧ t₂.makeDirectory cwd path = .error e := by
  have htarget : t₁.target cwd path = t₂.target cwd path :=
    target_congr fun station hstation => h station (dropLast_stations_subset hstation)
  unfold makeDirectory
  rw [htarget]
  cases hfound : t₂.target cwd path with
  | error e => exact .inr ⟨e, rfl, rfl⟩
  | ok found =>
    obtain ⟨place, name?⟩ := found
    cases name? with
    | none => exact .inr ⟨.exists, rfl, rfl⟩
    | some name =>
      obtain ⟨hstation, hgoal⟩ := goal_of_target hfound
      have henter := enter_congr (h place (dropLast_stations_subset hstation)) name
      dsimp only [bind, Except.bind]
      rw [henter]
      cases hgoal' : t₂.enter place name with
      | error e => exact .inr ⟨e, rfl, rfl⟩
      | ok goal =>
        have hne := goal_ne_nil hfound hgoal'
        have hlast : goal ∈ stationsOf cwd path := by
          rw [enter_eq_step hgoal', ← hgoal]
          exact Place.foldl_mem_stations ..
        dsimp only
        rcases node?_cases (h goal hlast) with ⟨h₁, h₂⟩ | ⟨h₁, h₂⟩ | ⟨c₁, c₂, h₁, h₂⟩
        · rw [h₁, h₂]
          exact .inl ⟨goal, hne, rfl, rfl⟩
        · rw [h₁, h₂]
          exact .inr ⟨.exists, rfl, rfl⟩
        · rw [h₁, h₂]
          exact .inr ⟨.exists, rfl, rfl⟩

theorem makeDirectories_of_error {outer : List String} {e : OsError}
    (h : tree.makeDirectory cwd path = .error e) (he : e ≠ .notFound) :
    tree.makeDirectories cwd (path :: outer) =
      (tree, if tree.isDirectory cwd path then .ok () else .error e) := by
  unfold makeDirectories
  rw [h]
  cases e with
  | notFound => exact absurd rfl he
  | «exists» | notDirectory | isDirectory | nameTooLong | nulInPath | notText => rfl

/-- Directories that are missing for the first one are made before it. -/
theorem makeDirectories_of_notFound {outer : List String}
    (h : tree.makeDirectory cwd path = .error .notFound) :
    tree.makeDirectories cwd (path :: outer) =
      match tree.makeDirectories cwd outer with
      | (made, .error e) => (made, .error e)
      | (made, .ok ()) =>
        match made.makeDirectory cwd path with
        | .ok all => (all, .ok ())
        | .error e => (made, if made.isDirectory cwd path then .ok () else .error e) := by
  rw [makeDirectories]
  generalize tree.makeDirectory cwd path = first at h ⊢
  subst h
  rfl

theorem makeDirectories_congr {paths : List String} (h : Alike way goal t₁ t₂)
    (hpaths : ∀ path ∈ paths, stationsOf cwd path ⊆ way) :
    (t₁.makeDirectories cwd paths).2 = (t₂.makeDirectories cwd paths).2 ∧
      Alike way goal (t₁.makeDirectories cwd paths).1 (t₂.makeDirectories cwd paths).1 := by
  induction paths with
  | nil => exact ⟨rfl, h⟩
  | cons path outer ih =>
    have hway : stationsOf cwd path ⊆ way := hpaths path (List.mem_cons_self ..)
    have ih := ih fun other hother => hpaths other (List.mem_cons_of_mem path hother)
    rcases makeDirectory_congr fun station hstation => h.way station (hway hstation) with
      ⟨place, hplace, h₁, h₂⟩ | ⟨e, h₁, h₂⟩
    · rw [makeDirectories, makeDirectories, h₁, h₂]
      exact ⟨rfl, h.put hplace .directory⟩
    by_cases he : e = .notFound
    · subst he
      rw [makeDirectories_of_notFound h₁, makeDirectories_of_notFound h₂]
      obtain ⟨hresult, halike⟩ := ih
      cases hmade₁ : t₁.makeDirectories cwd outer with
      | mk made₁ result₁ =>
        cases hmade₂ : t₂.makeDirectories cwd outer with
        | mk made₂ result₂ =>
          rw [hmade₁, hmade₂] at hresult halike
          dsimp only at hresult halike
          subst hresult
          cases result₁ with
          | error e => exact ⟨rfl, halike⟩
          | ok _ =>
            have hstations := fun station hstation => halike.way station (hway hstation)
            rcases makeDirectory_congr hstations with ⟨place, hplace, h₁, h₂⟩ | ⟨e, h₁, h₂⟩
            · dsimp only
              rw [h₁, h₂]
              exact ⟨rfl, halike.put hplace .directory⟩
            · dsimp only
              rw [h₁, h₂, isDirectory_congr hstations]
              exact ⟨rfl, halike⟩
    · rw [makeDirectories_of_error h₁ he, makeDirectories_of_error h₂ he,
        isDirectory_congr fun station hstation => h.way station (hway hstation)]
      exact ⟨rfl, h⟩

/-! ## Writing -/

theorem write_congr (h : AlikeFor cwd path t₁ t₂) (c₁ c₂ : Content) :
    (∃ made₁ made₂, t₁.write cwd path c₁ = .ok made₁ ∧ t₂.write cwd path c₂ = .ok made₂) ∨
    ∃ e, t₁.write cwd path c₁ = .error e ∧ t₂.write cwd path c₂ = .error e := by
  have hway : ∀ station ∈ (origin cwd path).stations (Path.names path).dropLast,
      t₁.kindAt station = t₂.kindAt station := fun station hstation =>
    h.way station (List.mem_append_left _ hstation)
  unfold write
  rw [target_congr hway]
  cases hfound : t₂.target cwd path with
  | error e => exact .inr ⟨e, rfl, rfl⟩
  | ok found =>
    obtain ⟨place, name?⟩ := found
    cases name? with
    | none => exact .inr ⟨.isDirectory, rfl, rfl⟩
    | some name =>
      obtain ⟨hstation, hgoal⟩ := goal_of_target hfound
      have henter := enter_congr (hway place hstation) name
      dsimp only [bind, Except.bind]
      rw [henter]
      split
      · exact .inr ⟨.isDirectory, rfl, rfl⟩
      cases hentered : t₂.enter place name with
      | error e => exact .inr ⟨e, rfl, rfl⟩
      | ok goal =>
        have hdirectory : t₁.node? goal = some .directory ↔ t₂.node? goal = some .directory := by
          rw [enter_eq_step hentered, ← hgoal, ← kindAt_eq_true_iff, ← kindAt_eq_true_iff]
          exact h.goal
        dsimp only
        by_cases hgoal₂ : t₂.node? goal = some .directory
        · rw [hgoal₂, hdirectory.mpr hgoal₂]
          exact .inr ⟨.isDirectory, rfl, rfl⟩
        · have hgoal₁ := mt hdirectory.mp hgoal₂
          refine .inl ⟨t₁.put goal (.file c₁), t₂.put goal (.file c₂), ?_, ?_⟩
          · split
            · next hfound => exact absurd hfound hgoal₁
            · rfl
          · split
            · next hfound => exact absurd hfound hgoal₂
            · rfl

/-- A document is written into both trees, or into neither for the same cause. -/
theorem writeDocument_congr (h : AlikeFor cwd path t₁ t₂) (d₁ d₂ : String) :
    (t₁.writeDocument cwd path d₁).2 = (t₂.writeDocument cwd path d₂).2 := by
  have houter : ∀ outer ∈ outerPaths path, stationsOf cwd outer ⊆ wayOf cwd path := by
    intro outer houter station hstation
    exact List.mem_append_right _ (List.mem_flatMap.mpr ⟨outer, houter, hstation⟩)
  obtain ⟨hresult, halike⟩ := makeDirectories_congr h houter
  rw [writeDocument_eq, writeDocument_eq]
  cases hmade₁ : t₁.makeDirectories cwd (outerPaths path) with
  | mk made₁ result₁ =>
    cases hmade₂ : t₂.makeDirectories cwd (outerPaths path) with
    | mk made₂ result₂ =>
      rw [hmade₁, hmade₂] at hresult halike
      dsimp only at hresult halike
      subst hresult
      cases result₁ with
      | error e => rfl
      | ok _ =>
        dsimp only
        rcases write_congr halike (.text d₁) (.text d₂) with
          ⟨written₁, written₂, h₁, h₂⟩ | ⟨e, h₁, h₂⟩
        · rw [h₁, h₂]
        · rw [h₁, h₂]

end Tree

end SchemaGen.Files
