import SchemaGen.Config.Load
import SchemaGen.Proofs.Entries
import SchemaGen.Proofs.Traversal

/-! # Variables of a file beside those of the environment

A file of variables adds to the environment what is not set yet, and nothing else
(`loadLines_eq`). So a variable of the file that is set already does not count, nor does one that an
earlier line of the file has set (`unset`).
-/

namespace SchemaGen.Config

set_option autoImplicit false

namespace Dotenv

/-! ## Variables that count -/

/-- Those of some variables that are not set yet, the first of each name. -/
def unset (environment : Environment) : Environment → Environment
  | [] => []
  | (name, value) :: rest =>
    if (environment.lookup name).isSome then unset environment rest
    else (name, value) :: unset (environment ++ [(name, value)]) rest

/-- The variables that lines give, one after another, whether they are set already or not. -/
def written (environment earlier : Environment) :
    List (Except DotenvError String) → Environment
  | [] | .error _ :: _ => []
  | .ok line :: rest =>
    match readLine environment earlier line with
    | .error _ => []
    | .ok none => written environment earlier rest
    | .ok (some (name, value)) =>
      (name, value) ::
        written (environment ++ unset environment [(name, value)]) ((name, value) :: earlier) rest

theorem unset_cons (environment rest : Environment) (entry : String × String) :
    unset environment (entry :: rest) =
      unset environment [entry] ++ unset (environment ++ unset environment [entry]) rest := by
  obtain ⟨name, value⟩ := entry
  by_cases h : (environment.lookup name).isSome = true
  · simp [unset, h]
  · simp [unset, h]

theorem mem_of_mem_unset {environment others : Environment} {entry : String × String}
    (h : entry ∈ unset environment others) : entry ∈ others := by
  induction others generalizing environment with
  | nil => exact h
  | cons first rest ih =>
    obtain ⟨name, value⟩ := first
    unfold unset at h
    split at h
    · exact List.mem_cons_of_mem _ (ih h)
    · rcases List.mem_cons.mp h with rfl | h
      · exact List.mem_cons_self ..
      · exact List.mem_cons_of_mem _ (ih h)

theorem not_mem_names {environment : Environment} {name : String}
    (h : ¬(environment.lookup name).isSome = true) : name ∉ environment.map Prod.fst := by
  intro hmem
  obtain ⟨entry, hentry, rfl⟩ := List.mem_map.mp hmem
  exact h (List.lookup_isSome_iff.mpr ⟨entry, hentry, beq_self_eq_true _⟩)

/-- Each name is set once. -/
theorem nodup_append_unset {environment : Environment} (h : (environment.map Prod.fst).Nodup)
    (others : Environment) :
    ((environment ++ unset environment others).map Prod.fst).Nodup := by
  induction others generalizing environment with
  | nil => simpa [unset] using h
  | cons entry rest ih =>
    obtain ⟨name, value⟩ := entry
    unfold unset
    split
    · exact ih h
    · next hname =>
      have hadded : ((environment ++ [(name, value)]).map Prod.fst).Nodup := by
        rw [List.map_append, List.map_singleton]
        refine List.nodup_append.mpr ⟨h, by simp, ?_⟩
        rintro other hother _ hmem rfl
        obtain rfl : other = name := List.mem_singleton.mp hmem
        exact not_mem_names hname hother
      have hrest := ih hadded
      rwa [List.append_assoc, List.singleton_append] at hrest

/-! ## Loading -/

theorem define_eq {environment defined : Environment} {name value : String}
    (h : define environment name value = .ok defined) :
    defined = environment ++ unset environment [(name, value)] := by
  unfold define at h
  split at h
  · next hset =>
    rw [← Except.ok.inj h]
    simp [unset, hset]
  · next hunset =>
    split at h
    · cases h
    · rw [← Except.ok.inj h]
      simp [unset, hunset]

/-- A file adds those of its variables that are not set yet. -/
theorem loadLines_eq {environment earlier loaded : Environment}
    {lines : List (Except DotenvError String)}
    (h : loadLines environment earlier lines = .ok loaded) :
    loaded = environment ++ unset environment (written environment earlier lines) := by
  induction lines generalizing environment earlier with
  | nil =>
    rw [← Except.ok.inj h]
    simp [written, unset]
  | cons first rest ih =>
    cases first with
    | error e => cases h
    | ok line =>
      unfold loadLines at h
      unfold written
      cases hline : readLine environment earlier line with
      | error e =>
        rw [hline] at h
        cases h
      | ok entry? =>
        rw [hline] at h
        cases entry? with
        | none => exact ih h
        | some entry =>
          obtain ⟨name, value⟩ := entry
          change (define environment name value).bind _ = _ at h
          cases hdefine : define environment name value with
          | error e =>
            rw [hdefine] at h
            cases h
          | ok defined =>
            obtain rfl := define_eq hdefine
            rw [hdefine] at h
            rw [unset_cons, ← List.append_assoc]
            exact ih h

end Dotenv

/-! ## Files of variables -/

open Files

/-- The environment with the variables of the file that a path means, or without a path with those
of the nearest file of variables. -/
def loadVariables (tree : Tree) (cwd : Place) (file : Option String)
    (environment : Dotenv.Environment) : Except ConfigError Dotenv.Environment :=
  match file with
  | some path => (loadEnvironment tree cwd path environment).map Prod.fst
  | none => (loadNearestEnvironment tree cwd environment).map Prod.fst

/-- The content of the file of variables, if there is one. -/
def variablesFile? (tree : Tree) (cwd : Place) : Option String → Option Content
  | some path => tree.file? cwd (Dotenv.fileOf tree cwd path)
  | none => (tree.nearestFile? cwd ".env").map Prod.snd

/-- The variables that the file of variables gives. -/
def fileVariables (tree : Tree) (cwd : Place) (file : Option String)
    (environment : Dotenv.Environment) : Dotenv.Environment :=
  match variablesFile? tree cwd file with
  | some content =>
    Dotenv.written environment [] (Dotenv.joinLines .complete [] (Dotenv.dropMark content.lines))
  | none => []

/-- Either way the variables of one file are loaded, if there is one. -/
theorem loadVariables_of_file (tree : Tree) (cwd : Place) (file : Option String)
    (environment : Dotenv.Environment) :
    loadVariables tree cwd file environment =
      match variablesFile? tree cwd file with
      | some content => (Dotenv.loadContent environment content).mapError .dotenv
      | none => .ok environment := by
  cases file with
  | some path =>
    unfold loadVariables loadEnvironment Dotenv.load variablesFile?
    dsimp only
    cases tree.file? cwd (Dotenv.fileOf tree cwd path) with
    | none => rfl
    | some content =>
      dsimp only
      cases Dotenv.loadContent environment content <;> rfl
  | none =>
    unfold loadVariables loadNearestEnvironment Dotenv.loadNearest variablesFile?
    dsimp only
    cases tree.nearestFile? cwd ".env" with
    | none => rfl
    | some found =>
      dsimp only [Option.map_some]
      cases Dotenv.loadContent environment found.2 <;> rfl

theorem loadVariables_eq {tree : Tree} {cwd : Place} {file : Option String}
    {environment loaded : Dotenv.Environment}
    (h : loadVariables tree cwd file environment = .ok loaded) :
    loaded = environment ++ Dotenv.unset environment (fileVariables tree cwd file environment) := by
  rw [loadVariables_of_file] at h
  unfold fileVariables
  cases hfile : variablesFile? tree cwd file with
  | none =>
    rw [hfile] at h
    rw [← Except.ok.inj h]
    simp [Dotenv.unset]
  | some content =>
    rw [hfile] at h
    exact Dotenv.loadLines_eq (mapError_eq_ok_iff.mp h)

end SchemaGen.Config
