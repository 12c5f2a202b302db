import SchemaGen.Proofs.Files.Changes
import SchemaGen.Proofs.Source.Breaks
import SchemaGen.Run

/-! # Runs to the end, and others

A run goes through stages: variables, configuration, source, collections, output. Where all of them
succeed (`Completes`), the document of the collections stands at the output path and the run exits
with 0 (`succeeds_of_completes`). Otherwise it prints nothing, leaves all that stood before, and exits
with 1 (`fails_of_not_completes`), unless it is broken off by a value that nothing can hold
(`BreaksOff`).
-/

namespace SchemaGen

set_option autoImplicit false

open SchemaGen.Config SchemaGen.CommandLine SchemaGen.Schema

variable {w : World} {o : Options}

/-! ## Stages -/

/-- The configuration of a run, under its variables. -/
structure Configures (w : World) (o : Options) (environment : Dotenv.Environment) (c : Config) :
    Prop where
  defined : ∃ told, wholeEnvironment w o = .ok (environment, told)
  configuration : Config.load w.tree w.cwd environment = .ok c

/-- The note of origin in the document: for a server, or where it is asked for. -/
def originNote (w : World) (o : Options) (c : Config) (s : Source) : Option Zod.Provenance :=
  if s.isRemote = true ∨ o.isSet .provenance = true ∨ c.output.provenance = true then
    some ⟨s.describe, w.now⟩
  else none

/-- The document of collections. -/
def documentOf (w : World) (o : Options) (c : Config) (s : Source)
    (collections : List Collection) : String :=
  (Zod.generate {} collections (originNote w o c s)).document

/-- All stages of a run succeed. -/
structure Completes (w : World) (o : Options) (environment : Dotenv.Environment) (c : Config)
    (s : Source) (collections : List Collection) : Prop
    extends Configures w o environment c where
  chosen : CommandLine.source o c = .ok s
  fetched : (Source.read w.tree w.cwd (w.network.server (.ofEnvironment environment)) s).result =
    .ok collections
  written : (w.tree.writeDocument w.cwd (outputPath o c) (documentOf w o c s collections)).2 = .ok ()

/-! ## Ends -/

/-- The run has written its document. -/
structure Succeeds (w : World) (o : Options) (c : Config) (s : Source)
    (collections : List Collection) (r : Outcome) : Prop where
  exitCode : r.exitCode = 0
  printed : r.printed = if o.isSet .quiet then "" else successLine (outputPath o c)
  found : r.tree.find w.cwd (outputPath o c) =
    .ok (.file (.text (documentOf w o c s collections)))

/-- A value that nothing can hold: of a variable in the file that an option names, or of a cell in
the database that is read. -/
inductive BreaksOff (w : World) (o : Options) : Prop
  | variable {path name : String} :
    o.value? .env = some path →
      Dotenv.load w.tree w.cwd path w.environment = .error (.unfit name) → BreaksOff w o
  | cell {environment : Dotenv.Environment} {c : Config} {path : String}
      {table : Option Source.Table} :
    Configures w o environment c → CommandLine.source o c = .ok (.database path) →
      (Source.Database.locate path >>= Source.Database.contentAt w.tree w.cwd) =
        .ok (.database table) →
        Source.Database.Breaking table → BreaksOff w o

/-- The run has failed and left everything as it was, but for new directories that were to hold the
output. -/
structure Fails (w : World) (o : Options) (r : Outcome) : Prop where
  exitCode : r.exitCode = 1 ∨ r.exitCode = 101 ∧ BreaksOff w o
  printed : r.printed = ""
  tree : r.tree = w.tree ∨ ∃ environment c, Configures w o environment c ∧
    Files.Tree.Extends w.cwd (Files.Tree.outerPaths (outputPath o c)) w.tree r.tree

/-! How a run ends does not depend on what it tells and what arrives at servers. -/

theorem Succeeds.tell {c : Config} {s : Source} {collections : List Collection} {r : Outcome}
    (h : Succeeds w o c s collections r) (arrivals : List Web.Message) (notices : List Notice) :
    Succeeds w o c s collections { r with arrivals, notices } :=
  ⟨h.exitCode, h.printed, h.found⟩

theorem Fails.tell {r : Outcome} (h : Fails w o r) (arrivals : List Web.Message)
    (notices : List Notice) : Fails w o { r with arrivals, notices } :=
  ⟨h.exitCode, h.printed, h.tree⟩

theorem fails_of_failure {e : Failure}
    (h : e.exitCode = 1 ∨ e.exitCode = 101 ∧ BreaksOff w o) (notices : List Notice) :
    Fails w o { tree := w.tree, failure := some e, notices } :=
  ⟨h, rfl, .inl rfl⟩

/-! ## Each stage -/

theorem note?_task (w : World) (o : Options) (c : Config) (s : Source) (output : String) :
    (Task.mk s output (wantsProvenance o c s)).note? w.now = originNote w o c s := by
  unfold Task.note? originNote wantsProvenance
  simp only [Bool.or_eq_true, or_assoc]

theorem prepare_eq_ok {environment : Dotenv.Environment} {t : Task}
    (h : prepare w o environment = .ok t) :
    ∃ c s, Config.load w.tree w.cwd environment = .ok c ∧ CommandLine.source o c = .ok s ∧
      t = ⟨s, outputPath o c, wantsProvenance o c s⟩ := by
  obtain ⟨c, hload, htask⟩ := bind_eq_ok_iff.mp h
  obtain ⟨s, hsource, ht⟩ := bind_eq_ok_iff.mp htask
  cases ht
  exact ⟨c, s, mapError_eq_ok_iff.mp hload, mapError_eq_ok_iff.mp hsource, rfl⟩

theorem prepare_of_source {environment : Dotenv.Environment} {c : Config} {s : Source}
    (hload : Config.load w.tree w.cwd environment = .ok c)
    (hsource : CommandLine.source o c = .ok s) :
    prepare w o environment = .ok ⟨s, outputPath o c, wantsProvenance o c s⟩ := by
  refine bind_eq_ok_iff.mpr ⟨c, mapError_eq_ok_iff.mpr hload, ?_⟩
  exact bind_eq_ok_iff.mpr ⟨s, mapError_eq_ok_iff.mpr hsource, rfl⟩

/-- A failure in preparing is told with 1. -/
theorem exitCode_of_prepare_error {environment : Dotenv.Environment} {e : Failure}
    (h : prepare w o environment = .error e) : e.exitCode = 1 := by
  rcases bind_eq_error_iff.mp h with hload | ⟨c, -, htask⟩
  · obtain ⟨cause, -, rfl⟩ := mapError_eq_error_iff.mp hload
    rfl
  · rcases bind_eq_error_iff.mp htask with hsource | ⟨s, -, hpure⟩
    · obtain ⟨cause, -, rfl⟩ := mapError_eq_error_iff.mp hsource
      rfl
    · cases hpure

theorem exitCode_of_wholeEnvironment_error {e : Failure} (h : wholeEnvironment w o = .error e) :
    e.exitCode = 1 ∨ e.exitCode = 101 ∧ BreaksOff w o := by
  unfold wholeEnvironment at h
  split at h
  · cases h
  · next path hpath =>
    split at h
    · next name hload =>
      cases h
      obtain ⟨cause, hcause, htold⟩ := mapError_eq_error_iff.mp hload
      cases htold
      exact .inr ⟨rfl, .variable hpath hcause⟩
    · cases h
      exact .inl rfl
    · cases h
    · cases h

/-! ## Publishing -/

section Publishing

variable {environment : Dotenv.Environment} {c : Config} {s : Source}
  {collections : List Collection}

theorem generate_note? (w : World) (o : Options) (c : Config) (s : Source) (output : String)
    (collections : List Collection) :
    (Zod.generate {} collections
      ((Task.mk s output (wantsProvenance o c s)).note? w.now)).document =
      documentOf w o c s collections := by
  rw [note?_task]
  rfl

theorem succeeds_publish {tree : Files.Tree}
    (h : w.tree.writeDocument w.cwd (outputPath o c) (documentOf w o c s collections) =
      (tree, .ok ())) :
    Succeeds w o c s collections
      (publish w o ⟨s, outputPath o c, wantsProvenance o c s⟩ collections) := by
  dsimp only [publish]
  rw [generate_note?, h]
  exact ⟨rfl, rfl, Files.Tree.find_of_writeDocument h⟩

theorem publish_of_error {tree : Files.Tree} {e : Files.WriteError}
    (h : w.tree.writeDocument w.cwd (outputPath o c) (documentOf w o c s collections) =
      (tree, .error e)) :
    let r := publish w o ⟨s, outputPath o c, wantsProvenance o c s⟩ collections
    r.failure = some (.output e) ∧ r.printed = "" ∧ r.tree = tree := by
  dsimp only [publish]
  rw [generate_note?, h]
  exact ⟨rfl, rfl, rfl⟩

theorem fails_publish {tree : Files.Tree} {e : Files.WriteError}
    (hconfigures : Configures w o environment c)
    (h : w.tree.writeDocument w.cwd (outputPath o c) (documentOf w o c s collections) =
      (tree, .error e)) :
    Fails w o (publish w o ⟨s, outputPath o c, wantsProvenance o c s⟩ collections) := by
  obtain ⟨hfailure, hprinted, htree⟩ := publish_of_error h
  refine ⟨.inl ?_, hprinted, .inr ⟨environment, c, hconfigures, ?_⟩⟩
  · rw [Outcome.exitCode, hfailure]
    rfl
  · rw [htree]
    exact Files.Tree.extends_of_writeDocument_error h

/-! ## Working -/

theorem succeeds_work {proxies : Web.Proxies} {t : Task}
    (hread : (Source.read w.tree w.cwd (w.network.server proxies) t.source).result =
      .ok collections)
    (h : Succeeds w o c s collections (publish w o t collections)) :
    Succeeds w o c s collections (work w o proxies t) := by
  dsimp only [work]
  rw [hread]
  exact h.tell ..

theorem fails_work {proxies : Web.Proxies} {t : Task}
    (hstopped : (Source.read w.tree w.cwd (w.network.server proxies) t.source).result =
      .error .aborted → BreaksOff w o)
    (hread : ∀ collections,
      (Source.read w.tree w.cwd (w.network.server proxies) t.source).result = .ok collections →
        Fails w o (publish w o t collections)) : Fails w o (work w o proxies t) := by
  dsimp only [work]
  cases hresult : (Source.read w.tree w.cwd (w.network.server proxies) t.source).result with
  | ok collections => exact (hread collections hresult).tell ..
  | error stop =>
    cases stop with
    | failed e => exact (fails_of_failure (.inl rfl) []).tell ..
    | aborted => exact (fails_of_failure (.inr ⟨rfl, hstopped hresult⟩) []).tell ..

end Publishing

/-! ## The whole run -/

theorem succeeds_of_completes {environment : Dotenv.Environment} {c : Config} {s : Source}
    {collections : List Collection} (h : Completes w o environment c s collections) :
    Succeeds w o c s collections (runWith w o) := by
  obtain ⟨told, htold⟩ := h.defined
  have hwritten : w.tree.writeDocument w.cwd (outputPath o c) (documentOf w o c s collections) =
      (_, .ok ()) := Prod.ext rfl h.written
  dsimp only [runWith]
  rw [htold]
  dsimp only
  rw [prepare_of_source h.configuration h.chosen]
  exact (succeeds_work h.fetched (succeeds_publish hwritten)).tell ..

theorem fails_of_not_completes
    (h : ¬∃ environment c s collections, Completes w o environment c s collections) :
    Fails w o (runWith w o) := by
  dsimp only [runWith]
  cases hwhole : wholeEnvironment w o with
  | error e => exact fails_of_failure (exitCode_of_wholeEnvironment_error hwhole) []
  | ok found =>
    obtain ⟨environment, told⟩ := found
    dsimp only
    cases hprepare : prepare w o environment with
    | error e => exact (fails_of_failure (.inl (exitCode_of_prepare_error hprepare)) []).tell ..
    | ok t =>
      obtain ⟨c, s, hload, hsource, rfl⟩ := prepare_eq_ok hprepare
      have hconfigures : Configures w o environment c := ⟨⟨told, hwhole⟩, hload⟩
      refine (fails_work ?_ fun collections hread => ?_).tell ..
      · intro hstopped
        obtain ⟨path, table, rfl, htable, hbreaking⟩ := Source.breaking_of_aborted_read hstopped
        exact .cell hconfigures hsource htable hbreaking
      · cases hwrite : w.tree.writeDocument w.cwd (outputPath o c)
            (documentOf w o c s collections) with
        | mk tree result =>
          cases result with
          | ok _ =>
            exact absurd ⟨environment, c, s, collections, hconfigures, hsource, hread,
              congrArg Prod.snd hwrite⟩ h
          | error e => exact fails_publish hconfigures hwrite

theorem run_of_read {args : List String} (hread : CommandLine.read args = .ok o) :
    run w args = runWith w o := by
  rw [run, hread]

/-- A run of a command line that reads as options is all or nothing: either all stages succeed, and
the document stands at its path, or no file has changed and none is new. -/
theorem run_all_or_nothing {args : List String} (hread : CommandLine.read args = .ok o) (w : World) :
    (∀ environment c s collections, Completes w o environment c s collections →
      Succeeds w o c s collections (run w args)) ∧
    ((¬∃ environment c s collections, Completes w o environment c s collections) →
      Fails w o (run w args)) := by
  rw [run_of_read hread]
  exact ⟨fun _ _ _ _ => succeeds_of_completes, fails_of_not_completes⟩

/-! ### An export that is written to a new directory -/

def exportWorld : World where
  tree := ⟨[(["a.json"], .file (.text "[\x7b\"name\":\"a\"\x7d]"))]⟩
  cwd := []
  environment := []
  network := fun _ _ => none
  now := ⟨0, 0⟩

def exportArguments : List String := ["--json", "a.json", "--out", "lib/a.ts"]

def exportOptions : Options := (Options.setValue {} .json "a.json").setValue .out "lib/a.ts"

theorem completes_exportWorld :
    Completes exportWorld exportOptions [] {} (.exported "a.json") [⟨"a", .base, some []⟩] where
  defined := ⟨[], rfl⟩
  configuration := eq_ok_of_toOption (by decide +kernel)
  chosen := rfl
  fetched := eq_ok_of_toOption (by decide +kernel)
  written := rfl

theorem run_exportWorld : CommandLine.read exportArguments = .ok exportOptions ∧
    Succeeds exportWorld exportOptions {} (.exported "a.json") [⟨"a", .base, some []⟩]
      (run exportWorld exportArguments) := by
  have hread : CommandLine.read exportArguments = .ok exportOptions := rfl
  exact ⟨hread, (run_all_or_nothing hread exportWorld).1 _ _ _ _ completes_exportWorld⟩

/-! ### A database with a number for a name -/

def numberWorld : World where
  tree := ⟨[(["a.db"], .file (.database (some
    ⟨"_collections", ["name", "type", "fields"], [[.number, .text "base", .text "[]"]]⟩)))]⟩
  cwd := []
  environment := []
  network := fun _ _ => none
  now := ⟨0, 0⟩

def numberArguments : List String := ["--db", "a.db"]

/-- A run that does not complete may exit with another code than 1. -/
theorem not_run_exits : ¬∀ (args : List String) (o : Options) (w : World),
    CommandLine.read args = .ok o →
    (¬∃ environment c s collections, Completes w o environment c s collections) →
      (run w args).exitCode = 1 := by
  intro h
  have hread : CommandLine.read numberArguments = .ok (Options.setValue {} .db "a.db") := rfl
  have hcode : (run numberWorld numberArguments).exitCode = 101 := by decide +kernel
  have hfails : ¬∃ environment c s collections,
      Completes numberWorld (Options.setValue {} .db "a.db") environment c s collections := by
    rintro ⟨environment, c, s, collections, hcompletes⟩
    have hzero := (succeeds_of_completes hcompletes).exitCode
    rw [← run_of_read hread, hcode] at hzero
    cases hzero
  have hone := h numberArguments _ numberWorld hread hfails
  rw [hcode] at hone
  cases hone

end SchemaGen
