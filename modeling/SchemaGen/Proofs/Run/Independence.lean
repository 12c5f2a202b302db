import SchemaGen.Proofs.CommandLine.Precedence
import SchemaGen.Proofs.Config.Sections
import SchemaGen.Proofs.Files.Alike
import SchemaGen.Proofs.Run.Completion
import SchemaGen.Proofs.Zod.Assembly

/-! # Local runs beside settings of a server

A run that reads a database or an export has no use for the settings of a server, but they are
checked with the others. So two such runs whose settings differ in them alone end in the same way
and write the same document, up to the time stamp, provided that in both the settings of the server
are accepted (`local_runs_agree`); with an address that is none of the web a run fails.
-/

namespace SchemaGen

set_option autoImplicit false

open SchemaGen.Config SchemaGen.CommandLine SchemaGen.Schema

variable {w w₁ w₂ : World} {o : Options} {s : Source}

/-! ## Local sources -/

/-- The database or the export that options name. -/
def localSource? (o : Options) : Option Source :=
  match o.value? .db, o.value? .json with
  | some path, _ => some (.database path)
  | none, some path => some (.exported path)
  | none, none => none

theorem source_of_local (h : localSource? o = some s) :
    s.isRemote = false ∧ ∀ c, CommandLine.source o c = .ok s := by
  unfold localSource? at h
  unfold CommandLine.source
  cases hdb : o.value? .db with
  | some path =>
    rw [hdb] at h
    cases h
    exact ⟨rfl, fun _ => rfl⟩
  | none =>
    rw [hdb] at h
    cases hjson : o.value? .json with
    | some path =>
      rw [hjson] at h
      cases h
      exact ⟨rfl, fun _ => rfl⟩
    | none =>
      rw [hjson] at h
      cases h

/-- The path of a local source leads to the same in both worlds. -/
def SameFile (w₁ w₂ : World) : Source → Prop
  | .exported path => w₁.tree.find w₁.cwd path = w₂.tree.find w₂.cwd path
  | .database path =>
    w₁.tree.isFile w₁.cwd path = w₂.tree.isFile w₂.cwd path ∧
      (Source.Database.locate path >>= Source.Database.contentAt w₁.tree w₁.cwd) =
        (Source.Database.locate path >>= Source.Database.contentAt w₂.tree w₂.cwd)
  | .token .. | .password .. => False

theorem result_read_of_sameFile (h : SameFile w₁ w₂ s) (server₁ server₂ : Web.Server) :
    (Source.read w₁.tree w₁.cwd server₁ s).result =
      (Source.read w₂.tree w₂.cwd server₂ s).result := by
  cases s with
  | exported path =>
    have hexport : Source.readExport w₁.tree w₁.cwd path = Source.readExport w₂.tree w₂.cwd path := by
      unfold Source.readExport Files.Tree.readText Files.Tree.read
      rw [show w₁.tree.find w₁.cwd path = w₂.tree.find w₂.cwd path from h]
    dsimp only [Source.read]
    rw [hexport]
  | database path =>
    have hdatabase : Source.readDatabase w₁.tree w₁.cwd path =
        Source.readDatabase w₂.tree w₂.cwd path := by
      unfold Source.readDatabase Source.Database.readPath
      rw [h.1, h.2]
    dsimp only [Source.read]
    rw [hdatabase]
  | token | password => exact h.elim

/-! ## Documents -/

/-- The documents are the same, up to the stamps of two instants. -/
def SameButStamp (t₁ t₂ : Time.Instant) (d₁ d₂ : String) : Prop :=
  d₁ = d₂ ∨ ∃ before after, d₁ = before ++ "// Generated at: " ++ t₁.stamp ++ after ∧
    d₂ = before ++ "// Generated at: " ++ t₂.stamp ++ after

/-- The stamp stands in one place of a document, whatever the time is. -/
theorem exists_generate_eq (settings : Zod.Settings) (collections : List Collection)
    (source : String) : ∃ before after, ∀ t : Time.Instant,
      (Zod.generate settings collections (some ⟨source, t⟩)).document =
        before ++ "// Generated at: " ++ t.stamp ++ after := by
  let parts := Zod.preamble settings (Zod.sortedNames collections) ++
    (Zod.blocks settings (Zod.sortByName collections)).map Zod.renderAll
  refine ⟨String.join (["// Generated from: " ++ source].map Zod.above),
    String.join (parts.map Zod.below) ++ "\n", fun t => ?_⟩
  have hcomment : "// Generated at: " ++ t.stamp ≠ "" := fun h =>
    absurd (String.append_eq_empty_iff.mp h).1 (by decide)
  have hcut := Zod.assemble_cons hcomment ["// Generated from: " ++ source] parts
  simp only [String.append_assoc] at hcut ⊢
  exact hcut

/-- The documents of one run in two worlds whose instants differ. -/
theorem sameButStamp_documentOf {c₁ c₂ : Config} (houtput : c₁.output = c₂.output)
    (collections : List Collection) :
    SameButStamp w₁.now w₂.now (documentOf w₁ o c₁ s collections)
      (documentOf w₂ o c₂ s collections) := by
  unfold documentOf originNote
  rw [houtput]
  split
  · obtain ⟨before, after, hstamp⟩ := exists_generate_eq {} collections s.describe
    exact .inr ⟨before, after, hstamp w₁.now, hstamp w₂.now⟩
  · exact .inl rfl

/-! ## Settings -/

/-- The merged layers of a run, which are not yet checked. -/
def settings (w : World) (o : Options) : Except Failure Value := do
  let (environment, _) ← wholeEnvironment w o
  let values ← (layers w.tree w.cwd environment).mapError .configuration
  return mergeLayers values

theorem settings_eq_ok {merged : Value} (h : settings w o = .ok merged) :
    ∃ environment told values, wholeEnvironment w o = .ok (environment, told) ∧
      layers w.tree w.cwd environment = .ok values ∧ merged = mergeLayers values := by
  obtain ⟨⟨environment, told⟩, hwhole, h⟩ := bind_eq_ok_iff.mp h
  obtain ⟨values, hlayers, h⟩ := bind_eq_ok_iff.mp h
  exact ⟨environment, told, values, hwhole, mapError_eq_ok_iff.mp hlayers, (Except.ok.inj h).symm⟩

/-- A run whose settings cannot be read fails with this. -/
theorem runWith_of_settings_error {e : Failure} (h : settings w o = .error e) :
    (runWith w o).failure = some e ∧ (runWith w o).printed = "" ∧ (runWith w o).tree = w.tree := by
  dsimp only [runWith]
  rcases bind_eq_error_iff.mp h with hwhole | ⟨⟨environment, told⟩, hwhole, h⟩
  · rw [hwhole]
    exact ⟨rfl, rfl, rfl⟩
  · rw [hwhole]
    rcases bind_eq_error_iff.mp h with hlayers | ⟨values, -, h⟩
    · obtain ⟨cause, hcause, rfl⟩ := mapError_eq_error_iff.mp hlayers
      have hload : Config.load w.tree w.cwd environment = .error cause := by
        unfold Config.load extract
        rw [hcause]
        rfl
      have hprepare : prepare w o environment = .error (.configuration cause) := by
        unfold prepare
        rw [hload]
        rfl
      dsimp only
      rw [hprepare]
      exact ⟨rfl, rfl, rfl⟩
    · cases h

theorem exitCode_of_settings_error {e : Failure} (h : settings w o = .error e) :
    e = .aborted ∨ e.exitCode = 1 := by
  rcases bind_eq_error_iff.mp h with hwhole | ⟨_, -, h⟩
  · unfold wholeEnvironment at hwhole
    split at hwhole
    · cases hwhole
    · split at hwhole
      · cases hwhole
        exact .inl rfl
      · cases hwhole
        exact .inr rfl
      · cases hwhole
      · cases hwhole
  · rcases bind_eq_error_iff.mp h with hlayers | ⟨values, -, h⟩
    · obtain ⟨cause, -, rfl⟩ := mapError_eq_error_iff.mp hlayers
      exact .inr rfl
    · cases h

/-- The path that a run writes to, if its output can be read. -/
def outputPath? (w : World) (o : Options) : Option String :=
  (settings w o).toOption.bind fun merged =>
    (outputOf merged).map fun output => (o.value? .out).getD output.path

/-- Both settings can be read and agree on the output, or neither can. A value that breaks a run off
is in both or in neither. -/
def SameOutput : Except Failure Value → Except Failure Value → Prop
  | .ok m₁, .ok m₂ => outputOf m₁ = outputOf m₂
  | .error e₁, .error e₂ => e₁ = .aborted ↔ e₂ = .aborted
  | .ok _, .error _ | .error _, .ok _ => False

/-- The settings of the server are accepted: they are texts, and the address is empty or one of the
web. -/
def AcceptsRemote (w : World) (o : Options) : Prop :=
  ∀ merged, settings w o = .ok merged → ∃ r, remoteOf merged = some r ∧ r.isReachable

/-- Two worlds differ for a local run in the settings of the server only: those of the output are
the same, the source is the same, and the same kinds of things stand on the way to the output. -/
structure SameButRemote (w₁ w₂ : World) (o : Options) (s : Source) : Prop where
  cwd : w₁.cwd = w₂.cwd
  output : SameOutput (settings w₁ o) (settings w₂ o)
  source : SameFile w₁ w₂ s
  way : ∀ path, outputPath? w₁ o = some path →
    Files.Tree.AlikeFor w₁.cwd path w₁.tree w₂.tree

/-- Two runs end in the same way. Both write a document to one path, and it is the same up to the
stamp, or both leave all files as they are. -/
structure SameEnd (w₁ w₂ : World) (path? : Option String) (r₁ r₂ : Outcome) : Prop where
  exitCode : r₁.exitCode = r₂.exitCode
  printed : r₁.printed = r₂.printed
  written : r₁.exitCode = 0 → ∃ path d₁ d₂, path? = some path ∧
    r₁.tree.find w₁.cwd path = .ok (.file (.text d₁)) ∧
    r₂.tree.find w₂.cwd path = .ok (.file (.text d₂)) ∧ SameButStamp w₁.now w₂.now d₁ d₂
  kept : r₁.exitCode ≠ 0 → w₁.tree.SameFiles r₁.tree ∧ w₂.tree.SameFiles r₂.tree

/-! ## Ends that agree -/

section Ends

variable {path? : Option String} {r₁ r₂ : Outcome}

theorem SameEnd.tell (h : SameEnd w₁ w₂ path? r₁ r₂) (arrivals₁ arrivals₂ : List Web.Message)
    (notices₁ notices₂ : List Notice) :
    SameEnd w₁ w₂ path? { r₁ with arrivals := arrivals₁, notices := notices₁ }
      { r₂ with arrivals := arrivals₂, notices := notices₂ } :=
  ⟨h.exitCode, h.printed, h.written, h.kept⟩

theorem sameFiles_refl (tree : Files.Tree) : tree.SameFiles tree := fun _ _ => Iff.rfl

theorem sameEnd_of_failures {e₁ e₂ : Failure} (h : e₁.exitCode = e₂.exitCode)
    (hne : e₁.exitCode ≠ 0) (h₁ : r₁.failure = some e₁ ∧ r₁.printed = "" ∧ r₁.tree = w₁.tree)
    (h₂ : r₂.failure = some e₂ ∧ r₂.printed = "" ∧ r₂.tree = w₂.tree) :
    SameEnd w₁ w₂ path? r₁ r₂ := by
  obtain ⟨hfailure₁, hprinted₁, htree₁⟩ := h₁
  obtain ⟨hfailure₂, hprinted₂, htree₂⟩ := h₂
  have hcode₁ : r₁.exitCode = e₁.exitCode := by rw [Outcome.exitCode, hfailure₁]; rfl
  have hcode₂ : r₂.exitCode = e₂.exitCode := by rw [Outcome.exitCode, hfailure₂]; rfl
  refine ⟨by rw [hcode₁, hcode₂, h], by rw [hprinted₁, hprinted₂], ?_, ?_⟩
  · intro hzero
    exact absurd (hcode₁.symm.trans hzero) hne
  · intro _
    rw [htree₁, htree₂]
    exact ⟨sameFiles_refl _, sameFiles_refl _⟩

variable {c₁ c₂ : Config} {collections : List Collection}

theorem outputPath_congr (houtput : c₁.output = c₂.output) :
    outputPath o c₁ = outputPath o c₂ := by
  rw [outputPath, outputPath, houtput]

theorem sameEnd_publish (houtput : c₁.output = c₂.output) (hcwd : w₁.cwd = w₂.cwd)
    (hpath : path? = some (outputPath o c₁))
    (hway : Files.Tree.AlikeFor w₁.cwd (outputPath o c₁) w₁.tree w₂.tree) :
    SameEnd w₁ w₂ path?
      (publish w₁ o ⟨s, outputPath o c₁, wantsProvenance o c₁ s⟩ collections)
      (publish w₂ o ⟨s, outputPath o c₂, wantsProvenance o c₂ s⟩ collections) := by
  have hpaths := outputPath_congr (o := o) houtput
  have hresult := Files.Tree.writeDocument_congr hway (documentOf w₁ o c₁ s collections)
    (documentOf w₂ o c₂ s collections)
  cases hwrite₁ : w₁.tree.writeDocument w₁.cwd (outputPath o c₁)
      (documentOf w₁ o c₁ s collections) with
  | mk tree₁ result₁ =>
    cases hwrite₂ : w₂.tree.writeDocument w₂.cwd (outputPath o c₂)
        (documentOf w₂ o c₂ s collections) with
    | mk tree₂ result₂ =>
      rw [hwrite₁, hcwd, hpaths, hwrite₂] at hresult
      obtain rfl : result₁ = result₂ := hresult
      cases result₁ with
      | ok _ =>
        have h₁ := succeeds_publish hwrite₁
        have h₂ := succeeds_publish hwrite₂
        have hfound₂ := (congrArg (Files.Tree.find _ w₂.cwd) hpaths).trans h₂.found
        refine ⟨h₁.exitCode.trans h₂.exitCode.symm, ?_, fun _ => ?_, ?_⟩
        · rw [h₁.printed, h₂.printed, hpaths]
        · exact ⟨outputPath o c₁, documentOf w₁ o c₁ s collections, documentOf w₂ o c₂ s collections,
            hpath, h₁.found, hfound₂, sameButStamp_documentOf houtput collections⟩
        · exact fun hne => absurd h₁.exitCode hne
      | error e =>
        obtain ⟨hfailure₁, hprinted₁, htree₁⟩ := publish_of_error hwrite₁
        obtain ⟨hfailure₂, hprinted₂, htree₂⟩ := publish_of_error hwrite₂
        refine ⟨?_, hprinted₁.trans hprinted₂.symm, fun hzero => ?_, fun _ => ?_⟩
        · rw [Outcome.exitCode, Outcome.exitCode, hfailure₁, hfailure₂]
        · rw [Outcome.exitCode, hfailure₁] at hzero
          cases hzero
        · rw [htree₁, htree₂]
          exact ⟨(Files.Tree.extends_of_writeDocument_error hwrite₁).sameFiles,
            (Files.Tree.extends_of_writeDocument_error hwrite₂).sameFiles⟩

/-- The failure of a run whose source gives no collections. -/
def stopFailure (s : Source) : Source.Stop → Failure
  | .failed cause => .source s.describe cause
  | .aborted => .aborted

theorem work_of_error {proxies : Web.Proxies} {t : Task} {e : Source.Stop}
    (h : (Source.read w.tree w.cwd (w.network.server proxies) t.source).result = .error e) :
    (work w o proxies t).failure = some (stopFailure t.source e) ∧
      (work w o proxies t).printed = "" ∧ (work w o proxies t).tree = w.tree := by
  dsimp only [work]
  rw [h]
  cases e <;> exact ⟨rfl, rfl, rfl⟩

theorem sameEnd_work (houtput : c₁.output = c₂.output) (hcwd : w₁.cwd = w₂.cwd)
    (hpath : path? = some (outputPath o c₁)) (hsource : SameFile w₁ w₂ s)
    (hway : Files.Tree.AlikeFor w₁.cwd (outputPath o c₁) w₁.tree w₂.tree)
    (proxies₁ proxies₂ : Web.Proxies) :
    SameEnd w₁ w₂ path?
      (work w₁ o proxies₁ ⟨s, outputPath o c₁, wantsProvenance o c₁ s⟩)
      (work w₂ o proxies₂ ⟨s, outputPath o c₂, wantsProvenance o c₂ s⟩) := by
  have hread := result_read_of_sameFile hsource (w₁.network.server proxies₁)
    (w₂.network.server proxies₂)
  cases hresult : (Source.read w₂.tree w₂.cwd (w₂.network.server proxies₂) s).result with
  | error e =>
    rw [hresult] at hread
    have h₁ := work_of_error (o := o) (t := ⟨s, outputPath o c₁, wantsProvenance o c₁ s⟩) hread
    have h₂ := work_of_error (o := o) (t := ⟨s, outputPath o c₂, wantsProvenance o c₂ s⟩) hresult
    refine sameEnd_of_failures rfl ?_ h₁ h₂
    cases e <;> nofun
  | ok collections =>
    rw [hresult] at hread
    dsimp only [work]
    rw [hread, hresult]
    exact (sameEnd_publish houtput hcwd hpath hway).tell ..

end Ends

/-! ## The whole run -/

/-- A run whose settings can be read and whose server is accepted. -/
theorem runWith_of_settings {merged : Value} {r : Remote} {output : Output}
    (hsettings : settings w o = .ok merged) (hremote : remoteOf merged = some r)
    (hreachable : r.isReachable) (houtput : outputOf merged = some output)
    (hpath : Text.allBlank output.path = false) (hlocal : localSource? o = some s) :
    ∃ proxies notices, runWith w o =
      { work w o proxies ⟨s, outputPath o ⟨r, output⟩, wantsProvenance o ⟨r, output⟩ s⟩ with
        notices } := by
  obtain ⟨environment, told, values, hwhole, hlayers, rfl⟩ := settings_eq_ok hsettings
  have hload : Config.load w.tree w.cwd environment = .ok ⟨r, output⟩ :=
    (load_eq_ok_iff_sections hlayers).mpr ⟨houtput, hpath, hremote, hreachable⟩
  dsimp only [runWith]
  rw [hwhole]
  dsimp only
  rw [prepare_of_source hload ((source_of_local hlocal).2 _)]
  exact ⟨_, _, rfl⟩

/-- A run whose settings can be read and are not all valid. -/
theorem runWith_of_invalid {merged : Value} (hsettings : settings w o = .ok merged)
    (hinvalid : ∀ r output, remoteOf merged = some r → outputOf merged = some output →
      Text.allBlank output.path = false → ¬r.isReachable) :
    ∃ e : Failure, e.exitCode = 1 ∧ (runWith w o).failure = some e ∧ (runWith w o).printed = "" ∧
      (runWith w o).tree = w.tree := by
  obtain ⟨environment, told, values, hwhole, hlayers, rfl⟩ := settings_eq_ok hsettings
  cases hload : Config.load w.tree w.cwd environment with
  | ok c =>
    obtain ⟨houtput, hpath, hremote, hreachable⟩ := (load_eq_ok_iff_sections hlayers).mp hload
    exact absurd hreachable (hinvalid _ _ hremote houtput hpath)
  | error cause =>
    have hprepare : prepare w o environment = .error (.configuration cause) := by
      unfold prepare
      rw [hload]
      rfl
    refine ⟨.configuration cause, rfl, ?_⟩
    dsimp only [runWith]
    rw [hwhole]
    dsimp only
    rw [hprepare]
    exact ⟨rfl, rfl, rfl⟩

theorem sameEnd_runWith (hlocal : localSource? o = some s) (hsame : SameButRemote w₁ w₂ o s)
    (haccepts₁ : AcceptsRemote w₁ o) (haccepts₂ : AcceptsRemote w₂ o) :
    SameEnd w₁ w₂ (outputPath? w₁ o) (runWith w₁ o) (runWith w₂ o) := by
  have hboth := hsame.output
  cases hsettings₁ : settings w₁ o with
  | error e₁ =>
    cases hsettings₂ : settings w₂ o with
    | ok m₂ =>
      rw [hsettings₁, hsettings₂] at hboth
      exact hboth.elim
    | error e₂ =>
      rw [hsettings₁, hsettings₂] at hboth
      have hfailures : e₁.exitCode = e₂.exitCode ∧ e₁.exitCode ≠ 0 := by
        rcases exitCode_of_settings_error hsettings₁ with rfl | hone₁
        · rw [hboth.mp rfl]
          exact ⟨rfl, nofun⟩
        · rcases exitCode_of_settings_error hsettings₂ with rfl | hone₂
          · rw [hboth.mpr rfl]
            exact ⟨rfl, nofun⟩
          · rw [hone₁, hone₂]
            exact ⟨rfl, nofun⟩
      exact sameEnd_of_failures hfailures.1 hfailures.2 (runWith_of_settings_error hsettings₁)
        (runWith_of_settings_error hsettings₂)
  | ok m₁ =>
    cases hsettings₂ : settings w₂ o with
    | error e₂ =>
      rw [hsettings₁, hsettings₂] at hboth
      exact hboth.elim
    | ok m₂ =>
      rw [hsettings₁, hsettings₂] at hboth
      have houtput : outputOf m₁ = outputOf m₂ := hboth
      obtain ⟨remote₁, hremote₁, hreachable₁⟩ := haccepts₁ m₁ hsettings₁
      obtain ⟨remote₂, hremote₂, hreachable₂⟩ := haccepts₂ m₂ hsettings₂
      by_cases hvalid : ∃ output, outputOf m₁ = some output ∧ Text.allBlank output.path = false
      · obtain ⟨output, houtput₁, hpath⟩ := hvalid
        obtain ⟨proxies₁, notices₁, hrun₁⟩ :=
          runWith_of_settings hsettings₁ hremote₁ hreachable₁ houtput₁ hpath hlocal
        obtain ⟨proxies₂, notices₂, hrun₂⟩ := runWith_of_settings hsettings₂ hremote₂ hreachable₂
          (houtput ▸ houtput₁) hpath hlocal
        have hwritten : outputPath? w₁ o = some (outputPath o ⟨remote₁, output⟩) := by
          rw [outputPath?, hsettings₁]
          simp only [Except.toOption, Option.bind_some, houtput₁]
          rfl
        have hsections : (Config.mk remote₁ output).output = (Config.mk remote₂ output).output := rfl
        rw [hrun₁, hrun₂]
        exact (sameEnd_work hsections hsame.cwd hwritten hsame.source (hsame.way _ hwritten)
          proxies₁ proxies₂).tell ..
      · obtain ⟨e₁, hone₁, hrun₁⟩ := runWith_of_invalid hsettings₁ fun _ output _ h hpath =>
          absurd ⟨output, h, hpath⟩ hvalid
        obtain ⟨e₂, hone₂, hrun₂⟩ := runWith_of_invalid hsettings₂ fun _ output _ h hpath =>
          absurd ⟨output, houtput ▸ h, hpath⟩ hvalid
        exact sameEnd_of_failures (hone₁.trans hone₂.symm) (by rw [hone₁]; nofun) hrun₁ hrun₂

/-- Runs of one command line that names a local source agree if their worlds differ in the settings
of the server only and these are accepted in both. An address that is none of the web is not
accepted: the run fails, and leaves all files as they are. -/
theorem local_runs_agree {args : List String} (hread : CommandLine.read args = .ok o)
    (hlocal : localSource? o = some s) :
    (∀ w₁ w₂ : World, SameButRemote w₁ w₂ o s → AcceptsRemote w₁ o → AcceptsRemote w₂ o →
      SameEnd w₁ w₂ (outputPath? w₁ o) (run w₁ args) (run w₂ args)) ∧
    ∀ (w : World) (merged : Value) (r : Remote), settings w o = .ok merged →
      remoteOf merged = some r → ¬r.isReachable →
        (run w args).exitCode = 1 ∧ (run w args).printed = "" ∧ (run w args).tree = w.tree := by
  refine ⟨fun w₁ w₂ hsame haccepts₁ haccepts₂ => ?_, fun w merged r hsettings hremote hrefused => ?_⟩
  · rw [run_of_read hread, run_of_read hread]
    exact sameEnd_runWith hlocal hsame haccepts₁ haccepts₂
  · obtain ⟨e, hone, hfailure, hprinted, htree⟩ := runWith_of_invalid hsettings
      fun _ _ h _ _ => Option.some.inj (hremote.symm.trans h) ▸ hrefused
    rw [run_of_read hread]
    refine ⟨?_, hprinted, htree⟩
    rw [Outcome.exitCode, hfailure]
    exact hone

/-! ### An export beside a server -/

def stampedArguments : List String := exportArguments ++ ["--provenance"]

def stampedOptions : Options := exportOptions.setFlag .provenance

/-- The world of the export later on, with a server in the variables and in a file of settings. -/
def serverWorld : World :=
  { exportWorld with
    tree := ⟨(["pocketbase-zod.toml"], .file (.text "[remote]\nemail = \"a@b.c\"\n")) ::
      exportWorld.tree.nodes⟩
    environment := [("PB_TYPEGEN_URL", "http://pb"), ("PB_TYPEGEN_TOKEN", "tok")]
    now := ⟨60, 0⟩ }

/-- The world of the export with an address that is none of the web. -/
def refusedWorld : World :=
  { exportWorld with environment := [("PB_TYPEGEN_URL", "pb.example.com")] }

theorem exists_settings {r : Remote} {output : Output}
    (h : ((settings w o).toOption.map fun m => (remoteOf m, outputOf m)) =
      some (some r, some output)) :
    ∃ merged, settings w o = .ok merged ∧ remoteOf merged = some r ∧
      outputOf merged = some output := by
  obtain ⟨merged, hmerged, hsections⟩ := Option.map_eq_some_iff.mp h
  obtain ⟨hremote, houtput⟩ := Prod.mk.injEq .. ▸ hsections
  exact ⟨merged, eq_ok_of_toOption hmerged, hremote, houtput⟩

theorem settings_exportWorld : ∃ merged, settings exportWorld stampedOptions = .ok merged ∧
    remoteOf merged = some {} ∧ outputOf merged = some {} :=
  exists_settings (by decide +kernel)

theorem settings_serverWorld : ∃ merged, settings serverWorld stampedOptions = .ok merged ∧
    remoteOf merged = some { url := "http://pb", token := "tok", email := "a@b.c" } ∧
      outputOf merged = some {} :=
  exists_settings (by decide +kernel)

theorem settings_refusedWorld : ∃ merged, settings refusedWorld stampedOptions = .ok merged ∧
    remoteOf merged = some { url := "pb.example.com" } ∧ outputOf merged = some {} :=
  exists_settings (by decide +kernel)

theorem sameButRemote_of_settings {w : World} {m₁ m₂ : Value} {output : Output}
    (hcwd : w.cwd = exportWorld.cwd) (h₁ : settings exportWorld stampedOptions = .ok m₁)
    (h₂ : settings w stampedOptions = .ok m₂) (houtput₁ : outputOf m₁ = some output)
    (houtput₂ : outputOf m₂ = some output)
    (hfile : exportWorld.tree.find [] "a.json" = w.tree.find [] "a.json")
    (hway : ∀ station ∈ Files.wayOf [] "lib/a.ts",
      exportWorld.tree.kindAt station = w.tree.kindAt station)
    (hgoal : exportWorld.tree.kindAt (Files.goalOf [] "lib/a.ts") =
      w.tree.kindAt (Files.goalOf [] "lib/a.ts")) :
    SameButRemote exportWorld w stampedOptions (.exported "a.json") := by
  refine ⟨hcwd.symm, ?_, ?_, ?_⟩
  · rw [h₁, h₂]
    exact houtput₁.trans houtput₂.symm
  · show exportWorld.tree.find [] "a.json" = w.tree.find w.cwd "a.json"
    rw [hcwd]
    exact hfile
  · intro path hpath
    obtain rfl : "lib/a.ts" = path := by
      rw [outputPath?, h₁] at hpath
      simp only [Except.toOption, Option.bind_some, houtput₁] at hpath
      exact Option.some.inj hpath
    exact ⟨hway, Iff.of_eq (congrArg (· = some true) hgoal)⟩

theorem sameButRemote_serverWorld :
    SameButRemote exportWorld serverWorld stampedOptions (.exported "a.json") := by
  obtain ⟨m₁, h₁, -, houtput₁⟩ := settings_exportWorld
  obtain ⟨m₂, h₂, -, houtput₂⟩ := settings_serverWorld
  exact sameButRemote_of_settings rfl h₁ h₂ houtput₁ houtput₂ rfl (by decide +kernel)
    (by decide +kernel)

theorem acceptsRemote_of_settings {merged : Value} {r : Remote}
    (h : settings w o = .ok merged) (hremote : remoteOf merged = some r)
    (hreachable : r.isReachable) : AcceptsRemote w o := by
  intro other hother
  obtain rfl := Except.ok.inj (h.symm.trans hother)
  exact ⟨r, hremote, hreachable⟩

theorem sameEnd_serverWorld : CommandLine.read stampedArguments = .ok stampedOptions ∧
    SameEnd exportWorld serverWorld (some "lib/a.ts") (run exportWorld stampedArguments)
      (run serverWorld stampedArguments) ∧
    (run refusedWorld stampedArguments).exitCode = 1 := by
  have hread : CommandLine.read stampedArguments = .ok stampedOptions := rfl
  have hagree := local_runs_agree hread (s := .exported "a.json") rfl
  obtain ⟨m₁, h₁, hremote₁, houtput₁⟩ := settings_exportWorld
  obtain ⟨m₂, h₂, hremote₂, -⟩ := settings_serverWorld
  obtain ⟨m₃, h₃, hremote₃, -⟩ := settings_refusedWorld
  have haccepts₁ := acceptsRemote_of_settings h₁ hremote₁ (.inl rfl)
  have haccepts₂ := acceptsRemote_of_settings h₂ hremote₂ (.inr (by decide))
  have hend := hagree.1 _ _ sameButRemote_serverWorld haccepts₁ haccepts₂
  have hrefused := hagree.2 _ _ _ h₃ hremote₃ (by unfold Remote.isReachable; decide)
  have hpath : outputPath? exportWorld stampedOptions = some "lib/a.ts" := by
    rw [outputPath?, h₁]
    simp only [Except.toOption, Option.bind_some, houtput₁]
    rfl
  exact ⟨hread, hpath ▸ hend, hrefused.1⟩

theorem exitCode_exportWorld : (runWith exportWorld stampedOptions).exitCode = 0 := by
  have h : Completes exportWorld stampedOptions [] {} (.exported "a.json")
      [⟨"a", .base, some []⟩] :=
    { defined := ⟨[], rfl⟩
      configuration := eq_ok_of_toOption (by decide +kernel)
      chosen := rfl
      fetched := eq_ok_of_toOption (by decide +kernel)
      written := rfl }
  exact (succeeds_of_completes h).exitCode

/-- Settings of the server may make a local run fail. -/
theorem not_local_runs_agree : ¬∀ (args : List String) (o : Options) (s : Source)
    (w₁ w₂ : World), CommandLine.read args = .ok o → localSource? o = some s →
      SameButRemote w₁ w₂ o s → (run w₁ args).exitCode = (run w₂ args).exitCode := by
  intro h
  have hread : CommandLine.read stampedArguments = .ok stampedOptions := rfl
  obtain ⟨m₁, h₁, -, houtput₁⟩ := settings_exportWorld
  obtain ⟨m₂, h₂, hremote₂, houtput₂⟩ := settings_refusedWorld
  have hsame : SameButRemote exportWorld refusedWorld stampedOptions (.exported "a.json") :=
    sameButRemote_of_settings rfl h₁ h₂ houtput₁ houtput₂ rfl (fun _ _ => rfl) rfl
  obtain ⟨e, hone, hfailure, -, -⟩ := runWith_of_invalid h₂ fun r _ h _ _ => by
    obtain rfl := Option.some.inj (hremote₂.symm.trans h)
    unfold Remote.isReachable
    decide
  have hcodes := h stampedArguments _ _ exportWorld refusedWorld hread rfl hsame
  rw [run_of_read hread, run_of_read hread, exitCode_exportWorld, Outcome.exitCode, hfailure]
    at hcodes
  exact absurd (hcodes.trans hone) (by decide)

end SchemaGen
