import SchemaGen.Proofs.Config.Credentials

/-! # The sections of a configuration

A configuration is read from the merged layers section by section: it is there exactly if both
sections are (`read_eq_ok_iff`), and is valid exactly if the output has a path and the server no
address but one of the web (`load_eq_ok_iff_sections`).
-/

namespace SchemaGen.Config

set_option autoImplicit false

open Files (Tree Place)
open Value (IsRecord)

/-! ## Merged layers -/

/-- What merged layers have for the output, if it can be read. -/
def outputOf (merged : Value) : Option Output :=
  (merged.at? ["output"]).bind fun v => (Output.form.read v).toOption

/-- What merged layers have for the server, if it can be read. -/
def remoteOf (merged : Value) : Option Remote :=
  (merged.at? ["remote"]).bind fun v => (Remote.form.read v).toOption

/-- A table with both sections. -/
structure HasSections (merged : Value) : Prop where
  isRecord : IsRecord merged
  some : ∀ name ∈ Value.sectionNames, (merged.at? [name]).isSome

theorem HasSections.merge {lower upper : Value} (h : HasSections lower) (hupper : IsRecord upper) :
    HasSections (lower.merge upper) := by
  refine ⟨h.isRecord.merge hupper, fun name hname => ?_⟩
  obtain ⟨v, hv⟩ := Option.isSome_iff_exists.mp (h.some name hname)
  rw [h.isRecord.at?_merge hupper, hv]
  cases upper.at? [name] <;> rfl

theorem HasSections.foldl {merged : Value} (h : HasSections merged) {layers : List Value}
    (hlayers : ∀ v ∈ layers, IsRecord v) : HasSections (layers.foldl Value.merge merged) :=
  List.foldlRecOn layers Value.merge h fun _ hmerged v hv => hmerged.merge (hlayers v hv)

/-! ## Layers -/

theorem isRecord_of_fileLayer {tree : Tree} {cwd : Place} {path : String} {v : Value}
    (h : fileLayer tree cwd path = .ok (some v)) : IsRecord v := by
  obtain ⟨origin, entries, rfl, hentries⟩ := orderedEntries_of_fileLayer h
  exact ⟨origin, entries, rfl, hentries.ascending⟩

theorem isRecord_variableLayer? {entry : String × String} {v : Value}
    (h : variableLayer? entry = some v) : IsRecord v := by
  obtain ⟨key, hkey, rfl⟩ := Option.map_eq_some_iff.mp h
  obtain ⟨first, rest, rfl⟩ := exists_cons_of_settingKey? hkey
  exact isRecord_nest .environment _ first rest

theorem isRecord_environmentLayer (environment : Dotenv.Environment) :
    IsRecord (environmentLayer environment) := by
  refine List.foldlRecOn _ Value.merge (sectioned_empty .environment).isRecord fun _ hmerged v hv => ?_
  obtain ⟨entry, -, hentry⟩ := List.mem_filterMap.mp hv
  exact hmerged.merge (isRecord_variableLayer? hentry)

theorem hasSections_defaults :
    HasSections ((Value.table .builtin []).merge ({} : Config).toValue) := by
  have hempty := (sectioned_empty .builtin).isRecord
  have hdefaults := sectioned_defaults.isRecord
  refine ⟨hempty.merge hdefaults, fun name hname => ?_⟩
  rw [hempty.at?_merge hdefaults]
  simp only [Value.sectionNames, List.mem_cons, List.not_mem_nil, or_false] at hname
  rcases hname with rfl | rfl <;> rfl

theorem layers_eq_ok {tree : Tree} {cwd : Place} {environment : Dotenv.Environment}
    {values : List Value} (h : layers tree cwd environment = .ok values) :
    ∃ user project, userLayer tree cwd environment = .ok user ∧
      fileLayer tree cwd projectFile = .ok project ∧
      values = fileLayers project user ++ [environmentLayer environment] := by
  rw [layers_eq] at h
  obtain ⟨user, huser, h⟩ := bind_eq_ok_iff.mp h
  obtain ⟨project, hproject, h⟩ := bind_eq_ok_iff.mp h
  exact ⟨user, project, huser, hproject, (Except.ok.inj h).symm⟩

/-- The defaults have both sections, so merged layers have them. -/
theorem hasSections_mergeLayers {tree : Tree} {cwd : Place} {environment : Dotenv.Environment}
    {values : List Value} (h : layers tree cwd environment = .ok values) :
    HasSections (mergeLayers values) := by
  obtain ⟨user, project, huser, hproject, rfl⟩ := layers_eq_ok h
  unfold mergeLayers fileLayers
  rw [List.cons_append, List.cons_append, List.foldl_cons]
  refine hasSections_defaults.foldl fun v hv => ?_
  simp only [List.mem_append, Option.mem_toList, List.mem_singleton] at hv
  rcases hv with (hv | hv) | rfl
  · unfold userLayer at huser
    split at huser
    · exact isRecord_of_fileLayer (hv ▸ huser)
    · cases huser
      cases hv
  · exact isRecord_of_fileLayer (hv ▸ hproject)
  · exact isRecord_environmentLayer environment

/-! ## Reading both sections -/

section Reading

variable {merged : Value} {c : Config}

theorem eq_some_of_section {ρ : Type} {inner : Form ρ} {name : String} {r : ρ}
    (hsome : (merged.at? [name]).isSome)
    (hread : ∀ v, merged.at? [name] = some v → inner.read v = .ok r) :
    ((merged.at? [name]).bind fun v => (inner.read v).toOption) = some r := by
  obtain ⟨v, hv⟩ := Option.isSome_iff_exists.mp hsome
  rw [hv, Option.bind_some, hread v hv]
  rfl

theorem sections_of_read (h : HasSections merged) (hread : form.read merged = .ok c) :
    remoteOf merged = some c.remote ∧ outputOf merged = some c.output :=
  ⟨eq_some_of_section (h.some "remote" (by decide)) fun _ =>
      Form.read_at holds_remote h.isRecord hread,
    eq_some_of_section (h.some "output" (by decide)) fun _ =>
      Form.read_at holds_output h.isRecord hread⟩

/-- A configuration is read exactly if both sections are. -/
theorem read_eq_ok_iff (h : HasSections merged) : form.read merged = .ok c ↔
    remoteOf merged = some c.remote ∧ outputOf merged = some c.output := by
  refine ⟨sections_of_read h, ?_⟩
  rintro ⟨hremote, houtput⟩
  obtain ⟨remote, hremoteAt, hremoteRead⟩ := Option.bind_eq_some_iff.mp hremote
  obtain ⟨output, houtputAt, houtputRead⟩ := Option.bind_eq_some_iff.mp houtput
  obtain ⟨d, hd⟩ : ∃ d, form.read merged = .ok d := by
    refine Form.exists_read h.isRecord ?_
    intro key read hmember w hw
    simp only [form, setting, List.mem_cons, List.not_mem_nil, or_false, Prod.mk.injEq] at hmember
    rcases hmember with ⟨rfl, rfl⟩ | ⟨rfl, rfl⟩
    · obtain rfl := Option.some.inj (hremoteAt.symm.trans hw)
      exact exists_setting _ ⟨_, eq_ok_of_toOption hremoteRead⟩
    · obtain rfl := Option.some.inj (houtputAt.symm.trans hw)
      exact exists_setting _ ⟨_, eq_ok_of_toOption houtputRead⟩
  obtain ⟨hremote', houtput'⟩ := sections_of_read h hd
  have hc : d = c := by
    cases c
    cases d
    rw [hremote] at hremote'
    rw [houtput] at houtput'
    cases hremote'
    cases houtput'
    rfl
  exact hc ▸ hd

/-- The server has no address, or one of the web. -/
def Remote.isReachable (r : Remote) : Prop := r.url = "" ∨ isWebAddress r.url = true

theorem invalid?_eq_none_iff : c.invalid? = none ↔
    Text.allBlank c.output.path = false ∧ c.remote.isReachable := by
  unfold invalid? Remote.isReachable
  cases Text.allBlank c.output.path with
  | true => simp
  | false =>
    by_cases hurl : c.remote.url = ""
    · simp [hurl]
    · simp [hurl]

theorem load_eq_ok_iff_sections {tree : Tree} {cwd : Place} {environment : Dotenv.Environment}
    {values : List Value} (hlayers : layers tree cwd environment = .ok values) :
    load tree cwd environment = .ok c ↔
      outputOf (mergeLayers values) = some c.output ∧ Text.allBlank c.output.path = false ∧
      remoteOf (mergeLayers values) = some c.remote ∧ c.remote.isReachable := by
  have hextract : extract tree cwd environment = .ok c ↔ form.read (mergeLayers values) = .ok c := by
    unfold extract
    rw [hlayers]
    exact mapError_eq_ok_iff
  rw [load_eq_ok_iff, hextract, read_eq_ok_iff (hasSections_mergeLayers hlayers),
    invalid?_eq_none_iff]
  tauto

end Reading

end SchemaGen.Config
