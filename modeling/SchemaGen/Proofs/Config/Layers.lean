import SchemaGen.Proofs.Config.Variables

/-! # Settings of many layers

A configuration has each setting from the highest layer that makes it: the variables of the process,
those that a file of variables adds, the file of the project, the file of the user, and the defaults
(`extract_of_layers`). The other layers do not count for it, whatever they hold in its place.
-/

namespace SchemaGen.Config

set_option autoImplicit false

open Files (Tree Place)
open Value (Sectioned)

/-! ## Layers of files -/

/-- The layer of the file of the user. -/
def userLayer (tree : Tree) (cwd : Place) (environment : Dotenv.Environment) :
    Except ConfigError (Option Value) :=
  match userFile? environment with
  | some path => fileLayer tree cwd path
  | none => .ok none

/-- What a layer has in the place of the sections are tables. -/
def TableSections (v : Value) : Prop :=
  ∀ name ∈ Value.sectionNames, ∀ w ∈ v.at? [name], w.IsTable

instance : DecidablePred TableSections := fun v =>
  inferInstanceAs (Decidable (∀ name ∈ Value.sectionNames, ∀ w ∈ v.at? [name], w.IsTable))

theorem orderedEntries_of_fileLayer {tree : Tree} {cwd : Place} {path : String} {v : Value}
    (h : fileLayer tree cwd path = .ok (some v)) :
    ∃ origin entries, v = .table origin entries ∧ OrderedEntries entries := by
  unfold fileLayer at h
  split at h
  · cases h
  · split at h
    · cases h
    · split at h
      · next hparse =>
        cases h
        exact ⟨_, Toml.orderedEntries_of_parse? hparse⟩
      · cases h

theorem sectioned_of_fileLayer {tree : Tree} {cwd : Place} {path : String} {v : Value}
    (h : fileLayer tree cwd path = .ok (some v)) (htables : TableSections v) : Sectioned v := by
  obtain ⟨origin, entries, rfl, hentries⟩ := orderedEntries_of_fileLayer h
  refine ⟨⟨origin, entries, rfl, hentries.ascending⟩, ?_⟩
  intro name hname w hw
  have htable := htables name hname w hw
  rw [Value.at?_table] at hw
  exact (hentries.ordered _ (Entries.mem_of_lookup hw)).isRecord htable

theorem sectioned_of_userLayer {tree : Tree} {cwd : Place} {environment : Dotenv.Environment}
    {v : Value} (h : userLayer tree cwd environment = .ok (some v)) (htables : TableSections v) :
    Sectioned v := by
  unfold userLayer at h
  split at h
  · exact sectioned_of_fileLayer h htables
  · cases h

/-! ## The defaults -/

theorem at?_defaults (s : Setting) :
    ({} : Config).toValue.at? s.key = some (.scalar .builtin (s.get {})) := by
  cases s <;> rfl

theorem sectioned_defaults : Sectioned ({} : Config).toValue := by
  refine ⟨⟨.builtin, _, rfl, by decide⟩, ?_⟩
  intro name hname w hw
  simp only [Value.sectionNames, List.mem_cons, List.not_mem_nil, or_false] at hname
  rcases hname with rfl | rfl
  · cases hw
    exact ⟨.builtin, _, rfl, by decide⟩
  · cases hw
    exact ⟨.builtin, _, rfl, by decide⟩

/-! ## All layers -/

/-- The layers below the environment. -/
def fileLayers (project user : Option Value) : List Value :=
  ({} : Config).toValue :: user.toList ++ project.toList

/-- Sections are tables wherever they are set, and no two variables make one setting. -/
structure Apart (environment : Dotenv.Environment) (project user : Option Value) : Prop where
  tables : ∀ entry ∈ environment, TableVariable entry
  once : GivenOnce environment
  project : ∀ v ∈ project, TableSections v
  user : ∀ v ∈ user, TableSections v

/-- The same for layers of files, whose keys are in order. -/
structure Layered (environment : Dotenv.Environment) (project user : Option Value) : Prop where
  apart : Apart environment project user
  sectioned : ∀ v, v ∈ project ∨ v ∈ user → Sectioned v

theorem Apart.layered {tree : Tree} {cwd : Place} {environment : Dotenv.Environment}
    {project user : Option Value} (h : Apart environment project user)
    (hproject : fileLayer tree cwd projectFile = .ok project)
    (huser : userLayer tree cwd environment = .ok user) : Layered environment project user := by
  refine ⟨h, ?_⟩
  rintro v (hv | hv)
  · exact sectioned_of_fileLayer (hv ▸ hproject) (h.project v hv)
  · exact sectioned_of_userLayer (hv ▸ huser) (h.user v hv)

/-- What the files have for a setting, or else the defaults. -/
def beneath (project user : Option Value) (s : Setting) : Value :=
  ((project.bind (·.at? s.key)).or (user.bind (·.at? s.key))).getD (.scalar .builtin (s.get {}))

theorem layers_eq (tree : Tree) (cwd : Place) (environment : Dotenv.Environment) :
    layers tree cwd environment = (do
      let user ← userLayer tree cwd environment
      let project ← fileLayer tree cwd projectFile
      return fileLayers project user ++ [environmentLayer environment]) := by
  unfold layers userLayer
  cases userFile? environment <;> rfl

theorem extract_eq {tree : Tree} {cwd : Place} {environment : Dotenv.Environment}
    {project user : Option Value} (hproject : fileLayer tree cwd projectFile = .ok project)
    (huser : userLayer tree cwd environment = .ok user) :
    extract tree cwd environment =
      (form.read (mergeLayers (fileLayers project user ++ [environmentLayer environment]))).mapError
        .setting := by
  have hlayers : layers tree cwd environment =
      .ok (fileLayers project user ++ [environmentLayer environment]) := by
    rw [layers_eq, huser, hproject]
    rfl
  unfold extract
  rw [hlayers]
  rfl

section

variable {environment : Dotenv.Environment} {project user : Option Value}

theorem Layered.sectioned_fileLayers (h : Layered environment project user) :
    ∀ v ∈ fileLayers project user, Sectioned v := by
  intro v hv
  rcases List.mem_append.mp hv with hv | hv
  · rcases List.mem_cons.mp hv with rfl | hv
    · exact sectioned_defaults
    · exact h.sectioned v (.inr (Option.mem_toList.mp hv))
  · exact h.sectioned v (.inl (Option.mem_toList.mp hv))

theorem Layered.sectioned_layers (h : Layered environment project user) :
    ∀ v ∈ fileLayers project user ++ [environmentLayer environment], Sectioned v := by
  intro v hv
  rcases List.mem_append.mp hv with hv | hv
  · exact h.sectioned_fileLayers v hv
  · rw [List.mem_singleton.mp hv]
    exact sectioned_environmentLayer h.apart.tables

theorem Layered.sectioned_merged (h : Layered environment project user) :
    Sectioned (mergeLayers (fileLayers project user ++ [environmentLayer environment])) :=
  Value.sectioned_foldl (sectioned_empty .builtin) h.sectioned_layers

theorem Layered.at?_merged (h : Layered environment project user) (s : Setting) :
    (mergeLayers (fileLayers project user ++ [environmentLayer environment])).at? s.key =
      Value.stack ((mergeLayers (fileLayers project user)).at? s.key) (given s environment) := by
  unfold mergeLayers
  rw [List.foldl_append, List.foldl_cons, List.foldl_nil, Setting.key,
    Value.at?_merge (Value.sectioned_foldl (sectioned_empty .builtin) h.sectioned_fileLayers)
      (sectioned_environmentLayer h.apart.tables) s.sectionName_mem]
  exact congrArg _ (at?_environmentLayer h.apart.tables h.apart.once s)

/-- The highest file that has anything for a setting, or else the defaults. -/
theorem findSome?_fileLayers (project user : Option Value) (s : Setting) :
    ((fileLayers project user).map (·.at? s.key)).reverse.findSome? id =
      some (beneath project user s) := by
  have hlayer (v : Option Value) :
      (v.toList.map (·.at? s.key)).reverse.findSome? id = v.bind (·.at? s.key) := by
    cases v <;> simp
  unfold fileLayers beneath
  rw [List.map_append, List.map_cons, at?_defaults, List.reverse_append, List.reverse_cons,
    List.findSome?_append, List.findSome?_append, hlayer, hlayer, ← Option.or_assoc]
  cases (project.bind (·.at? s.key)).or (user.bind (·.at? s.key)) <;> rfl

theorem Layered.at?_fileLayers (h : Layered environment project user) {s : Setting}
    {origin : Origin} {x : Scalar} (hx : beneath project user s = .scalar origin x) :
    (mergeLayers (fileLayers project user)).at? s.key = some (.scalar origin x) := by
  unfold mergeLayers
  rw [Setting.key, Value.at?_foldl (sectioned_empty .builtin) h.sectioned_fileLayers
    s.sectionName_mem]
  refine Value.foldl_stack_scalar ?_
  rw [← Setting.key, findSome?_fileLayers, hx]
  rfl

/-- What a setting is taken from: a variable, or else what the files have for it. -/
def chosen (environment : Dotenv.Environment) (project user : Option Value) (s : Setting) : Value :=
  (given s environment).getD (beneath project user s)

theorem Layered.at?_chosen (h : Layered environment project user) {s : Setting} {origin : Origin}
    {x : Scalar} (hx : chosen environment project user s = .scalar origin x) :
    (mergeLayers (fileLayers project user ++ [environmentLayer environment])).at? s.key =
      some (.scalar origin x) := by
  rw [h.at?_merged]
  unfold chosen at hx
  cases hgiven : given s environment with
  | none =>
    rw [hgiven] at hx
    rw [Value.stack_none, h.at?_fileLayers hx]
  | some v =>
    rw [hgiven] at hx
    obtain rfl : v = .scalar origin x := hx
    exact Value.stack_scalar _ origin x

/-- Each setting is read from where it is taken, if it has its type there. -/
theorem Layered.exists_read (h : Layered environment project user)
    (htypes : ∀ s : Setting, s.TakesValue (chosen environment project user s)) :
    ∃ c, form.read (mergeLayers (fileLayers project user ++ [environmentLayer environment])) =
      .ok c ∧ ∀ s : Setting, ∃ origin,
        chosen environment project user s = .scalar origin (s.get c) := by
  have hchosen (s : Setting) :
      (mergeLayers (fileLayers project user ++ [environmentLayer environment])).at? s.key =
        some (chosen environment project user s) := by
    obtain ⟨origin, x, hx, -⟩ := htypes s
    rw [h.at?_chosen hx, hx]
  obtain ⟨c, hc⟩ := Config.exists_read h.sectioned_merged fun s w hw => by
    rw [hchosen s] at hw
    exact Option.some.inj hw ▸ htypes s
  exact ⟨c, hc, fun s => scalar_of_read h.sectioned_merged hc s (hchosen s)⟩

end

/-! ## A file of variables and files of settings -/

/-- The layers of a run that loads a file of variables first. -/
structure Layers where
  process : Dotenv.Environment
  /-- What the file of variables gives, also where it is set already. -/
  file : Dotenv.Environment
  project : Option Value
  user : Option Value

namespace Layers

/-- The layers are those of the files, all of which can be read, and give an environment. -/
structure Read (l : Layers) (tree : Tree) (cwd : Place) (path : Option String)
    (environment : Dotenv.Environment) : Prop where
  load : loadVariables tree cwd path l.process = .ok environment
  file : fileVariables tree cwd path l.process = l.file
  project : fileLayer tree cwd projectFile = .ok l.project
  user : userLayer tree cwd environment = .ok l.user

/-- Sections are tables wherever they are set, and no setting is made under two names. -/
structure Fit (l : Layers) : Prop where
  names : (l.process.map Prod.fst).Nodup
  tables : ∀ entry ∈ l.process ++ l.file, TableVariable entry
  oneName : ∀ s, ∀ a ∈ l.process ++ l.file, ∀ b ∈ l.process ++ l.file,
    (given? s a).isSome → (given? s b).isSome → a.1 = b.1
  project : ∀ v ∈ l.project, TableSections v
  user : ∀ v ∈ l.user, TableSections v

/-- What a setting is taken from where only some variables of the file count. -/
def first (l : Layers) (counted : Dotenv.Environment) (s : Setting) : Value :=
  ((given s l.process).or (given s counted)).getD (beneath l.project l.user s)

/-- The variables of the file that were not set before. -/
def counted (l : Layers) : Dotenv.Environment := Dotenv.unset l.process l.file

/-- No variable that stands for a section is set twice. -/
def SectionsOnce (l : Layers) : Prop :=
  (l.process ++ l.file).Pairwise fun a b =>
    a.1 = b.1 → ∀ name ∈ Value.sectionNames, settingKey? a.1 ≠ some [name]

variable {l : Layers} {tree : Tree} {cwd : Place} {path : Option String}
  {environment : Dotenv.Environment}

theorem Read.environment_eq (h : l.Read tree cwd path environment) :
    environment = l.process ++ l.counted := by
  rw [loadVariables_eq h.load, h.file]
  rfl

theorem mem_of_mem_counted {entry : String × String} (h : entry ∈ l.process ++ l.counted) :
    entry ∈ l.process ++ l.file := by
  rcases List.mem_append.mp h with h | h
  · exact List.mem_append_left _ h
  · exact List.mem_append_right _ (Dotenv.mem_of_mem_unset h)

theorem Fit.givenOnce (h : l.Fit) : GivenOnce (l.process ++ l.counted) := by
  have hnames := Dotenv.nodup_append_unset h.names l.file
  rw [List.Nodup, List.pairwise_map] at hnames
  refine List.Pairwise.imp_of_mem ?_ hnames
  intro a b ha hb hne s
  by_contra hboth
  rw [not_or] at hboth
  have hgivena := Option.isSome_iff_ne_none.mpr hboth.1
  have hgivenb := Option.isSome_iff_ne_none.mpr hboth.2
  exact hne (h.oneName s a (mem_of_mem_counted ha) b (mem_of_mem_counted hb) hgivena hgivenb)

theorem Fit.layered (h : l.Fit) (hread : l.Read tree cwd path environment) :
    Layered environment l.project l.user := by
  have hapart : Apart environment l.project l.user := by
    rw [hread.environment_eq]
    exact ⟨fun entry hentry => h.tables entry (mem_of_mem_counted hentry), h.givenOnce, h.project,
      h.user⟩
  exact hapart.layered hread.project hread.user

/-- Of a name that is set already no further variable counts for a setting. -/
theorem given_append_unset {process others : Dotenv.Environment}
    (h : (process ++ others).Pairwise fun a b =>
      a.1 = b.1 → ∀ name ∈ Value.sectionNames, settingKey? a.1 ≠ some [name]) (s : Setting) :
    given s (process ++ Dotenv.unset process others) = given s (process ++ others) := by
  induction others generalizing process with
  | nil => rfl
  | cons entry rest ih =>
    obtain ⟨name, value⟩ := entry
    unfold Dotenv.unset
    split
    · next hset =>
      obtain ⟨earlier, hearlier⟩ := Option.isSome_iff_exists.mp hset
      have hmem := Entries.mem_of_lookup hearlier
      have hrest : (process ++ rest).Pairwise fun a b =>
          a.1 = b.1 → ∀ name ∈ Value.sectionNames, settingKey? a.1 ≠ some [name] :=
        h.sublist (List.Sublist.append_left (List.sublist_cons_self ..) process)
      rw [ih hrest]
      unfold given
      rw [List.findSome?_append, List.findSome?_append, List.findSome?_cons]
      cases hfirst : process.findSome? (given? s) with
      | some v => rfl
      | none =>
        -- The earlier variable of this name gives nothing, so this one gives nothing either.
        have hnone : given? s (name, earlier) = none := List.findSome?_eq_none_iff.mp hfirst _ hmem
        have hkey := (List.pairwise_append.mp h).2.2 _ hmem (name, value)
          (List.mem_cons_self ..) rfl s.sectionName s.sectionName_mem
        have hsome := isSome_given? hkey value earlier
        rw [hnone, Option.isSome_none, Option.isSome_eq_false_iff, Option.isNone_iff_eq_none]
          at hsome
        rw [hsome]
    · rw [List.append_cons] at h
      rw [List.append_cons, List.append_cons process _ rest]
      exact ih h

theorem SectionsOnce.first_counted (h : l.SectionsOnce) (s : Setting) :
    l.first l.counted s = l.first l.file s := by
  have hgiven := given_append_unset h s
  unfold given at hgiven
  rw [List.findSome?_append, List.findSome?_append] at hgiven
  unfold first given counted
  rw [hgiven]

theorem Read.chosen_eq (h : l.Read tree cwd path environment) (s : Setting) :
    chosen environment l.project l.user s = l.first l.counted s := by
  rw [h.environment_eq, chosen, given, List.findSome?_append]
  rfl

theorem Fit.exists_extract (h : l.Fit) (hread : l.Read tree cwd path environment)
    (htypes : ∀ s : Setting, s.TakesValue (l.first l.counted s)) :
    ∃ c, extract tree cwd environment = .ok c ∧
      ∀ s : Setting, ∃ origin, l.first l.counted s = .scalar origin (s.get c) := by
  have htypes' (s : Setting) : s.TakesValue (chosen environment l.project l.user s) :=
    hread.chosen_eq s ▸ htypes s
  obtain ⟨c, hc, hsettings⟩ := (h.layered hread).exists_read htypes'
  refine ⟨c, ?_, fun s => hread.chosen_eq s ▸ hsettings s⟩
  rw [extract_eq hread.project hread.user, hc]
  rfl

end Layers

/-- Each setting comes from the first of the variables of the process, those of the file of
variables that were not set before, the file of the project, the file of the user and the defaults
that makes it. All variables of the file count as long as none that stands for a whole section is
set twice. A variable makes a setting under its short name or its long one in any letter case. -/
theorem extract_of_layers {l : Layers} {tree : Tree} {cwd : Place} {path : Option String}
    {environment : Dotenv.Environment} (hread : l.Read tree cwd path environment) (hfit : l.Fit)
    (htypes : ∀ s : Setting, s.TakesValue (l.first l.counted s)) :
    (∃ c, extract tree cwd environment = .ok c ∧
      ∀ s : Setting, ∃ origin, l.first l.counted s = .scalar origin (s.get c)) ∧
    (l.SectionsOnce → ∀ s, l.first l.counted s = l.first l.file s) ∧
    ∀ (s : Setting) (rest : List Char) (value : String),
      (rest.map Char.toLower = s.shortName.toList ∨ rest.map Char.toLower = s.longName.toList) →
      given? s (writtenMark ++ String.ofList rest, value) = some (Literal.parse value) :=
  ⟨hfit.exists_extract hread htypes, fun h => h.first_counted,
    fun s _ _ hrest => given?_of_key (settingKey?_of_name s hrest)⟩

/-! ### A setting of each layer -/

/-- The scalar that a value is. -/
def Value.scalar? : Value → Option Scalar
  | .scalar _ x => some x
  | .list .. | .table .. => none

theorem Setting.takesValue_of_scalar? {s : Setting} {v : Value} {c : Config}
    (h : v.scalar? = some (s.get c)) : s.TakesValue v := by
  cases v with
  | scalar origin x => exact ⟨origin, x, rfl, Option.some.inj h ▸ s.takes_get c⟩
  | list => cases h
  | table => cases h

theorem Setting.get_of_scalar? {s : Setting} {v : Value} {c : Config} {x : Scalar}
    (h : ∃ origin, v = .scalar origin (s.get c)) (hx : v.scalar? = some x) : s.get c = x := by
  obtain ⟨origin, rfl⟩ := h
  exact Option.some.inj hx

/-- A file of variables, and files of a project and a user with values of wrong types that higher
layers stand over. -/
def sharedTree : Tree where
  nodes := [
    (["work"], .directory),
    (["work", ".env"], .file (.text "PB_TYPEGEN_TOKEN=tok\n")),
    (["work", "pocketbase-zod.toml"],
      .file (.text "[remote]\nurl = 5\ntoken = []\nemail = \"a@b.c\"\n")),
    (["conf"], .directory),
    (["conf", "pocketbase-zod"], .directory),
    (["conf", "pocketbase-zod", "config.toml"],
      .file (.text "[output]\npath = \"out.ts\"\n[remote]\nemail = 1\n"))]

def sharedProcess : Dotenv.Environment :=
  [("XDG_CONFIG_HOME", "/conf"), ("PB_TYPEGEN_Remote__URL", "http://pb")]

def sharedEnvironment : Dotenv.Environment := sharedProcess ++ [("PB_TYPEGEN_TOKEN", "tok")]

@[irreducible] def sharedProject : Option Value :=
  (fileLayer sharedTree ["work"] projectFile).toOption.getD none

@[irreducible] def sharedUser : Option Value :=
  (userLayer sharedTree ["work"] sharedEnvironment).toOption.getD none

theorem fileLayer_sharedTree :
    fileLayer sharedTree ["work"] projectFile = .ok sharedProject := by
  have hok : (fileLayer sharedTree ["work"] projectFile).isOk = true := by decide +kernel
  rw [sharedProject]
  exact eq_ok_of_isOk hok none

theorem userLayer_sharedTree :
    userLayer sharedTree ["work"] sharedEnvironment = .ok sharedUser := by
  have hok : (userLayer sharedTree ["work"] sharedEnvironment).isOk = true := by decide +kernel
  rw [sharedUser]
  exact eq_ok_of_isOk hok none

def sharedLayers : Layers where
  process := sharedProcess
  file := [("PB_TYPEGEN_TOKEN", "tok")]
  project := sharedProject
  user := sharedUser

theorem read_sharedLayers : sharedLayers.Read sharedTree ["work"] none sharedEnvironment where
  load := eq_ok_of_toOption (by decide +kernel)
  file := by decide +kernel
  project := fileLayer_sharedTree
  user := userLayer_sharedTree

theorem fit_sharedLayers : sharedLayers.Fit := by
  constructor
  · decide +kernel
  · decide +kernel
  · intro s
    cases s <;> decide +kernel
  · decide +kernel
  · decide +kernel

def sharedConfig : Config where
  remote := { url := "http://pb", token := "tok", email := "a@b.c" }
  output := { path := "out.ts" }

theorem first_sharedLayers (s : Setting) :
    (sharedLayers.first sharedLayers.counted s).scalar? = some (s.get sharedConfig) := by
  cases s <;> decide +kernel

theorem extract_sharedTree :
    extract sharedTree ["work"] sharedEnvironment = .ok sharedConfig := by
  obtain ⟨⟨c, hc, hsettings⟩, -, -⟩ := extract_of_layers read_sharedLayers fit_sharedLayers
    fun s => Setting.takesValue_of_scalar? (first_sharedLayers s)
  have hconfig : c = sharedConfig :=
    Setting.eq_of_get fun s => Setting.get_of_scalar? (hsettings s) (first_sharedLayers s)
  rw [hc, hconfig]

/-! ### A section set twice -/

/-- A file of variables that gives a section which the process has also. -/
def sectionTree : Tree where
  nodes := [
    (["work"], .directory),
    (["work", ".env"], .file (.text "PB_TYPEGEN_REMOTE=\x7btoken=tok\x7d\n"))]

def sectionLayers : Layers where
  process := [("PB_TYPEGEN_REMOTE", "\x7burl=\"http://pb\"\x7d")]
  file := [("PB_TYPEGEN_REMOTE", "\x7btoken=tok\x7d")]
  project := none
  user := none

theorem read_sectionLayers :
    sectionLayers.Read sectionTree ["work"] none sectionLayers.process where
  load := eq_ok_of_toOption (by decide +kernel)
  file := by decide +kernel
  project := eq_ok_none (by decide +kernel)
  user := eq_ok_none (by decide +kernel)

theorem fit_sectionLayers : sectionLayers.Fit := by
  constructor
  · decide +kernel
  · decide +kernel
  · intro s
    cases s <;> decide +kernel
  · nofun
  · nofun

/-- The settings as they are where all variables of the file count, and as they are read. -/
def sectionConfig (token : String) : Config where
  remote := { url := "http://pb", token := token }

theorem first_sectionLayers (s : Setting) :
    (sectionLayers.first sectionLayers.file s).scalar? = some (s.get (sectionConfig "tok")) ∧
    (sectionLayers.first sectionLayers.counted s).scalar? = some (s.get (sectionConfig "")) := by
  cases s <;> decide +kernel

/-- The token in the file is not used, as the variable that has it is set already. -/
theorem not_extract_of_layers : ¬∀ (l : Layers) (tree : Tree) (cwd : Place) (path : Option String)
    (environment : Dotenv.Environment), l.Read tree cwd path environment → l.Fit →
    (∀ s : Setting, s.TakesValue (l.first l.file s)) →
    ∃ c, extract tree cwd environment = .ok c ∧
      ∀ s : Setting, ∃ origin, l.first l.file s = .scalar origin (s.get c) := by
  intro h
  obtain ⟨c, hc, hclaimed⟩ := h _ _ _ _ _ read_sectionLayers fit_sectionLayers
    fun s => Setting.takesValue_of_scalar? (first_sectionLayers s).1
  obtain ⟨d, hd, hsettings⟩ := fit_sectionLayers.exists_extract read_sectionLayers
    fun s => Setting.takesValue_of_scalar? (first_sectionLayers s).2
  obtain rfl : c = d := Except.ok.inj (hc.symm.trans hd)
  have htoken : Setting.token.get c = .text "tok" :=
    Setting.get_of_scalar? (hclaimed .token) (first_sectionLayers .token).1
  have hdefault : Setting.token.get c = .text "" :=
    Setting.get_of_scalar? (hsettings .token) (first_sectionLayers .token).2
  rw [hdefault] at htoken
  exact absurd (Scalar.text.inj htoken) (by decide)

end SchemaGen.Config
