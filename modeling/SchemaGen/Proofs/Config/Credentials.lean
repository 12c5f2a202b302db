import SchemaGen.Proofs.Config.Layers
import SchemaGen.Proofs.Config.Literals

/-! # Credentials in variables

The value of a variable is read as a literal before it is put into a setting. So a credential is
taken as it is written only where its text is no literal, or is a bare word; a text in quotes loses
them, and a text that is a truth value, a number, a list or a table is refused (`load_credential`).
-/

namespace SchemaGen.Config

set_option autoImplicit false

open Files (Tree Place)

/-! ## Credentials -/

/-- The settings other than one have their types, and make a valid configuration whatever that one
is. -/
structure OthersValid (environment : Dotenv.Environment) (project user : Option Value)
    (s : Setting) : Prop where
  types : ∀ t : Setting, t ≠ s → t.TakesValue (chosen environment project user t)
  valid : ∀ c : Config, (∀ t : Setting, t ≠ s →
    ∃ origin, chosen environment project user t = .scalar origin (t.get c)) → c.invalid? = none

section

variable {tree : Tree} {cwd : Place} {environment : Dotenv.Environment}
  {project user : Option Value} {s : Setting} {v : Value}

theorem load_eq_ok_iff {c : Config} : load tree cwd environment = .ok c ↔
    extract tree cwd environment = .ok c ∧ c.invalid? = none := by
  unfold load
  cases extract tree cwd environment with
  | error e => exact ⟨nofun, fun h => nomatch h.1⟩
  | ok d =>
    dsimp only [bind, Except.bind]
    cases hinvalid : d.invalid? with
    | some cause =>
      refine ⟨nofun, ?_⟩
      rintro ⟨hd, hvalid⟩
      cases hd
      rw [hinvalid] at hvalid
      cases hvalid
    | none =>
      refine ⟨?_, fun h => h.1⟩
      intro h
      cases h
      exact ⟨rfl, hinvalid⟩

/-- A configuration that is read has what the variable of a setting is as a text. -/
theorem readText_of_read (hlayered : Layered environment project user) (hs : s ≠ .provenance)
    (hgiven : given s environment = some v) {c : Config}
    (hread : form.read (mergeLayers (fileLayers project user ++ [environmentLayer environment])) =
      .ok c) : ∃ text, s.get c = .text text ∧ v.readText = .ok text := by
  obtain ⟨text, htext⟩ := Setting.get_eq_text hs c
  have hat := hlayered.at?_merged s
  rw [hgiven] at hat
  obtain ⟨w, hw⟩ : ∃ w, Value.stack ((mergeLayers (fileLayers project user)).at? s.key) (some v) =
      some w := by
    cases (mergeLayers (fileLayers project user)).at? s.key with
    | none => exact ⟨_, rfl⟩
    | some lower => exact ⟨_, rfl⟩
  obtain ⟨origin, rfl⟩ := scalar_of_read hlayered.sectioned_merged hread s (hat.trans hw)
  rw [Value.eq_of_stack_eq_scalar hw, htext]
  exact ⟨text, rfl, rfl⟩

/-- What a variable is as a text is put into the setting. -/
theorem exists_load_of_readText (hproject : fileLayer tree cwd projectFile = .ok project)
    (huser : userLayer tree cwd environment = .ok user)
    (hlayered : Layered environment project user) (hs : s ≠ .provenance)
    (hothers : OthersValid environment project user s)
    (hgiven : given s environment = some v) {text : String} (hread : v.readText = .ok text) :
    ∃ c, load tree cwd environment = .ok c ∧ s.get c = .text text := by
  obtain ⟨origin, rfl⟩ := scalar_of_readText hread
  have hchosen : chosen environment project user s = .scalar origin (.text text) := by
    unfold chosen
    rw [hgiven]
    rfl
  have htypes : ∀ t : Setting, t.TakesValue (chosen environment project user t) := by
    intro t
    by_cases ht : t = s
    · subst ht
      exact ⟨origin, .text text, hchosen, hs⟩
    · exact hothers.types t ht
  obtain ⟨c, hc, hsettings⟩ := hlayered.exists_read htypes
  have hextract : extract tree cwd environment = .ok c := by
    rw [extract_eq hproject huser, hc]
    rfl
  have hvalid := hothers.valid c fun t _ => hsettings t
  refine ⟨c, load_eq_ok_iff.mpr ⟨hextract, hvalid⟩, ?_⟩
  obtain ⟨other, hget⟩ := hsettings s
  rw [hchosen] at hget
  exact (Value.scalar.inj hget).2.symm

end

/-- A credential in a variable is loaded as it is written exactly if its text is no literal as a
whole, or a bare word. A literal that is another text is loaded as that, and one that is no text is
refused. -/
theorem load_credential {tree : Tree} {cwd : Place} {environment : Dotenv.Environment}
    {project user : Option Value} {s : Setting} {letters : List Char} {text : String}
    (hs : s = .token ∨ s = .email ∨ s = .password)
    (hletters : letters.map Char.toLower = s.name.toList)
    (hset : (writtenMark ++ String.ofList letters, text) ∈ environment)
    (hproject : fileLayer tree cwd projectFile = .ok project)
    (huser : userLayer tree cwd environment = .ok user)
    (hapart : Apart environment project user)
    (hothers : OthersValid environment project user s) :
    ((∃ c, load tree cwd environment = .ok c ∧ s.get c = .text text) ↔
      Literal.whole? text = none ∨ Literal.Plain text) ∧
    (∀ other, (Literal.parse text).readText = .ok other →
      ∃ c, load tree cwd environment = .ok c ∧ s.get c = .text other) ∧
    ((∀ other, (Literal.parse text).readText ≠ .ok other) →
      ∃ e, load tree cwd environment = .error (.setting e)) := by
  have hlayered := hapart.layered hproject huser
  have hprovenance : s ≠ .provenance := by
    rintro rfl
    simp at hs
  have hshort : letters.map Char.toLower = s.shortName.toList := by
    rcases hs with rfl | rfl | rfl <;> exact hletters
  have hgiven := given_of_mem hapart.once hset
    (given?_of_key (settingKey?_of_name s (.inl hshort)))
  have hloaded {other : String} (hread : (Literal.parse text).readText = .ok other) :
      ∃ c, load tree cwd environment = .ok c ∧ s.get c = .text other :=
    exists_load_of_readText hproject huser hlayered hprovenance hothers hgiven hread
  refine ⟨⟨?_, ?_⟩, fun _ => hloaded, ?_⟩
  · rintro ⟨c, hload, hget⟩
    have hextract := (load_eq_ok_iff.mp hload).1
    rw [extract_eq hproject huser] at hextract
    obtain ⟨other, hother, hread⟩ :=
      readText_of_read hlayered hprovenance hgiven (mapError_eq_ok_iff.mp hextract)
    rw [hget] at hother
    cases hother
    exact (Literal.readText_parse_iff text).mp hread
  · intro hverbatim
    exact hloaded ((Literal.readText_parse_iff text).mpr hverbatim)
  · intro hrefused
    have hread : ∀ c, form.read (mergeLayers
        (fileLayers project user ++ [environmentLayer environment])) ≠ .ok c := by
      intro c hc
      obtain ⟨other, -, hother⟩ := readText_of_read hlayered hprovenance hgiven hc
      exact hrefused other hother
    unfold load
    rw [extract_eq hproject huser]
    cases hmerged : form.read (mergeLayers
        (fileLayers project user ++ [environmentLayer environment])) with
    | error e => exact ⟨e, rfl⟩
    | ok c => exact absurd hmerged (hread c)

/-! ## A password of digits -/

/-- The variables of a process that sets a password only. -/
def passwordEnvironment (password : String) : Dotenv.Environment :=
  [("PB_TYPEGEN_PASSWORD", password)]

theorem apart_password (password : String) : Apart (passwordEnvironment password) none none := by
  have hkey : settingKey? "PB_TYPEGEN_PASSWORD" = some Setting.password.key := by decide +kernel
  refine ⟨?_, List.pairwise_singleton _ _, nofun, nofun⟩
  intro entry hentry name _ hsection
  rw [List.mem_singleton.mp hentry, hkey] at hsection
  cases hsection

theorem chosen_password (password : String) {t : Setting} (ht : t ≠ .password) :
    chosen (passwordEnvironment password) none none t = .scalar .builtin (t.get {}) := by
  have hkey : settingKey? "PB_TYPEGEN_PASSWORD" ≠ some [t.sectionName] := by
    cases t <;> decide +kernel
  have hempty : (given? t ("PB_TYPEGEN_PASSWORD", "")).isSome = false := by
    cases t with
    | password => exact absurd rfl ht
    | url | token | email | path | provenance => decide +kernel
  have hnone : given? t ("PB_TYPEGEN_PASSWORD", password) = none := by
    rw [← Option.isNone_iff_eq_none, ← Option.isSome_eq_false_iff, isSome_given? hkey password "",
      hempty]
  simp [chosen, given, passwordEnvironment, hnone, beneath]

theorem othersValid_password (password : String) :
    OthersValid (passwordEnvironment password) none none .password := by
  constructor
  · intro t ht
    refine ⟨.builtin, t.get {}, chosen_password password ht, ?_⟩
    cases t <;> decide
  · intro c hc
    have hdefault {t : Setting} (ht : t ≠ .password) : t.get c = t.get {} := by
      obtain ⟨origin, hget⟩ := hc t ht
      rw [chosen_password password ht] at hget
      exact (Value.scalar.inj hget).2.symm
    have hpath : c.output.path = "pocketbase-zod.ts" :=
      Scalar.text.inj (hdefault (t := .path) nofun)
    have hurl : c.remote.url = "" := Scalar.text.inj (hdefault (t := .url) nofun)
    unfold invalid?
    rw [hpath, hurl]
    decide

theorem fileLayer_empty : fileLayer Tree.empty [] projectFile = .ok none :=
  eq_ok_none (by decide +kernel)

theorem userLayer_empty (password : String) :
    userLayer Tree.empty [] (passwordEnvironment password) = .ok none := by
  simp [userLayer, userFile?, userFile?.inHome, passwordEnvironment]

theorem mem_passwordEnvironment (password : String) :
    (writtenMark ++ String.ofList "PASSWORD".toList, password) ∈ passwordEnvironment password := by
  have hname : writtenMark ++ String.ofList "PASSWORD".toList = "PB_TYPEGEN_PASSWORD" := by
    decide +kernel
  rw [hname]
  exact List.mem_singleton_self _

theorem plain_sesame : Literal.Plain "open-sesame" := by
  have hseparators : "open-sesame".toList.any Literal.isSeparator = false := by decide +kernel
  have hfirst : "open-sesame".toList.head? = some 'o' := by decide +kernel
  have hlast : "open-sesame".toList.getLast? = some 'e' := by decide +kernel
  constructor
  · simpa using hseparators
  · rw [hfirst]
    intro c hc
    obtain rfl := Option.some.inj hc
    decide
  · rw [hlast]
    intro c hc
    obtain rfl := Option.some.inj hc
    decide
  · decide +kernel
  · decide +kernel

/-- A password of letters is loaded, and one of digits is refused. -/
theorem load_passwords :
    (∃ c, load Tree.empty [] (passwordEnvironment "open-sesame") = .ok c ∧
      Setting.password.get c = .text "open-sesame") ∧
    ∃ e, load Tree.empty [] (passwordEnvironment "12345") = .error (.setting e) := by
  have hload (password : String) := load_credential (s := .password) (.inr (.inr rfl))
    (by decide : "PASSWORD".toList.map Char.toLower = _) (mem_passwordEnvironment password)
    fileLayer_empty (userLayer_empty password) (apart_password password)
    (othersValid_password password)
  refine ⟨(hload "open-sesame").1.mpr (.inr plain_sesame), (hload "12345").2.2 ?_⟩
  intro other hread
  obtain ⟨origin, htext⟩ := scalar_of_readText hread
  have hnumber : (Literal.parse "12345").scalar? = some (.unsigned 12345) := by decide +kernel
  rw [htext] at hnumber
  cases hnumber

/-- A password of digits is not loaded. -/
theorem not_load_credential : ¬∀ (tree : Tree) (cwd : Place) (environment : Dotenv.Environment)
    (project user : Option Value) (s : Setting) (letters : List Char) (text : String),
    s = .token ∨ s = .email ∨ s = .password → letters.map Char.toLower = s.name.toList →
    (writtenMark ++ String.ofList letters, text) ∈ environment →
    fileLayer tree cwd projectFile = .ok project → userLayer tree cwd environment = .ok user →
    Apart environment project user → OthersValid environment project user s →
    ∃ c, load tree cwd environment = .ok c ∧ s.get c = .text text := by
  intro h
  have hnumber : (Literal.parse "12345").scalar? = some (.unsigned 12345) := by decide +kernel
  have hletters : "PASSWORD".toList.map Char.toLower = Setting.password.name.toList := by decide
  have hgiven : given .password (passwordEnvironment "12345") = some (Literal.parse "12345") :=
    given_of_mem (apart_password _).once (List.mem_singleton_self _)
      (given?_of_key (by decide +kernel))
  obtain ⟨c, hload, -⟩ := h _ _ _ _ _ _ _ _ (.inr (.inr rfl)) hletters
    (mem_passwordEnvironment "12345") fileLayer_empty (userLayer_empty _) (apart_password _)
    (othersValid_password _)
  have hextract := (load_eq_ok_iff.mp hload).1
  rw [extract_eq fileLayer_empty (userLayer_empty _)] at hextract
  have hlayered := (apart_password "12345").layered fileLayer_empty (userLayer_empty _)
  obtain ⟨text, -, hread⟩ := readText_of_read hlayered (s := .password) nofun hgiven
    (mapError_eq_ok_iff.mp hextract)
  obtain ⟨origin, htext⟩ := scalar_of_readText hread
  rw [htext] at hnumber
  cases hnumber

end SchemaGen.Config
