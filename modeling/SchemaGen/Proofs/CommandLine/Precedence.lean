import SchemaGen.CommandLine.Plan
import SchemaGen.CommandLine.Reader

/-! # Options over the configuration

An option that is given and not empty stands whatever the configuration says. The way to sign in is
chosen once the two are laid over each other, though, and a token comes before a password. So a
source that the options determine stands under every configuration, but for one case: a password of
the options gives way to a token of the configuration (`source_of_options`).
-/

namespace SchemaGen.CommandLine

set_option autoImplicit false

open SchemaGen.Config

/-! ## Settings of the server -/

theorem overlay_eq (value : Option String) (configured : String) :
    overlay value configured = if overlay value "" = "" then configured else overlay value "" := by
  cases value with
  | none => rfl
  | some text => by_cases h : text = "" <;> simp [overlay, Option.filter, h]

/-- A value of the options stands. -/
theorem overlay_of_ne_empty {value : Option String} (h : overlay value "" ≠ "")
    (configured : String) : overlay value configured = overlay value "" := by
  rw [overlay_eq, if_neg h]

/-- What the options leave out is filled in. -/
theorem overlay_of_empty {value : Option String} (h : overlay value "" = "")
    (configured : String) : overlay value configured = configured := by
  rw [overlay_eq, if_pos h]

/-- What makes a server a source: an address, and a token or else an email and a password. -/
theorem remoteSource_eq_ok_iff {r : Remote} {s : Source} : remoteSource r = .ok s ↔ r.url ≠ "" ∧
    ((r.token ≠ "" ∧ s = .token r.url r.token) ∨
      (r.token = "" ∧ r.email ≠ "" ∧ r.password ≠ "" ∧
        s = .password r.url r.email r.password)) := by
  unfold remoteSource Remote.isConfigured Remote.hasToken Remote.hasPassword
  by_cases hurl : r.url = ""
  · simp [hurl]
  by_cases htoken : r.token = ""
  · by_cases hemail : r.email = ""
    · simp [hurl, htoken, hemail]
    by_cases hpassword : r.password = ""
    · simp [hurl, htoken, hpassword]
    have hplan : Except.ok (ε := PlanError) (.password r.url r.email r.password) = .ok s ↔
        s = .password r.url r.email r.password := ⟨fun h => (Except.ok.inj h).symm, (· ▸ rfl)⟩
    simpa [hurl, htoken, hemail, hpassword] using hplan
  · have hplan : Except.ok (ε := PlanError) (.token r.url r.token) = .ok s ↔
        s = .token r.url r.token := ⟨fun h => (Except.ok.inj h).symm, (· ▸ rfl)⟩
    simpa [hurl, htoken] using hplan

/-! ## Sources -/

variable {o : Options} {s : Source}

/-- Either a local source is named, or the server of the options is the source. -/
theorem source_cases (o : Options) :
    (∃ s, s.isRemote = false ∧ ∀ c, source o c = .ok s) ∨
      ∀ c : Config, source o c = remoteSource (remoteSettings o c.remote) := by
  unfold source
  cases o.value? .db with
  | some path => exact .inl ⟨.database path, rfl, fun _ => rfl⟩
  | none =>
    cases o.value? .json with
    | some path => exact .inl ⟨.exported path, rfl, fun _ => rfl⟩
    | none => exact .inr fun _ => rfl

/-- A server that the options make a source is one under each configuration, with the credentials of
the options unless the configuration has a token and they have none. -/
theorem remoteSource_of_options (h : remoteSource (remoteSettings o {}) = .ok s) (r : Remote) :
    (∃ url token, s = .token url token ∧ remoteSource (remoteSettings o r) = .ok s) ∨
    ∃ url email password, s = .password url email password ∧
      remoteSource (remoteSettings o r) =
        .ok (if r.token = "" then s else .token url r.token) := by
  obtain ⟨hurl, hcredentials⟩ := remoteSource_eq_ok_iff.mp h
  have hsame : (remoteSettings o r).url = (remoteSettings o {}).url :=
    overlay_of_ne_empty hurl r.url
  rcases hcredentials with ⟨htoken, rfl⟩ | ⟨htoken, hemail, hpassword, rfl⟩
  · have hgiven : (remoteSettings o r).token = (remoteSettings o {}).token :=
      overlay_of_ne_empty htoken r.token
    refine .inl ⟨_, _, rfl, remoteSource_eq_ok_iff.mpr ?_⟩
    rw [hsame, hgiven]
    exact ⟨hurl, .inl ⟨htoken, rfl⟩⟩
  · have hfilled : (remoteSettings o r).token = r.token := overlay_of_empty htoken r.token
    have hemails : (remoteSettings o r).email = (remoteSettings o {}).email :=
      overlay_of_ne_empty hemail r.email
    have hpasswords : (remoteSettings o r).password = (remoteSettings o {}).password :=
      overlay_of_ne_empty hpassword r.password
    refine .inr ⟨_, _, _, rfl, remoteSource_eq_ok_iff.mpr ?_⟩
    rw [hsame, hfilled, hemails, hpasswords]
    refine ⟨hurl, ?_⟩
    by_cases hconfigured : r.token = ""
    · rw [if_pos hconfigured]
      exact .inr ⟨hconfigured, hemail, hpassword, rfl⟩
    · rw [if_neg hconfigured]
      exact .inl ⟨hconfigured, rfl⟩

/-- A source that the options determine is kept under a configuration exactly if it is not a server
with a password while the configuration has a token. In that case the token is used. -/
theorem source_of_options (h : source o {} = .ok s) (c : Config) :
    (source o c = .ok s ↔
      ∀ url email password, s = .password url email password → c.remote.token = "") ∧
    ∀ url email password, s = .password url email password → c.remote.token ≠ "" →
      source o c = .ok (.token url c.remote.token) := by
  rcases source_cases o with ⟨t, hlocal, hsource⟩ | hsource
  · rw [hsource] at h
    obtain rfl := Except.ok.inj h
    have hpassword : ∀ url email password, t ≠ .password url email password := by
      rintro url email password rfl
      cases hlocal
    exact ⟨⟨fun _ _ _ _ ht => (hpassword _ _ _ ht).elim, fun _ => hsource c⟩,
      fun _ _ _ ht => (hpassword _ _ _ ht).elim⟩
  · rw [hsource] at h
    rw [hsource]
    rcases remoteSource_of_options h c.remote with
      ⟨url, token, rfl, hkept⟩ | ⟨url, email, password, rfl, hmixed⟩
    · rw [hkept]
      exact ⟨⟨fun _ _ _ _ ht => (nomatch ht), fun _ => rfl⟩, fun _ _ _ ht => (nomatch ht)⟩
    · rw [hmixed]
      by_cases htoken : c.remote.token = ""
      · simp [htoken]
      · simp [htoken]

/-! ## A password beside a token -/

/-- An address with an email and a password. -/
def passwordArguments : List String := ["-u", "http://pb", "--email", "a@b.c", "-p", "pw"]

def tokenConfig : Config where
  remote := { token := "tok" }

theorem read_passwordArguments : ∃ o, read passwordArguments = .ok o ∧
    source o {} = .ok (.password "http://pb" "a@b.c" "pw") := by
  have hread : ((read passwordArguments).toOption.map fun o => (source o {}).toOption) =
      some (some (.password "http://pb" "a@b.c" "pw")) := by decide +kernel
  cases ho : read passwordArguments with
  | error e => rw [ho] at hread; cases hread
  | ok o =>
    rw [ho] at hread
    refine ⟨o, rfl, ?_⟩
    cases hs : source o {} with
    | error e => simp [Except.toOption, hs] at hread
    | ok s =>
      have hsource : s = .password "http://pb" "a@b.c" "pw" := by
        simpa [Except.toOption, hs] using hread
      rw [hsource]

theorem source_of_passwordArguments : ∃ o, read passwordArguments = .ok o ∧
    source o {} = .ok (.password "http://pb" "a@b.c" "pw") ∧
    source o tokenConfig = .ok (.token "http://pb" "tok") ∧
    source o { remote := { url := "http://other", email := "c@d.e" } } =
      .ok (.password "http://pb" "a@b.c" "pw") := by
  obtain ⟨o, hread, hplan⟩ := read_passwordArguments
  have htoken : tokenConfig.remote.token ≠ "" := by decide
  refine ⟨o, hread, hplan, (source_of_options hplan tokenConfig).2 _ _ _ rfl htoken, ?_⟩
  exact (source_of_options hplan _).1.mpr fun _ _ _ _ => rfl

/-- A password of the options does not stand before a token of the configuration. -/
theorem not_source_of_options : ¬∀ (args : List String) (o : Options) (s : Source) (c : Config),
    read args = .ok o → source o {} = .ok s → source o c = .ok s := by
  intro h
  obtain ⟨o, hread, hplan⟩ := read_passwordArguments
  have hkept := h passwordArguments o _ tokenConfig hread hplan
  rcases source_cases o with ⟨s, hlocal, hsource⟩ | hsource
  · rw [hsource] at hplan
    cases hplan
    cases hlocal
  · rw [hsource] at hplan hkept
    rcases remoteSource_of_options hplan tokenConfig.remote with
      ⟨_, _, hpassword, -⟩ | ⟨_, _, _, -, htoken⟩
    · cases hpassword
    · rw [htoken] at hkept
      simp [tokenConfig] at hkept

end SchemaGen.CommandLine
