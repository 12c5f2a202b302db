import SchemaGen.Config.Load
import SchemaGen.Proofs.Config.Merging
import SchemaGen.Proofs.Members

/-! # Records read from settings

A table that is read is read as its members read it, and only the errors tell more
(`Form.read_table_eq_ok_iff`). A member reads its own part of the record and leaves the others as
they are. So each part is what stands under its key, and reading fails only where a member does
(`Form.read_at`, `Form.exists_read`). The six settings of a configuration are such parts of its two
sections (`scalar_of_read`, `exists_read`).
-/

namespace SchemaGen.Config

set_option autoImplicit false

open Members (Holds)
open Value (IsRecord Sectioned)

/-! ## Forms -/

namespace Form

variable {ρ α : Type} {form : Form ρ} {key : String} {value : Value → Except SettingError α}
  {get : ρ → α}

/-- An entry is read as the members read it; only the errors tell its key as well. -/
theorem readEntry_eq_ok_iff {r r' : ρ} {entry : String × Value} :
    form.readEntry r entry = .ok r' ↔ Members.readEntry form.members r entry = .ok r' := by
  unfold readEntry Members.readEntry
  cases form.members.lookup entry.1 with
  | none => exact Iff.rfl
  | some read => exact mapError_eq_ok_iff

theorem read_table_eq_ok_iff {origin : Origin} {entries : List (String × Value)} {r : ρ} :
    form.read (.table origin entries) = .ok r ↔
      entries.foldlM (Members.readEntry form.members) form.initial = .ok r :=
  foldlM_eq_ok_congr fun _ _ _ => readEntry_eq_ok_iff

/-- What a record holds was read from what stands under the key of the part. -/
theorem read_at (h : Holds form.members key value get) {v w : Value} (hv : IsRecord v) {r : ρ}
    (hread : form.read v = .ok r) (hw : v.at? [key] = some w) : value w = .ok (get r) := by
  obtain ⟨origin, entries, rfl, hkeys⟩ := hv
  rw [Value.at?_table] at hw
  exact h.foldlM_own hkeys.nodup (Entries.mem_of_lookup hw) (read_table_eq_ok_iff.mp hread)

/-- The same for a record within a record. -/
theorem read_at_pair {σ : Type} {inner : Form σ} {outer : Form ρ} {part : ρ → σ} {get : σ → α}
    {name : String} (houter : Holds outer.members name inner.read part)
    (hinner : Holds inner.members key value get) {v w : Value} (hv : IsRecord v)
    (hsection : ∀ t, v.at? [name] = some t → IsRecord t) {r : ρ} (hread : outer.read v = .ok r)
    (hw : v.at? [name, key] = some w) : value w = .ok (get (part r)) := by
  rw [Value.at?_pair] at hw
  obtain ⟨t, ht, hw⟩ := Option.bind_eq_some_iff.mp hw
  exact read_at hinner (hsection t ht) (read_at houter hv hread ht) hw

/-- A table is read if each member reads what stands under its key. -/
theorem exists_read {v : Value} (hv : IsRecord v)
    (h : ∀ key read, (key, read) ∈ form.members → ∀ w, v.at? [key] = some w →
      ∀ r, ∃ r', read r w = .ok r') : ∃ r, form.read v = .ok r := by
  obtain ⟨origin, entries, rfl, hkeys⟩ := hv
  have hmembers : ∀ key read w, (key, read) ∈ form.members → (key, w) ∈ entries →
      ∀ r, ∃ r', read r w = .ok r' := by
    intro key read w hmember hentry
    have hw : Value.at? [key] (.table origin entries) = some w :=
      (Value.at?_table origin entries key).trans (Entries.lookup_of_mem hkeys.nodup hentry)
    exact h key read hmember w hw
  obtain ⟨r, hread⟩ := Members.exists_foldlM_readEntry hmembers form.initial
  exact ⟨r, read_table_eq_ok_iff.mpr hread⟩

end Form

/-! ## Records of a configuration -/

namespace Remote

theorem holds_url : Holds Remote.form.members "url" Value.readText Remote.url := by
  constructor <;> simp [Remote.form, setting, map_eq_ok_iff]

theorem holds_token : Holds Remote.form.members "token" Value.readText Remote.token := by
  constructor <;> simp [Remote.form, setting, map_eq_ok_iff]

theorem holds_email : Holds Remote.form.members "email" Value.readText Remote.email := by
  constructor <;> simp [Remote.form, setting, map_eq_ok_iff]

theorem holds_password : Holds Remote.form.members "password" Value.readText Remote.password := by
  constructor <;> simp [Remote.form, setting, map_eq_ok_iff]

end Remote

namespace Output

theorem holds_path : Holds Output.form.members "path" Value.readText Output.path := by
  constructor <;> simp [Output.form, setting, map_eq_ok_iff, -Bool.exists_bool,
    -Bool.forall_bool]

theorem holds_provenance : Holds Output.form.members "provenance" Value.readBool Output.provenance := by
  constructor <;> simp [Output.form, setting, map_eq_ok_iff, -Bool.exists_bool,
    -Bool.forall_bool]

end Output

theorem holds_remote : Holds form.members "remote" Remote.form.read Config.remote := by
  constructor <;> simp [form, setting, map_eq_ok_iff]

theorem holds_output : Holds form.members "output" Output.form.read Config.output := by
  constructor <;> simp [form, setting, map_eq_ok_iff]

/-! ## Settings -/

inductive Setting where
  | url | token | email | password | path | provenance
  deriving DecidableEq, Repr

namespace Setting

/-- The name of the table that a setting stands in. -/
def sectionName : Setting → String
  | .url | .token | .email | .password => "remote"
  | .path | .provenance => "output"

def name : Setting → String
  | .url => "url"
  | .token => "token"
  | .email => "email"
  | .password => "password"
  | .path => "path"
  | .provenance => "provenance"

def key (s : Setting) : List String := [s.sectionName, s.name]

/-- What a configuration has for a setting. -/
def get (c : Config) : Setting → Scalar
  | .url => .text c.remote.url
  | .token => .text c.remote.token
  | .email => .text c.remote.email
  | .password => .text c.remote.password
  | .path => .text c.output.path
  | .provenance => .bool c.output.provenance

/-- The scalar has the type of the setting: a truth value, or else a text. -/
def Takes (s : Setting) : Scalar → Prop
  | .bool _ => s = .provenance
  | .text _ => s ≠ .provenance
  | .unsigned _ | .signed _ | .real _ => False

instance (s : Setting) : DecidablePred s.Takes
  | .bool _ => inferInstanceAs (Decidable (s = .provenance))
  | .text _ => inferInstanceAs (Decidable (s ≠ .provenance))
  | .unsigned _ | .signed _ | .real _ => isFalse id

theorem sectionName_mem (s : Setting) : s.sectionName ∈ Value.sectionNames := by
  cases s <;> decide

theorem takes_get (s : Setting) (c : Config) : s.Takes (s.get c) := by
  cases s with
  | provenance => rfl
  | url | token | email | password | path => nofun

theorem get_eq_text {s : Setting} (hs : s ≠ .provenance) (c : Config) :
    ∃ text, s.get c = .text text := by
  cases s with
  | url => exact ⟨_, rfl⟩
  | token => exact ⟨_, rfl⟩
  | email => exact ⟨_, rfl⟩
  | password => exact ⟨_, rfl⟩
  | path => exact ⟨_, rfl⟩
  | provenance => exact absurd rfl hs

/-- A configuration is what it has for the settings. -/
theorem eq_of_get {c d : Config} (h : ∀ s : Setting, s.get c = s.get d) : c = d := by
  have hurl : c.remote.url = d.remote.url := Scalar.text.inj (h .url)
  have htoken : c.remote.token = d.remote.token := Scalar.text.inj (h .token)
  have hemail : c.remote.email = d.remote.email := Scalar.text.inj (h .email)
  have hpassword : c.remote.password = d.remote.password := Scalar.text.inj (h .password)
  have hpath : c.output.path = d.output.path := Scalar.text.inj (h .path)
  have hprovenance : c.output.provenance = d.output.provenance := Scalar.bool.inj (h .provenance)
  obtain ⟨⟨_, _, _, _⟩, ⟨_, _⟩⟩ := c
  obtain ⟨⟨_, _, _, _⟩, ⟨_, _⟩⟩ := d
  simp_all

end Setting

theorem scalar_of_readText {v : Value} {t : String} (h : v.readText = .ok t) :
    ∃ origin, v = .scalar origin (.text t) := by
  unfold Value.readText at h
  split at h
  · next origin s => exact ⟨origin, by rw [Except.ok.inj h]⟩
  · cases h

theorem scalar_of_readBool {v : Value} {b : Bool} (h : v.readBool = .ok b) :
    ∃ origin, v = .scalar origin (.bool b) := by
  unfold Value.readBool at h
  split at h
  · next origin s => exact ⟨origin, by rw [Except.ok.inj h]⟩
  · cases h

/-- What stands under the key of a setting is what the record has for it. -/
theorem scalar_of_read {v w : Value} {c : Config} (hv : Sectioned v) (hread : form.read v = .ok c)
    (s : Setting) (hw : v.at? s.key = some w) : ∃ origin, w = .scalar origin (s.get c) := by
  have hsection := hv.section_isRecord s.sectionName s.sectionName_mem
  cases s with
  | url =>
    exact scalar_of_readText
      (Form.read_at_pair holds_remote Remote.holds_url hv.isRecord hsection hread hw)
  | token =>
    exact scalar_of_readText
      (Form.read_at_pair holds_remote Remote.holds_token hv.isRecord hsection hread hw)
  | email =>
    exact scalar_of_readText
      (Form.read_at_pair holds_remote Remote.holds_email hv.isRecord hsection hread hw)
  | password =>
    exact scalar_of_readText
      (Form.read_at_pair holds_remote Remote.holds_password hv.isRecord hsection hread hw)
  | path =>
    exact scalar_of_readText
      (Form.read_at_pair holds_output Output.holds_path hv.isRecord hsection hread hw)
  | provenance =>
    exact scalar_of_readBool
      (Form.read_at_pair holds_output Output.holds_provenance hv.isRecord hsection hread hw)

/-- The value is a scalar of the setting's type. -/
def Setting.TakesValue (s : Setting) (v : Value) : Prop :=
  ∃ origin x, v = .scalar origin x ∧ s.Takes x

instance (s : Setting) : DecidablePred s.TakesValue
  | .scalar origin x =>
    decidable_of_iff (s.Takes x) ⟨fun h => ⟨origin, x, rfl, h⟩, fun ⟨_, _, heq, h⟩ => by
      cases heq
      exact h⟩
  | .list .. | .table .. => isFalse nofun

theorem Setting.TakesValue.readText {s : Setting} {v : Value} (h : s.TakesValue v)
    (hs : s ≠ .provenance) : ∃ t, v.readText = .ok t := by
  obtain ⟨origin, x, rfl, hx⟩ := h
  cases x with
  | text t => exact ⟨t, rfl⟩
  | bool b => exact absurd hx hs
  | unsigned | signed | real => exact hx.elim

theorem Setting.TakesValue.readBool {v : Value} (h : Setting.provenance.TakesValue v) :
    ∃ b, v.readBool = .ok b := by
  obtain ⟨origin, x, rfl, hx⟩ := h
  cases x with
  | bool b => exact ⟨b, rfl⟩
  | text t => exact absurd rfl hx
  | unsigned | signed | real => exact hx.elim

theorem exists_setting {ρ α : Type} {value : Value → Except SettingError α} (set : ρ → α → ρ)
    {v : Value} (h : ∃ a, value v = .ok a) (r : ρ) : ∃ r', (value v).map (set r) = .ok r' := by
  obtain ⟨a, ha⟩ := h
  exact ⟨set r a, map_eq_ok_iff.mpr ⟨a, ha, rfl⟩⟩

theorem Remote.exists_read {v : Value} (hv : IsRecord v)
    (h : ∀ s : Setting, s.sectionName = "remote" → ∀ w, v.at? [s.name] = some w → s.TakesValue w) :
    ∃ r, Remote.form.read v = .ok r := by
  refine Form.exists_read hv ?_
  intro key read hmember w hw
  simp only [Remote.form, setting, List.mem_cons, List.not_mem_nil, or_false,
    Prod.mk.injEq] at hmember
  rcases hmember with ⟨rfl, rfl⟩ | ⟨rfl, rfl⟩ | ⟨rfl, rfl⟩ | ⟨rfl, rfl⟩
  · exact exists_setting _ ((h .url rfl w hw).readText nofun)
  · exact exists_setting _ ((h .token rfl w hw).readText nofun)
  · exact exists_setting _ ((h .email rfl w hw).readText nofun)
  · exact exists_setting _ ((h .password rfl w hw).readText nofun)

theorem Output.exists_read {v : Value} (hv : IsRecord v)
    (h : ∀ s : Setting, s.sectionName = "output" → ∀ w, v.at? [s.name] = some w → s.TakesValue w) :
    ∃ r, Output.form.read v = .ok r := by
  refine Form.exists_read hv ?_
  intro key read hmember w hw
  simp only [Output.form, setting, List.mem_cons, List.not_mem_nil, or_false,
    Prod.mk.injEq] at hmember
  rcases hmember with ⟨rfl, rfl⟩ | ⟨rfl, rfl⟩
  · exact exists_setting _ ((h .path rfl w hw).readText nofun)
  · exact exists_setting _ (h .provenance rfl w hw).readBool

/-- A configuration is read where each setting that is made has a scalar of its type. -/
theorem exists_read {v : Value} (hv : Sectioned v)
    (h : ∀ (s : Setting) w, v.at? s.key = some w → s.TakesValue w) :
    ∃ c, form.read v = .ok c := by
  have hsection {t : Value} {name : String} (ht : v.at? [name] = some t) (s : Setting)
      (hs : s.sectionName = name) (w : Value) (hw : t.at? [s.name] = some w) : s.TakesValue w := by
    refine h s w ?_
    rw [Setting.key, Value.at?_pair, hs, ht]
    exact hw
  refine Form.exists_read hv.isRecord ?_
  intro key read hmember t ht
  simp only [form, setting, List.mem_cons, List.not_mem_nil, or_false, Prod.mk.injEq] at hmember
  rcases hmember with ⟨rfl, rfl⟩ | ⟨rfl, rfl⟩
  · have hrecord := hv.section_isRecord "remote" (by decide) t ht
    exact exists_setting _ (Remote.exists_read hrecord (hsection ht))
  · have hrecord := hv.section_isRecord "output" (by decide) t ht
    exact exists_setting _ (Output.exists_read hrecord (hsection ht))

end SchemaGen.Config
