import SchemaGen.Proofs.Config.Dotenv
import SchemaGen.Proofs.Config.Ordered
import SchemaGen.Proofs.Config.Settings
import SchemaGen.Proofs.Text.Blank

/-! # Settings made by variables

A variable makes a setting under its short name or under the name of its section and its own, in
any letter case (`settingKey?_of_name`). It stands there alone, so the layer of the environment has
for each setting what its one variable gives (`at?_environmentLayer`).
-/

namespace SchemaGen.Config

set_option autoImplicit false

open Value (IsRecord Sectioned)

/-! ## Names -/

/-- The mark of settings as it is written. -/
def writtenMark : String := "PB_TYPEGEN_"

/-- What the name of a variable has after the mark where the section is left out. -/
def Setting.shortName : Setting → String
  | .path => "out"
  | s => s.name

/-- The same where the section is named. -/
def Setting.longName (s : Setting) : String := s.sectionName ++ "__" ++ s.name

theorem toLower_of_isBlank {c : Char} (h : Text.isBlank c = true) : c.toLower = c := by
  obtain ⟨range, hrange, hlow, hhigh⟩ := Text.inRanges_iff.mp h
  have hupper : ¬(65 ≤ c.toNat ∧ c.toNat ≤ 90) := by
    simp only [Text.blankRanges, List.mem_cons, List.not_mem_nil, or_false] at hrange
    rcases hrange with rfl | rfl | rfl | rfl | rfl | rfl | rfl | rfl | rfl | rfl <;> omega
  unfold Char.toLower
  split
  · next h => exact absurd ⟨h.1, h.2⟩ hupper
  · rfl

/-- The name behind the mark in any letter case. -/
theorem settingName?_of_lower {rest name : List Char} (hrest : rest.map Char.toLower = name)
    (hname : name.any Text.isBlank = false) :
    settingName? (writtenMark ++ String.ofList rest) = some name := by
  have hmark : writtenMark.toList.any Text.isBlank = false := by decide
  have hblank : ∀ c ∈ writtenMark.toList ++ rest, Text.isBlank c = false := by
    intro c hc
    rcases List.mem_append.mp hc with hc | hc
    · exact Bool.eq_false_iff.mpr (List.any_eq_false.mp hmark c hc)
    · rw [Bool.eq_false_iff]
      intro hblank
      have hmem : c.toLower ∈ name := hrest ▸ List.mem_map_of_mem hc
      rw [toLower_of_isBlank hblank] at hmem
      exact List.any_eq_false.mp hname c hmem hblank
  have hlower : (writtenMark.toList ++ rest).map Char.toLower = settingMark ++ name := by
    rw [List.map_append, hrest]
    rfl
  unfold settingName?
  rw [String.toList_append, String.toList_ofList, Text.trimBy_eq_self hblank, hlower]
  simp

/-- A variable under a short name or a long one, in any letter case, makes the setting. -/
theorem settingKey?_of_name (s : Setting) {rest : List Char}
    (hrest : rest.map Char.toLower = s.shortName.toList ∨
      rest.map Char.toLower = s.longName.toList) :
    settingKey? (writtenMark ++ String.ofList rest) = some s.key := by
  unfold settingKey?
  rcases hrest with hrest | hrest
  · rw [settingName?_of_lower hrest (by cases s <;> decide)]
    cases s <;> decide +kernel
  · rw [settingName?_of_lower hrest (by cases s <;> decide)]
    cases s <;> decide +kernel

/-! ## Single variables -/

def Value.IsTable (v : Value) : Prop := ∃ origin entries, v = .table origin entries

instance : DecidablePred Value.IsTable
  | .table origin entries => isTrue ⟨origin, entries, rfl⟩
  | .scalar .. | .list .. => isFalse nofun

theorem Value.Ordered.isRecord {v : Value} (h : v.Ordered) (htable : v.IsTable) : IsRecord v := by
  obtain ⟨origin, entries, rfl⟩ := htable
  cases h with
  | table _ hkeys _ => exact ⟨origin, entries, rfl, hkeys⟩

theorem isRecord_nest (origin : Origin) (v : Value) (key : String) (rest : List String) :
    IsRecord (Value.nest origin v (key :: rest)) :=
  ⟨origin, _, rfl, List.pairwise_singleton _ _⟩

theorem at?_nest (origin : Origin) (v : Value) (name key : String) (rest : List String) :
    (Value.nest origin v (key :: rest)).at? [name] =
      if name = key then some (Value.nest origin v rest) else none := by
  rw [Value.nest, Value.at?_table]
  by_cases h : name = key
  · simp [h]
  · simp [h, List.lookup_cons, beq_eq_false_iff_ne.mpr h]

theorem keyOf_ne_nil (name : List Char) : keyOf name ≠ [] := by
  unfold keyOf
  dsimp only
  split
  · exact List.cons_ne_nil _ _
  split
  · exact List.cons_ne_nil _ _
  split
  · exact List.cons_ne_nil _ _
  · intro h
    exact Text.pieces_ne_nil _ _ (List.map_eq_nil_iff.mp h)

theorem exists_cons_of_settingKey? {name : String} {key : List String}
    (h : settingKey? name = some key) : ∃ first rest, key = first :: rest := by
  obtain ⟨hkey, -⟩ := Option.filter_eq_some_iff.mp h
  obtain ⟨short, -, rfl⟩ := Option.map_eq_some_iff.mp hkey
  exact List.exists_cons_of_ne_nil (keyOf_ne_nil short)

/-- A variable that stands for a section holds a table. -/
def TableVariable (entry : String × String) : Prop :=
  ∀ name ∈ Value.sectionNames, settingKey? entry.1 = some [name] →
    (Literal.parse entry.2).IsTable

instance : DecidablePred TableVariable := fun entry =>
  inferInstanceAs (Decidable (∀ name ∈ Value.sectionNames, settingKey? entry.1 = some [name] →
    (Literal.parse entry.2).IsTable))

theorem sectioned_variableLayer? {entry : String × String} {v : Value}
    (htable : TableVariable entry) (h : variableLayer? entry = some v) : Sectioned v := by
  obtain ⟨key, hkey, rfl⟩ := Option.map_eq_some_iff.mp h
  obtain ⟨first, rest, rfl⟩ := exists_cons_of_settingKey? hkey
  refine ⟨isRecord_nest .environment _ first rest, ?_⟩
  intro name hname w hw
  rw [at?_nest] at hw
  split at hw
  · next heq =>
    obtain rfl := Option.some.inj hw
    cases rest with
    | nil => exact (Literal.ordered_parse entry.2).isRecord (htable name hname (heq ▸ hkey))
    | cons second rest => exact isRecord_nest .environment _ second rest
  · cases hw

/-- What a variable gives for a setting. -/
def given? (s : Setting) (entry : String × String) : Option Value :=
  (variableLayer? entry).bind (·.at? s.key)

theorem given?_of_key {s : Setting} {entry : String × String}
    (h : settingKey? entry.1 = some s.key) : given? s entry = some (Literal.parse entry.2) := by
  unfold given? variableLayer?
  rw [h, Option.map_some, Option.bind_some, Setting.key, Value.at?_pair, at?_nest, if_pos rfl,
    Option.bind_some, at?_nest, if_pos rfl]
  rfl

/-- But for the variables of whole sections the name says whether a variable makes a setting. -/
theorem isSome_given? {s : Setting} {name : String} (h : settingKey? name ≠ some [s.sectionName])
    (value other : String) : (given? s (name, value)).isSome = (given? s (name, other)).isSome := by
  unfold given? variableLayer?
  cases hkey : settingKey? name with
  | none => rfl
  | some key =>
    obtain ⟨first, rest, rfl⟩ := exists_cons_of_settingKey? hkey
    simp only [Option.map_some, Option.bind_some, Setting.key]
    rw [Value.at?_pair, at?_nest, Value.at?_pair, at?_nest]
    by_cases hfirst : s.sectionName = first
    · cases rest with
      | nil => exact absurd (hfirst ▸ hkey) h
      | cons second rest =>
        simp only [if_pos hfirst, Option.bind_some, at?_nest]
        split <;> rfl
    · simp only [if_neg hfirst, Option.bind_none]

/-! ## The layer of the environment -/

/-- What the first of the variables that make a setting gives for it. -/
def given (s : Setting) (environment : Dotenv.Environment) : Option Value :=
  environment.findSome? (given? s)

/-- No two variables make one setting. -/
def GivenOnce (environment : Dotenv.Environment) : Prop :=
  environment.Pairwise fun a b => ∀ s, given? s a = none ∨ given? s b = none

theorem given_of_mem {environment : Dotenv.Environment} (honce : GivenOnce environment)
    {s : Setting} {entry : String × String} (hentry : entry ∈ environment) {v : Value}
    (hv : given? s entry = some v) : given s environment = some v := by
  induction environment with
  | nil => cases hentry
  | cons first rest ih =>
    obtain ⟨hfirst, hrest⟩ := List.pairwise_cons.mp honce
    unfold given
    rw [List.findSome?_cons]
    rcases List.mem_cons.mp hentry with rfl | hentry
    · rw [hv]
    · have hnone : given? s first = none := by
        refine (hfirst entry hentry s).resolve_right ?_
        rw [hv]
        nofun
      rw [hnone]
      exact ih hrest hentry

theorem sectioned_of_mem_layers {environment : Dotenv.Environment}
    (htables : ∀ entry ∈ environment, TableVariable entry) :
    ∀ v ∈ environment.filterMap variableLayer?, Sectioned v := by
  intro v hv
  obtain ⟨entry, hentry, hv⟩ := List.mem_filterMap.mp hv
  exact sectioned_variableLayer? (htables entry hentry) hv

theorem sectioned_empty (origin : Origin) : Sectioned (.table origin []) :=
  ⟨⟨origin, [], rfl, List.Pairwise.nil⟩, fun name _ w hw => by cases hw⟩

theorem sectioned_environmentLayer {environment : Dotenv.Environment}
    (htables : ∀ entry ∈ environment, TableVariable entry) :
    Sectioned (environmentLayer environment) :=
  Value.sectioned_foldl (sectioned_empty .environment) (sectioned_of_mem_layers htables)

theorem at?_environmentLayer {environment : Dotenv.Environment}
    (htables : ∀ entry ∈ environment, TableVariable entry) (honce : GivenOnce environment)
    (s : Setting) : (environmentLayer environment).at? s.key = given s environment := by
  have hsingle : ((environment.filterMap variableLayer?).map (·.at? s.key)).Pairwise
      fun a b => a = none ∨ b = none := by
    rw [List.pairwise_map, List.pairwise_filterMap]
    refine honce.imp ?_
    intro a b hab v hv w hw
    have hs := hab s
    unfold given? at hs
    rwa [hv, hw] at hs
  unfold environmentLayer
  rw [Setting.key, Value.at?_foldl (sectioned_empty .environment)
    (sectioned_of_mem_layers htables) s.sectionName_mem s.name]
  have hfirst := Value.foldl_stack_single hsingle
  rw [List.findSome?_map, ← List.head?_filterMap, List.filterMap_filterMap,
    List.head?_filterMap] at hfirst
  exact hfirst

end SchemaGen.Config
