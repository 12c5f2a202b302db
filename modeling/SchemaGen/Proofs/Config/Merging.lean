import SchemaGen.Config.Value
import SchemaGen.Proofs.Entries

/-! # What merged layers hold

Merging goes key by key, so what stands under a key of two parts is made of what the layers have
under it (`at?_merge`), as long as each layer has tables on the way. Of many layers the highest that
has a scalar there wins, whatever the lower ones have (`foldl_stack_scalar`).
-/

namespace SchemaGen.Config.Value

set_option autoImplicit false

open Entries (Ascending)

/-! ## Values under keys -/

/-- The value under a key of several parts. -/
def at? : List String → Value → Option Value
  | [], v => some v
  | key :: rest, .table _ entries => (entries.lookup key).bind (at? rest)
  | _ :: _, _ => none

theorem at?_table (origin : Origin) (entries : List (String × Value)) (key : String) :
    at? [key] (.table origin entries) = entries.lookup key := by
  unfold at?
  cases entries.lookup key <;> rfl

theorem at?_pair (v : Value) (name key : String) :
    v.at? [name, key] = (v.at? [name]).bind (at? [key]) := by
  cases v with
  | scalar => rfl
  | list => rfl
  | table origin entries =>
    rw [at?_table]
    rfl

/-- A table whose keys ascend. -/
def IsRecord (v : Value) : Prop := ∃ origin entries, v = .table origin entries ∧ Ascending entries

/-! ## One layer over another -/

/-- What stands in one place when a value may stand over another there. -/
def stack (lower upper : Option Value) : Option Value :=
  match upper, lower with
  | none, lower => lower
  | some upper, none => some upper
  | some upper, some lower => some (merge lower upper)

@[simp] theorem stack_none (lower : Option Value) : stack lower none = lower := rfl

@[simp] theorem none_stack (upper : Option Value) : stack none upper = upper := by
  cases upper <;> rfl

theorem merge_table (o p : Origin) (lower upper : List (String × Value)) :
    merge (.table o lower) (.table p upper) = .table p (mergeEntries lower upper) := by
  rw [merge]

theorem merge_scalar (lower : Value) (o : Origin) (s : Scalar) :
    merge lower (.scalar o s) = .scalar o s := by
  rw [merge]
  nofun

theorem merge_list (lower : Value) (o : Origin) (items : List Value) :
    merge lower (.list o items) = .list o items := by
  rw [merge]
  nofun

theorem merge_table_cases (lower : Value) (o : Origin) (upper : List (String × Value)) :
    ∃ entries, merge lower (.table o upper) = .table o entries := by
  cases lower with
  | table p below => exact ⟨_, merge_table p o below upper⟩
  | scalar p s => exact ⟨upper, by rw [merge]; nofun⟩
  | list p items => exact ⟨upper, by rw [merge]; nofun⟩

theorem stack_scalar (lower : Option Value) (o : Origin) (s : Scalar) :
    stack lower (some (.scalar o s)) = some (.scalar o s) := by
  cases lower with
  | none => rfl
  | some lower => exact congrArg some (merge_scalar lower o s)

/-- A scalar over something else was a scalar before. -/
theorem eq_of_stack_eq_scalar {lower : Option Value} {v : Value} {o : Origin} {s : Scalar}
    (h : stack lower (some v) = some (.scalar o s)) : v = .scalar o s := by
  cases lower with
  | none => exact Option.some.inj h
  | some lower =>
    have hmerge : merge lower v = .scalar o s := Option.some.inj h
    cases v with
    | scalar p y => rwa [merge_scalar] at hmerge
    | list p items =>
      rw [merge_list] at hmerge
      cases hmerge
    | table p entries =>
      obtain ⟨merged, htable⟩ := merge_table_cases lower p entries
      rw [htable] at hmerge
      cases hmerge

theorem mergeEntries_cons (lower rest : List (String × Value)) (key : String) (value : Value) :
    ∃ merged, stack (lower.lookup key) (some value) = some merged ∧
      mergeEntries lower ((key, value) :: rest) =
        mergeEntries (Entries.insert key merged lower) rest := by
  rw [mergeEntries]
  cases lower.lookup key with
  | none => exact ⟨value, rfl, rfl⟩
  | some below => exact ⟨merge below value, rfl, rfl⟩

theorem ascending_mergeEntries {lower : List (String × Value)} (h : Ascending lower)
    (upper : List (String × Value)) : Ascending (mergeEntries lower upper) := by
  induction upper generalizing lower with
  | nil =>
    rw [mergeEntries]
    exact h
  | cons entry rest ih =>
    obtain ⟨merged, -, hcons⟩ := mergeEntries_cons lower rest entry.1 entry.2
    rw [hcons]
    exact ih (h.insert entry.1 merged)

theorem lookup_mergeEntries (lower : List (String × Value)) {upper : List (String × Value)}
    (hkeys : (upper.map Prod.fst).Nodup) (key : String) :
    (mergeEntries lower upper).lookup key = stack (lower.lookup key) (upper.lookup key) := by
  induction upper generalizing lower with
  | nil => rw [mergeEntries, List.lookup_nil, stack_none]
  | cons entry rest ih =>
    obtain ⟨k, v⟩ := entry
    rw [List.map_cons, List.nodup_cons] at hkeys
    obtain ⟨merged, hmerged, hcons⟩ := mergeEntries_cons lower rest k v
    rw [hcons, ih _ hkeys.2, Entries.lookup_insert]
    by_cases hkey : key = k
    · -- Nothing further down in the upper entries stands under this key.
      subst hkey
      rw [Entries.lookup_eq_none hkeys.1, if_pos rfl, stack_none, List.lookup_cons,
        beq_self_eq_true, hmerged]
    · have hbeq : (key == k) = false := beq_eq_false_iff_ne.mpr hkey
      rw [if_neg hkey, List.lookup_cons, hbeq]

theorem IsRecord.merge {a b : Value} (ha : IsRecord a) (hb : IsRecord b) :
    IsRecord (merge a b) := by
  obtain ⟨o, lower, rfl, hlower⟩ := ha
  obtain ⟨p, upper, rfl, -⟩ := hb
  exact ⟨p, _, merge_table o p lower upper, ascending_mergeEntries hlower upper⟩

theorem IsRecord.at?_merge {a b : Value} (ha : IsRecord a) (hb : IsRecord b) (key : String) :
    (Value.merge a b).at? [key] = stack (a.at? [key]) (b.at? [key]) := by
  obtain ⟨o, lower, rfl, -⟩ := ha
  obtain ⟨p, upper, rfl, hupper⟩ := hb
  rw [merge_table, at?_table, at?_table, at?_table, lookup_mergeEntries lower hupper.nodup]

/-! ## Layers with sections -/

/-- The tables that settings stand in. -/
def sectionNames : List String := ["remote", "output"]

/-- A table with tables in the place of the sections, as far as it has them. -/
structure Sectioned (v : Value) : Prop where
  isRecord : IsRecord v
  section_isRecord : ∀ name ∈ sectionNames, ∀ w, v.at? [name] = some w → IsRecord w

theorem Sectioned.merge {a b : Value} (ha : Sectioned a) (hb : Sectioned b) :
    Sectioned (merge a b) := by
  refine ⟨ha.isRecord.merge hb.isRecord, ?_⟩
  intro name hname w hw
  rw [ha.isRecord.at?_merge hb.isRecord] at hw
  cases hlower : a.at? [name] with
  | none =>
    rw [hlower, none_stack] at hw
    exact hb.section_isRecord name hname w hw
  | some lower =>
    have hrecord := ha.section_isRecord name hname lower hlower
    cases hupper : b.at? [name] with
    | none =>
      rw [hlower, hupper] at hw
      exact Option.some.inj hw ▸ hrecord
    | some upper =>
      rw [hlower, hupper] at hw
      exact Option.some.inj hw ▸ hrecord.merge (hb.section_isRecord name hname upper hupper)

/-- What stands in a section of two layers is made of what stands there in each. -/
theorem at?_merge {a b : Value} (ha : Sectioned a) (hb : Sectioned b) {name : String}
    (hname : name ∈ sectionNames) (key : String) :
    (Value.merge a b).at? [name, key] = stack (a.at? [name, key]) (b.at? [name, key]) := by
  rw [at?_pair, at?_pair a, at?_pair b, ha.isRecord.at?_merge hb.isRecord]
  cases hlower : a.at? [name] with
  | none => simp
  | some lower =>
    cases hupper : b.at? [name] with
    | none => simp
    | some upper =>
      have hrecord := ha.section_isRecord name hname lower hlower
      exact hrecord.at?_merge (hb.section_isRecord name hname upper hupper) key

/-! ## Many layers -/

theorem sectioned_foldl {layers : List Value} {lowest : Value} (hlowest : Sectioned lowest)
    (hlayers : ∀ v ∈ layers, Sectioned v) : Sectioned (layers.foldl Value.merge lowest) :=
  List.foldlRecOn layers Value.merge hlowest fun _ hmerged v hv => hmerged.merge (hlayers v hv)

theorem at?_foldl {layers : List Value} {lowest : Value} (hlowest : Sectioned lowest)
    (hlayers : ∀ v ∈ layers, Sectioned v) {name : String} (hname : name ∈ sectionNames)
    (key : String) : (layers.foldl Value.merge lowest).at? [name, key] =
      (layers.map (at? [name, key])).foldl stack (lowest.at? [name, key]) := by
  induction layers generalizing lowest with
  | nil => rfl
  | cons v rest ih =>
    have hv := hlayers v (List.mem_cons_self ..)
    have hrest : ∀ w ∈ rest, Sectioned w := fun w hw => hlayers w (List.mem_cons_of_mem v hw)
    rw [List.foldl_cons, ih (hlowest.merge hv) hrest, at?_merge hlowest hv hname]
    rfl

/-- A scalar of the highest layer that has anything in a place stands there. -/
theorem foldl_stack_scalar {values : List (Option Value)} {lowest : Option Value} {o : Origin}
    {s : Scalar} (h : (values.reverse.findSome? id).or lowest = some (.scalar o s)) :
    values.foldl stack lowest = some (.scalar o s) := by
  induction values generalizing lowest with
  | nil => exact h
  | cons upper rest ih =>
    rw [List.reverse_cons, List.findSome?_append, Option.or_assoc] at h
    refine ih ?_
    cases hrest : rest.reverse.findSome? id with
    | some v =>
      rw [hrest] at h
      exact h
    | none =>
      rw [hrest] at h
      cases upper with
      | none => exact h
      | some upper =>
        obtain rfl := Option.some.inj h
        exact stack_scalar lowest o s

theorem foldl_stack_nones {values : List (Option Value)} (h : ∀ v ∈ values, v = none)
    (lowest : Option Value) : values.foldl stack lowest = lowest := by
  induction values with
  | nil => rfl
  | cons v rest ih =>
    rw [List.foldl_cons, h v (List.mem_cons_self ..), stack_none]
    exact ih fun w hw => h w (List.mem_cons_of_mem v hw)

/-- Where only one layer has a value, it stands there. -/
theorem foldl_stack_single {values : List (Option Value)}
    (h : values.Pairwise fun a b => a = none ∨ b = none) :
    values.foldl stack none = values.findSome? id := by
  induction values with
  | nil => rfl
  | cons v rest ih =>
    obtain ⟨hv, hrest⟩ := List.pairwise_cons.mp h
    cases v with
    | none => exact ih hrest
    | some v =>
      have hnone : ∀ w ∈ rest, w = none := fun w hw => (hv w hw).resolve_left nofun
      exact foldl_stack_nones hnone (some v)

end SchemaGen.Config.Value
