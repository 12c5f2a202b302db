import Mathlib.Data.List.Nodup
import SchemaGen.Entries

/-! # Entries in ascending order

Putting a value under a key changes what stands under this key and nothing else (`lookup_insert`),
and keeps the keys in ascending order (`Ascending.insert`). So each key stands once, and the entries
are what is found under their keys (`lookup_of_mem`).
-/

namespace SchemaGen.Entries

set_option autoImplicit false

variable {α : Type}

/-! ## Looking up -/

theorem lookup_insert (key other : String) (value : α) (entries : List (String × α)) :
    (insert key value entries).lookup other =
      if other = key then some value else entries.lookup other := by
  induction entries with
  | nil =>
    by_cases hother : other = key
    · simp [insert, hother]
    · have hbeq : (other == key) = false := beq_eq_false_iff_ne.mpr hother
      simp [insert, List.lookup_cons, hother, hbeq]
  | cons entry rest ih =>
    obtain ⟨k, v⟩ := entry
    by_cases hother : other = key
    · subst hother
      unfold insert
      by_cases hlt : other < k
      · simp [hlt]
      by_cases heq : other = k
      · subst heq
        rw [if_neg hlt, if_pos rfl, if_pos rfl, List.lookup_cons, beq_self_eq_true]
      · have hbeq : (other == k) = false := beq_eq_false_iff_ne.mpr heq
        simp [hlt, heq, hbeq, List.lookup_cons, ih]
    · have hbeq : (other == key) = false := beq_eq_false_iff_ne.mpr hother
      unfold insert
      by_cases hlt : key < k
      · simp [hlt, hother, hbeq, List.lookup_cons]
      by_cases heq : key = k
      · subst heq
        rw [if_neg hlt, if_pos rfl, if_neg hother, List.lookup_cons, List.lookup_cons, hbeq]
      · rw [if_neg hlt, if_neg heq, List.lookup_cons, List.lookup_cons, ih, if_neg hother,
          if_neg hother]

theorem lookup_of_mem {entries : List (String × α)} (hkeys : (entries.map Prod.fst).Nodup)
    {entry : String × α} (h : entry ∈ entries) : entries.lookup entry.1 = some entry.2 := by
  induction entries with
  | nil => cases h
  | cons first rest ih =>
    rw [List.map_cons, List.nodup_cons] at hkeys
    rcases List.mem_cons.mp h with rfl | hrest
    · rw [List.lookup_cons, beq_self_eq_true]
    · have hne : entry.1 ≠ first.1 := by
        intro heq
        exact hkeys.1 (heq ▸ List.mem_map_of_mem hrest)
      rw [List.lookup_cons, beq_eq_false_iff_ne.mpr hne, ih hkeys.2 hrest]

theorem mem_of_lookup {entries : List (String × α)} {key : String} {value : α}
    (h : entries.lookup key = some value) : (key, value) ∈ entries := by
  obtain ⟨before, after, rfl, -⟩ := List.lookup_eq_some_iff.mp h
  exact List.mem_append_right _ (List.mem_cons_self ..)

theorem lookup_eq_none {entries : List (String × α)} {key : String}
    (h : key ∉ entries.map Prod.fst) : entries.lookup key = none := by
  cases hlookup : entries.lookup key with
  | none => rfl
  | some value => exact absurd (List.mem_map_of_mem (mem_of_lookup hlookup)) h

/-! ## Members -/

theorem mem_insert {key : String} {value : α} {entries : List (String × α)} {entry : String × α}
    (h : entry ∈ insert key value entries) : entry = (key, value) ∨ entry ∈ entries := by
  induction entries with
  | nil => exact .inl (List.mem_singleton.mp h)
  | cons first rest ih =>
    unfold insert at h
    split at h
    · exact List.mem_cons.mp h
    · split at h
      · exact (List.mem_cons.mp h).imp_right (List.mem_cons_of_mem _)
      · rcases List.mem_cons.mp h with rfl | hrest
        · exact .inr (List.mem_cons_self ..)
        · exact (ih hrest).imp_right (List.mem_cons_of_mem _)

theorem mem_replace {κ : Type} [DecidableEq κ] {key : κ} {value : α} {entries : List (κ × α)}
    {entry : κ × α} (h : entry ∈ replace key value entries) :
    entry = (key, value) ∨ entry ∈ entries := by
  induction entries with
  | nil => exact .inl (List.mem_singleton.mp h)
  | cons first rest ih =>
    unfold replace at h
    split at h
    · exact (List.mem_cons.mp h).imp_right (List.mem_cons_of_mem _)
    · rcases List.mem_cons.mp h with rfl | hrest
      · exact .inr (List.mem_cons_self ..)
      · exact (ih hrest).imp_right (List.mem_cons_of_mem _)

/-! ## Order -/

/-- Each key comes before those that follow it. -/
def Ascending (entries : List (String × α)) : Prop := (entries.map Prod.fst).Pairwise (· < ·)

instance (entries : List (String × α)) : Decidable (Ascending entries) :=
  inferInstanceAs (Decidable (List.Pairwise (· < ·) (entries.map Prod.fst)))

theorem Ascending.nodup {entries : List (String × α)} (h : Ascending entries) :
    (entries.map Prod.fst).Nodup := List.Pairwise.nodup h

theorem Ascending.insert {entries : List (String × α)} (h : Ascending entries) (key : String)
    (value : α) : Ascending (insert key value entries) := by
  induction entries with
  | nil => exact List.pairwise_singleton _ _
  | cons first rest ih =>
    obtain ⟨hfirst, hrest⟩ := List.pairwise_cons.mp h
    unfold Entries.insert
    split
    · next hlt =>
      refine List.pairwise_cons.mpr ⟨?_, h⟩
      intro other hother
      rcases List.mem_cons.mp hother with rfl | hother
      · exact hlt
      · exact String.lt_trans hlt (hfirst other hother)
    · next hnot =>
      split
      · next heq =>
        refine List.pairwise_cons.mpr ⟨?_, hrest⟩
        intro other hother
        exact heq ▸ hfirst other hother
      · next hne =>
        refine List.pairwise_cons.mpr ⟨?_, ih hrest⟩
        intro other hother
        obtain ⟨entry, hentry, rfl⟩ := List.mem_map.mp hother
        rcases mem_insert hentry with rfl | hentry
        · rcases Std.lt_trichotomy key first.1 with hlt | heq | hgt
          · exact absurd hlt hnot
          · exact absurd heq hne
          · exact hgt
        · exact hfirst _ (List.mem_map_of_mem hentry)

/-! ## Entries as they are written -/

theorem ascending_foldl_insert {entries : List (String × α)} (h : Ascending entries)
    (written : List (String × α)) :
    Ascending (written.foldl (fun entries (k, v) => Entries.insert k v entries) entries) := by
  induction written generalizing entries with
  | nil => exact h
  | cons entry rest ih => exact ih (h.insert entry.1 entry.2)

theorem ascending_ofWritten (written : List (String × α)) : Ascending (ofWritten written) := by
  have hempty : Ascending ([] : List (String × α)) := List.Pairwise.nil
  exact ascending_foldl_insert hempty written

theorem lookup_foldl_insert {written : List (String × α)} (hkeys : (written.map Prod.fst).Nodup)
    (entries : List (String × α)) (key : String) :
    (written.foldl (fun entries (k, v) => insert k v entries) entries).lookup key =
      (written.lookup key).or (entries.lookup key) := by
  induction written generalizing entries with
  | nil => rfl
  | cons entry rest ih =>
    obtain ⟨k, v⟩ := entry
    rw [List.map_cons, List.nodup_cons] at hkeys
    rw [List.foldl_cons, ih hkeys.2, lookup_insert, List.lookup_cons]
    by_cases hkey : key = k
    · -- No later entry stands under this key.
      subst hkey
      rw [lookup_eq_none hkeys.1, if_pos rfl, beq_self_eq_true]
      rfl
    · rw [if_neg hkey, beq_eq_false_iff_ne.mpr hkey]

theorem lookup_ofWritten {written : List (String × α)} (hkeys : (written.map Prod.fst).Nodup)
    (key : String) : (ofWritten written).lookup key = written.lookup key := by
  have h := lookup_foldl_insert hkeys [] key
  rw [List.lookup_nil, Option.or_none] at h
  exact h

/-! ## Entries in their places -/

theorem lookup_replace {κ : Type} [DecidableEq κ] [BEq κ] [LawfulBEq κ] (key : κ) (value : α)
    (entries : List (κ × α)) (other : κ) :
    (replace key value entries).lookup other =
      if other = key then some value else entries.lookup other := by
  induction entries with
  | nil =>
    by_cases h : other = key
    · simp [replace, h]
    · simp [replace, List.lookup_cons, h, beq_eq_false_iff_ne.mpr h]
  | cons entry rest ih =>
    obtain ⟨k, v⟩ := entry
    unfold replace
    by_cases hk : k = key
    · rw [if_pos hk, List.lookup_cons, List.lookup_cons, hk]
      by_cases h : other = key
      · simp [h]
      · simp [h, beq_eq_false_iff_ne.mpr h]
    · rw [if_neg hk, List.lookup_cons, List.lookup_cons, ih]
      by_cases h : other = k
      · simp [h, hk]
      · simp [beq_eq_false_iff_ne.mpr h]

end SchemaGen.Entries
