import Mathlib.Data.List.Basic

/-! # Stable sorting by a text

Merge sort by a key is stable, so a sorted list is determined by what it holds under each key, in
which order. Hence sorting does not see the order of items of different keys (`sort_congr`), it can
change places with a filter (`filter_sort`), and one item more leaves the others as they were
(`sort_concat`).
-/

namespace SchemaGen.StableSort

set_option autoImplicit false

variable {α : Type} (key : α → String)

/-- The items by ascending key, those of one key in their order. -/
def sort (items : List α) : List α := items.mergeSort fun a b => decide (key a ≤ key b)

/-- The items of one key, in their order. -/
def under (k : String) (items : List α) : List α := items.filter fun a => key a = k

/-- The keys ascend. -/
def Ascending (items : List α) : Prop := items.Pairwise fun a b => key a ≤ key b

variable {key}

/-! ## What sorting keeps -/

variable (key) in
theorem sort_perm (items : List α) : (sort key items).Perm items := List.mergeSort_perm items _

theorem order_trans (a b c : α) (hab : decide (key a ≤ key b) = true)
    (hbc : decide (key b ≤ key c) = true) : decide (key a ≤ key c) = true := by
  simp only [decide_eq_true_eq] at hab hbc ⊢
  exact String.le_trans hab hbc

theorem order_total (a b : α) : (decide (key a ≤ key b) || decide (key b ≤ key a)) = true := by
  simpa using String.le_total (key a) (key b)

theorem sort_ascending (items : List α) : Ascending key (sort key items) := by
  have h : (sort key items).Pairwise fun a b => decide (key a ≤ key b) = true :=
    List.pairwise_mergeSort order_trans order_total items
  simpa only [Ascending, decide_eq_true_eq] using h

theorem mem_under {k : String} {items : List α} {a : α} :
    a ∈ under key k items ↔ a ∈ items ∧ key a = k := by
  simp [under]

variable (key) in
/-- The sort is stable. -/
theorem under_sort (k : String) (items : List α) :
    under key k (sort key items) = under key k items := by
  have hsorted : (under key k items).Pairwise fun a b => decide (key a ≤ key b) = true := by
    rw [List.pairwise_iff_forall_sublist]
    intro a b hab
    have ha := (mem_under.mp (hab.subset (List.mem_cons_self ..))).2
    have hb := (mem_under.mp (hab.subset (List.mem_cons_of_mem _ (List.mem_cons_self ..)))).2
    have hle : key a ≤ key b := ha.trans hb.symm ▸ String.le_refl (key a)
    exact decide_eq_true hle
  have hsub : (under key k items).Sublist (sort key items) :=
    List.sublist_mergeSort order_trans order_total hsorted List.filter_sublist
  have hsub' : (under key k items).Sublist (under key k (sort key items)) := by
    have h := hsub.filter fun a => key a = k
    simpa only [under, List.filter_filter, Bool.and_self] using h
  exact (hsub'.eq_of_length ((sort_perm key items).filter _).length_eq.symm).symm

/-! ## Sorted lists are canonical -/

theorem under_cons_self (a : α) (items : List α) :
    under key (key a) (a :: items) = a :: under key (key a) items := by
  simp [under]

theorem under_cons_ne {k : String} {a : α} (h : key a ≠ k) (items : List α) :
    under key k (a :: items) = under key k items := by
  simp [under, h]

/-- The first key of an ascending list is the least of all. -/
theorem Ascending.head_le {a b : α} {items : List α} (h : Ascending key (a :: items))
    (hb : b ∈ a :: items) : key a ≤ key b := by
  rcases List.mem_cons.mp hb with rfl | hb
  · exact String.le_refl _
  · exact List.rel_of_pairwise_cons h hb

theorem mem_iff_of_under_eq {l m : List α} (h : ∀ k, under key k l = under key k m) (a : α) :
    a ∈ l ↔ a ∈ m := by
  have hl : a ∈ under key (key a) l ↔ a ∈ l := by simp [mem_under]
  have hm : a ∈ under key (key a) m ↔ a ∈ m := by simp [mem_under]
  rw [← hl, ← hm, h]

/-- Two ascending lists are the same if they hold the same items under each key, in one order. -/
theorem eq_of_under_eq {l m : List α} (hl : Ascending key l) (hm : Ascending key m)
    (h : ∀ k, under key k l = under key k m) : l = m := by
  induction l generalizing m with
  | nil =>
    cases m with
    | nil => rfl
    | cons b m =>
      exact absurd ((mem_iff_of_under_eq h b).mpr (List.mem_cons_self ..)) List.not_mem_nil
  | cons a l ih =>
    cases m with
    | nil => exact absurd ((mem_iff_of_under_eq h a).mp (List.mem_cons_self ..)) List.not_mem_nil
    | cons b m =>
      -- Both heads have the least key, so they stand first under one key.
      have hkey : key a = key b := String.le_antisymm
        (hl.head_le ((mem_iff_of_under_eq h b).mpr (List.mem_cons_self ..)))
        (hm.head_le ((mem_iff_of_under_eq h a).mp (List.mem_cons_self ..)))
      have hhead := h (key a)
      rw [under_cons_self, hkey, under_cons_self, List.cons.injEq] at hhead
      obtain ⟨rfl, htail⟩ := hhead
      have hrest : ∀ k, under key k l = under key k m := by
        intro k
        by_cases hk : key a = k
        · rw [← hk, htail]
        · have := h k
          rwa [under_cons_ne hk, under_cons_ne hk] at this
      rw [ih (List.Pairwise.of_cons hl) (List.Pairwise.of_cons hm) hrest]

variable (key) in
/-- Only the order of items of one key matters to the sort. -/
theorem sort_congr {l m : List α} (h : ∀ k, under key k l = under key k m) :
    sort key l = sort key m := by
  apply eq_of_under_eq (sort_ascending l) (sort_ascending m)
  intro k
  rw [under_sort, under_sort, h k]

variable (key) in
theorem filter_sort (p : α → Bool) (items : List α) :
    (sort key items).filter p = sort key (items.filter p) := by
  have hcomm : ∀ k (l : List α), under key k (l.filter p) = (under key k l).filter p := by
    intro k l
    rw [under, under, List.filter_filter, List.filter_filter]
    exact List.filter_congr fun a _ => Bool.and_comm _ _
  apply eq_of_under_eq ((sort_ascending items).filter p) (sort_ascending _)
  intro k
  rw [hcomm, under_sort, under_sort, hcomm]

/-- The sort sees nothing but the keys. -/
theorem map_sort {β : Type} (key' : β → String) (f : α → β) (h : ∀ a, key' (f a) = key a)
    (items : List α) : (sort key items).map f = sort key' (items.map f) :=
  List.map_mergeSort fun a _ b _ => by rw [h, h]

/-! ## One item more -/

/-- An ascending list is cut at a bound. -/
theorem Ascending.cut {items : List α} (h : Ascending key items) (bound : String) :
    ∃ before after, items = before ++ after ∧ (∀ b ∈ before, key b ≤ bound) ∧
      ∀ b ∈ after, bound < key b := by
  induction items with
  | nil => exact ⟨[], [], rfl, nofun, nofun⟩
  | cons a items ih =>
    by_cases ha : key a ≤ bound
    · obtain ⟨before, after, rfl, hbefore, hafter⟩ := ih (List.Pairwise.of_cons h)
      exact ⟨a :: before, after, rfl, List.forall_mem_cons.mpr ⟨ha, hbefore⟩, hafter⟩
    · refine ⟨[], a :: items, rfl, nofun, fun b hb => ?_⟩
      exact Std.lt_of_lt_of_le (String.not_le.mp ha) (h.head_le hb)

variable (key) in
/-- An item at the end of a list is sorted in behind all items of its key and of lesser keys. -/
theorem sort_concat (items : List α) (a : α) :
    ∃ before after, sort key items = before ++ after ∧
      sort key (items ++ [a]) = before ++ a :: after := by
  have hsorted : Ascending key (sort key items) := sort_ascending items
  obtain ⟨before, after, hcut, hbefore, hafter⟩ := hsorted.cut (key a)
  refine ⟨before, after, hcut, eq_of_under_eq (sort_ascending _) ?_ fun k => ?_⟩
  · rw [hcut] at hsorted
    obtain ⟨hl, hr, hlr⟩ := List.pairwise_append.mp hsorted
    refine List.pairwise_append.mpr ⟨hl, List.pairwise_cons.mpr ⟨fun b hb => ?_, hr⟩, ?_⟩
    · exact Std.le_of_lt (hafter b hb)
    · exact fun b hb => List.forall_mem_cons.mpr ⟨hbefore b hb, hlr b hb⟩
  · have happend : ∀ l m : List α, under key k (l ++ m) = under key k l ++ under key k m :=
      fun l m => List.filter_append l m
    have hitems : under key k items = under key k before ++ under key k after := by
      rw [← under_sort, hcut, happend]
    rw [under_sort, happend, happend, hitems, List.append_assoc]
    congr 1
    by_cases hk : key a = k
    · have hnone : under key k after = [] := by
        rw [under, List.filter_eq_nil_iff]
        intro b hb heq
        exact Std.lt_irrefl (of_decide_eq_true heq ▸ hk ▸ hafter b hb)
      rw [← hk, under_cons_self, under_cons_self, hk, hnone]
      rfl
    · rw [under_cons_ne hk, under_cons_ne hk]
      exact List.append_nil _

end SchemaGen.StableSort
