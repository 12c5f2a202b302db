import Mathlib.Data.List.Forall2

/-! # Results, and lists of them

A list whose items are read one after another is read as a whole: either each item has its own
result (`mapM_eq_ok_iff`), or the failure of the first item that fails is that of the list
(`mapM_eq_error_iff`). So what failures are told as may be said for each item or once for the
list (`mapM_mapError`). Where each item changes one state, what every step keeps holds in the end
(`foldlM_keeps`).
-/

namespace SchemaGen

set_option autoImplicit false

variable {α β γ ε ε' : Type}

/-! ## Single results -/

theorem mapError_eq_ok_iff {x : Except ε α} {tell : ε → ε'} {a : α} :
    x.mapError tell = .ok a ↔ x = .ok a := by
  cases x with
  | error e => exact ⟨nofun, nofun⟩
  | ok b => exact ⟨fun h => by cases h; rfl, fun h => by cases h; rfl⟩

theorem mapError_eq_error_iff {x : Except ε α} {tell : ε → ε'} {told : ε'} :
    x.mapError tell = .error told ↔ ∃ e, x = .error e ∧ tell e = told := by
  cases x with
  | error e => simp [Except.mapError]
  | ok a => exact ⟨nofun, fun ⟨_, h, _⟩ => nomatch h⟩

theorem map_eq_ok_iff {x : Except ε α} {f : α → β} {b : β} :
    x.map f = .ok b ↔ ∃ a, x = .ok a ∧ f a = b := by
  cases x with
  | error e => exact ⟨nofun, nofun⟩
  | ok a => simp [Except.map]

theorem bind_eq_ok_iff {x : Except ε α} {f : α → Except ε β} {b : β} :
    x >>= f = .ok b ↔ ∃ a, x = .ok a ∧ f a = .ok b := by
  cases x with
  | error e => exact ⟨nofun, nofun⟩
  | ok a => exact ⟨fun h => ⟨a, rfl, h⟩, fun ⟨_, ha, h⟩ => by cases ha; exact h⟩

theorem bind_eq_error_iff {x : Except ε α} {f : α → Except ε β} {e : ε} :
    x >>= f = .error e ↔ x = .error e ∨ ∃ a, x = .ok a ∧ f a = .error e := by
  cases x with
  | error e' => simp [bind, Except.bind]
  | ok a => simp [bind, Except.bind]

theorem eq_ok_of_toOption {x : Except ε α} {a : α} (h : x.toOption = some a) : x = .ok a := by
  cases x with
  | ok b => exact congrArg _ (Option.some.inj h)
  | error e => cases h

theorem eq_ok_of_isOk {x : Except ε α} (h : x.isOk = true) (default : α) :
    x = .ok (x.toOption.getD default) := by
  cases x with
  | ok a => rfl
  | error e => cases h

/-- A result that holds nothing. -/
theorem eq_ok_none {x : Except ε (Option α)} (h : x.toOption.map Option.isNone = some true) :
    x = .ok none := by
  obtain ⟨a, ha, hnone⟩ := Option.map_eq_some_iff.mp h
  rw [eq_ok_of_toOption ha, Option.isNone_iff_eq_none.mp hnone]

/-! ## Lists -/

theorem mapM_cons_of_ok {f : α → Except ε β} {a : α} {b : β} (h : f a = .ok b) (rest : List α) :
    (a :: rest).mapM f = (rest.mapM f).map (b :: ·) := by
  rw [List.mapM_cons, h]
  cases rest.mapM f <;> rfl

theorem mapM_cons_of_error {f : α → Except ε β} {a : α} {e : ε} (h : f a = .error e)
    (rest : List α) : (a :: rest).mapM f = .error e := by
  rw [List.mapM_cons, h]
  rfl

theorem mapM_eq_ok_iff {f : α → Except ε β} {items : List α} {results : List β} :
    items.mapM f = .ok results ↔ List.Forall₂ (fun a b => f a = .ok b) items results := by
  induction items generalizing results with
  | nil => cases results <;> simp [pure, Except.pure]
  | cons a rest ih =>
    cases ha : f a with
    | error e =>
      rw [mapM_cons_of_error ha]
      cases results <;> simp [ha]
    | ok b =>
      rw [mapM_cons_of_ok ha]
      cases hrest : rest.mapM f with
      | error e => cases results <;> simp [Except.map, ← ih, hrest]
      | ok bs => cases results <;> simp [Except.map, ← ih, hrest, ha]

theorem mapM_eq_some_iff {f : α → Option β} {items : List α} {results : List β} :
    items.mapM f = some results ↔ List.Forall₂ (fun a b => f a = some b) items results := by
  induction items generalizing results with
  | nil => cases results <;> simp
  | cons a rest ih =>
    rw [List.mapM_cons]
    cases ha : f a with
    | none => cases results <;> simp [ha]
    | some b => cases results <;> simp [ha, ← ih, Option.bind_eq_some_iff, and_comm]

theorem mapM_eq_filterMap {f : α → Option β} {items : List α} (h : ∀ a ∈ items, (f a).isSome) :
    items.mapM f = some (items.filterMap f) := by
  induction items with
  | nil => rfl
  | cons a rest ih =>
    rw [List.forall_mem_cons, Option.isSome_iff_exists] at h
    obtain ⟨⟨b, hb⟩, hrest⟩ := h
    rw [List.mapM_cons, hb, ih hrest, List.filterMap_cons_some hb]
    rfl

/-- A list fails as its first failing item does. -/
theorem mapM_eq_error_iff {f : α → Except ε β} {items : List α} {e : ε} :
    items.mapM f = .error e ↔ ∃ before a after, items = before ++ a :: after ∧
      (∀ b ∈ before, ∃ r, f b = .ok r) ∧ f a = .error e := by
  induction items with
  | nil => exact ⟨nofun, fun ⟨before, a, after, h, _⟩ => by cases before <;> cases h⟩
  | cons c rest ih =>
    cases hc : f c with
    | error e' =>
      rw [mapM_cons_of_error hc]
      constructor
      · intro h
        cases h
        exact ⟨[], c, rest, rfl, by simp, hc⟩
      · rintro ⟨before, a, after, hsplit, hbefore, ha⟩
        cases before with
        | nil =>
          cases hsplit
          cases hc.symm.trans ha
          rfl
        | cons b before =>
          cases hsplit
          obtain ⟨r, hr⟩ := hbefore c List.mem_cons_self
          cases hc.symm.trans hr
    | ok b =>
      have hmap : (c :: rest).mapM f = .error e ↔ rest.mapM f = .error e := by
        rw [mapM_cons_of_ok hc]
        cases rest.mapM f <;> simp [Except.map]
      rw [hmap, ih]
      constructor
      · rintro ⟨before, a, after, rfl, hbefore, ha⟩
        refine ⟨c :: before, a, after, rfl, fun d hd => ?_, ha⟩
        rcases List.mem_cons.mp hd with rfl | hd
        · exact ⟨b, hc⟩
        · exact hbefore d hd
      · rintro ⟨before, a, after, hsplit, hbefore, ha⟩
        cases before with
        | nil =>
          cases hsplit
          cases hc.symm.trans ha
        | cons d before =>
          cases hsplit
          exact ⟨before, a, after, rfl, fun d hd => hbefore d (List.mem_cons_of_mem _ hd), ha⟩

theorem exists_of_mapM_eq_error {f : α → Except ε β} {items : List α} {e : ε}
    (h : items.mapM f = .error e) : ∃ a ∈ items, f a = .error e := by
  obtain ⟨before, a, after, rfl, -, ha⟩ := mapM_eq_error_iff.mp h
  exact ⟨a, by simp, ha⟩

theorem exists_of_mapM_eq_ok {f : α → Except ε β} {items : List α} {results : List β}
    (h : items.mapM f = .ok results) {a : α} (ha : a ∈ items) : ∃ b ∈ results, f a = .ok b := by
  have hall := mapM_eq_ok_iff.mp h
  clear h
  induction hall with
  | nil => cases ha
  | cons hab hrest ih =>
    rcases List.mem_cons.mp ha with rfl | ha
    · exact ⟨_, List.mem_cons_self, hab⟩
    · obtain ⟨b, hb, hfb⟩ := ih ha
      exact ⟨b, List.mem_cons_of_mem _ hb, hfb⟩

/-- A list with one failing item, or several that fail alike. -/
theorem mapM_eq_error {f : α → Except ε β} {items : List α} {a : α} {e : ε} (ha : a ∈ items)
    (he : f a = .error e) (hothers : ∀ b ∈ items, ∀ e', f b = .error e' → e' = e) :
    items.mapM f = .error e := by
  cases hitems : items.mapM f with
  | error e' =>
    obtain ⟨b, hb, hfb⟩ := exists_of_mapM_eq_error hitems
    rw [hothers b hb e' hfb]
  | ok results =>
    obtain ⟨b, -, hb⟩ := exists_of_mapM_eq_ok hitems ha
    exact nomatch he.symm.trans hb

theorem exists_mapM_eq_ok {f : α → Except ε β} {items : List α}
    (h : ∀ a ∈ items, ∃ b, f a = .ok b) : ∃ results, items.mapM f = .ok results := by
  cases hitems : items.mapM f with
  | error e =>
    obtain ⟨a, ha, hfa⟩ := exists_of_mapM_eq_error hitems
    obtain ⟨b, hb⟩ := h a ha
    exact nomatch hb.symm.trans hfa
  | ok results => exact ⟨results, rfl⟩

theorem mapM_mapError (f : α → Except ε β) (tell : ε → ε') (items : List α) :
    (items.mapM fun a => (f a).mapError tell) = (items.mapM f).mapError tell := by
  induction items with
  | nil => rfl
  | cons a rest ih =>
    rw [List.mapM_cons, List.mapM_cons, ih]
    cases f a with
    | error e => rfl
    | ok b => cases rest.mapM f <;> rfl

theorem mapM_mapOk (f : α → Except ε β) (g : β → γ) (items : List α) :
    (items.mapM fun a => (f a).map g) = (items.mapM f).map (List.map g) := by
  induction items with
  | nil => rfl
  | cons a rest ih =>
    rw [List.mapM_cons, List.mapM_cons, ih]
    cases f a with
    | error e => rfl
    | ok b => cases rest.mapM f <;> rfl

theorem mapM_eq_of_forall₂ {f : α → Except ε γ} {g : β → Except ε γ} {items : List α}
    {others : List β} (h : List.Forall₂ (fun a b => f a = g b) items others) :
    items.mapM f = others.mapM g := by
  induction h with
  | nil => rfl
  | cons hab _ ih => rw [List.mapM_cons, List.mapM_cons, hab, ih]

/-! ## States -/

section States

variable {σ : Type} {step : σ → α → Except ε σ} {items : List α} {s s' : σ}

theorem foldlM_cons_eq_ok_iff {a : α} :
    (a :: items).foldlM step s = .ok s' ↔
      ∃ next, step s a = .ok next ∧ items.foldlM step next = .ok s' := by
  rw [List.foldlM_cons]
  exact bind_eq_ok_iff

/-- Steps that succeed alike make runs that succeed alike, whatever they fail with. -/
theorem foldlM_eq_ok_congr {other : σ → α → Except ε' σ}
    (h : ∀ r a r', step r a = .ok r' ↔ other r a = .ok r') :
    items.foldlM step s = .ok s' ↔ items.foldlM other s = .ok s' := by
  induction items generalizing s with
  | nil => exact ⟨fun hs => congrArg _ (Except.ok.inj hs), fun hs => congrArg _ (Except.ok.inj hs)⟩
  | cons a rest ih =>
    rw [foldlM_cons_eq_ok_iff, foldlM_cons_eq_ok_iff]
    exact exists_congr fun next => and_congr (h s a next) ih

/-- The run over a list passes through every item of it. -/
theorem exists_of_foldlM_eq_ok {before after : List α} {a : α}
    (h : (before ++ a :: after).foldlM step s = .ok s') :
    ∃ prior next, step prior a = .ok next ∧ after.foldlM step next = .ok s' := by
  rw [List.foldlM_append] at h
  obtain ⟨prior, -, h⟩ := bind_eq_ok_iff.mp h
  obtain ⟨next, hstep, hafter⟩ := foldlM_cons_eq_ok_iff.mp h
  exact ⟨prior, next, hstep, hafter⟩

theorem foldlM_keeps {P : σ → Prop}
    (hkeeps : ∀ a ∈ items, ∀ r r', P r → step r a = .ok r' → P r') (hs : P s)
    (h : items.foldlM step s = .ok s') : P s' := by
  induction items generalizing s with
  | nil => exact Except.ok.inj h ▸ hs
  | cons a rest ih =>
    obtain ⟨next, hstep, hrest⟩ := foldlM_cons_eq_ok_iff.mp h
    have hnext : P next := hkeeps a List.mem_cons_self s next hs hstep
    exact ih (fun b hb => hkeeps b (List.mem_cons_of_mem a hb)) hnext hrest

theorem exists_foldlM_eq_ok (h : ∀ a ∈ items, ∀ r, ∃ r', step r a = .ok r') (s : σ) :
    ∃ s', items.foldlM step s = .ok s' := by
  induction items generalizing s with
  | nil => exact ⟨s, rfl⟩
  | cons a rest ih =>
    obtain ⟨next, hstep⟩ := h a List.mem_cons_self s
    obtain ⟨s', hrest⟩ := ih (fun b hb => h b (List.mem_cons_of_mem a hb)) next
    exact ⟨s', foldlM_cons_eq_ok_iff.mpr ⟨next, hstep, hrest⟩⟩

end States

end SchemaGen
