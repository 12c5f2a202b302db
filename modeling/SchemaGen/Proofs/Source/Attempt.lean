import SchemaGen.Source.Attempt

/-! # Attempts step by step

What one step after another gives: the result is that of the last step that is reached, requests and
notices are those of all of them. So attempts are a lawful monad, and results alone are computed as
if there were no requests and notices (`result_bind`, `result_mapM`).
-/

namespace SchemaGen.Source.Attempt

set_option autoImplicit false

variable {α β : Type}

theorem ext {x y : Attempt α} (hresult : x.result = y.result) (hrequests : x.requests = y.requests)
    (hnotices : x.notices = y.notices) : x = y := by
  cases x
  cases y
  cases hresult
  cases hrequests
  cases hnotices
  rfl

/-! ## Single steps -/

@[simp] theorem result_pure (a : α) : (pure a : Attempt α).result = .ok a := rfl

@[simp] theorem result_fail (e : SourceError) : (fail e : Attempt α).result = .error (.failed e) :=
  rfl

@[simp] theorem result_ofExcept (x : Except SourceError α) :
    (ofExcept x).result = x.mapError .failed := rfl

/-! ## One step after another -/

theorem bind_of_ok {x : Attempt α} {a : α} (h : x.result = .ok a) (f : α → Attempt β) :
    x >>= f = ⟨(f a).result, x.requests ++ (f a).requests, x.notices ++ (f a).notices⟩ := by
  show x.andThen f = _
  rw [andThen, h]

theorem bind_of_error {x : Attempt α} {e : Stop} (h : x.result = .error e) (f : α → Attempt β) :
    x >>= f = ⟨.error e, x.requests, x.notices⟩ := by
  show x.andThen f = _
  rw [andThen, h]

theorem result_bind (x : Attempt α) (f : α → Attempt β) :
    (x >>= f).result = x.result >>= fun a => (f a).result := by
  cases h : x.result with
  | error e => rw [bind_of_error h]; rfl
  | ok a => rw [bind_of_ok h]; rfl

theorem result_bind_of_ok {x : Attempt α} {a : α} (h : x.result = .ok a) (f : α → Attempt β) :
    (x >>= f).result = (f a).result := by
  rw [bind_of_ok h]

theorem result_bind_of_error {x : Attempt α} {e : Stop} (h : x.result = .error e)
    (f : α → Attempt β) : (x >>= f).result = .error e := by
  rw [bind_of_error h]

/-- Attempts to the end are attempts to the end at each step. -/
theorem result_bind_eq_ok_iff {x : Attempt α} {f : α → Attempt β} {b : β} :
    (x >>= f).result = .ok b ↔ ∃ a, x.result = .ok a ∧ (f a).result = .ok b := by
  cases h : x.result with
  | error e =>
    rw [bind_of_error h]
    simp
  | ok a =>
    rw [bind_of_ok h]
    simp

theorem requests_bind_of_none {x : Attempt α} {f : α → Attempt β} (h : ∀ a, (f a).requests = []) :
    (x >>= f).requests = x.requests := by
  cases hx : x.result with
  | error e => rw [bind_of_error hx]
  | ok a =>
    rw [bind_of_ok hx]
    show x.requests ++ (f a).requests = x.requests
    rw [h a, List.append_nil]

/-! ## Laws -/

theorem id_map_eq (x : Attempt α) : id <$> x = x := by
  show x >>= (fun a => pure (id a)) = x
  cases h : x.result with
  | error e =>
    rw [bind_of_error h]
    exact ext h.symm rfl rfl
  | ok a =>
    rw [bind_of_ok h]
    exact ext h.symm (List.append_nil _) (List.append_nil _)

theorem pure_bind_eq (a : α) (f : α → Attempt β) : pure a >>= f = f a := by
  rw [bind_of_ok (result_pure a)]
  exact ext rfl (List.nil_append _) (List.nil_append _)

theorem bind_assoc_eq {γ : Type} (x : Attempt α) (f : α → Attempt β) (g : β → Attempt γ) :
    x >>= f >>= g = x >>= fun a => f a >>= g := by
  cases hx : x.result with
  | error e =>
    rw [bind_of_error hx, bind_of_error hx]
    exact bind_of_error rfl g
  | ok a =>
    rw [bind_of_ok hx, bind_of_ok hx]
    cases hf : (f a).result with
    | error e =>
      rw [bind_of_error hf]
      exact bind_of_error rfl g
    | ok b =>
      rw [bind_of_ok hf, bind_of_ok rfl]
      exact ext rfl (List.append_assoc ..) (List.append_assoc ..)

instance : LawfulMonad Attempt := LawfulMonad.mk' Attempt id_map_eq pure_bind_eq bind_assoc_eq

theorem result_map (f : α → β) (x : Attempt α) : (f <$> x).result = x.result.map f := by
  rw [map_eq_pure_bind, result_bind]
  rfl

theorem requests_map (f : α → β) (x : Attempt α) : (f <$> x).requests = x.requests := by
  rw [map_eq_pure_bind]
  exact requests_bind_of_none fun _ => rfl

/-! ## Many steps -/

theorem result_mapM (f : α → Attempt β) (items : List α) :
    (items.mapM f).result = items.mapM fun a => (f a).result := by
  induction items with
  | nil => rfl
  | cons a rest ih =>
    rw [List.mapM_cons, List.mapM_cons, result_bind]
    congr 1
    funext b
    rw [result_bind, ih]
    rfl

end SchemaGen.Source.Attempt
