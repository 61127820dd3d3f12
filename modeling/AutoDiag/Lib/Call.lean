import Mathlib.Init

/-!
# Calls that have a state and may raise

`Call ε σ α` is a computation that reads and changes a state `σ` and either
returns an `α` or raises an `ε`; the state survives the exception. A proof takes
such a computation apart with the two `bind` lemmas and never looks at the
monad's definition.
-/

namespace AutoDiag

/-- A computation over a state that returns or raises. -/
def Call (ε σ α : Type) : Type := σ → Except ε α × σ

namespace Call

variable {ε σ α β : Type}

instance : Monad (Call ε σ) where
  pure a := fun s => (.ok a, s)
  bind x f := fun s =>
    match x s with
    | (.ok a, s') => f a s'
    | (.error e, s') => (.error e, s')

def raise (e : ε) : Call ε σ α := fun s => (.error e, s)

/-- A computation that does not touch the state. -/
def ofExcept (x : Except ε α) : Call ε σ α := fun s => (x, s)

/-- The same computation, with its exceptions translated. -/
def mapError {ε' : Type} (x : Call ε σ α) (f : ε → ε') : Call ε' σ α := fun s =>
  match x s with
  | (.ok a, s') => (.ok a, s')
  | (.error e, s') => (.error (f e), s')

@[simp] theorem pure_run (a : α) (s : σ) : (pure a : Call ε σ α) s = (.ok a, s) := rfl

/-- A first part that returns hands its value and state on. -/
theorem bind_run_ok {x : Call ε σ α} {f : α → Call ε σ β} {s s' : σ} {a : α}
    (h : x s = (.ok a, s')) : (x >>= f) s = f a s' := by
  show (match x s with | (.ok a, s') => f a s' | (.error e, s') => (.error e, s')) = _
  rw [h]

/-- The same for a definition that unfolds to a sequence. -/
theorem run_of_eq_bind {x : Call ε σ α} {f : α → Call ε σ β} {y : Call ε σ β} (hy : y = x >>= f)
    {s s' : σ} {a : α} (h : x s = (.ok a, s')) : y s = f a s' := by
  rw [hy, bind_run_ok h]

/-- A first part that raises ends the whole. -/
theorem bind_run_error {x : Call ε σ α} {f : α → Call ε σ β} {s s' : σ} {e : ε}
    (h : x s = (.error e, s')) : (x >>= f) s = (.error e, s') := by
  show (match x s with | (.ok a, s') => f a s' | (.error e, s') => (.error e, s')) = _
  rw [h]

/-- What follows depends on the outcome of the first part only. -/
theorem bind_run_congr {x y : Call ε σ α} {f : α → Call ε σ β} {s s' : σ} (h : x s = y s') :
    (x >>= f) s = (y >>= f) s' := by
  show (match x s with | (.ok a, s') => f a s' | (.error e, s') => (.error e, s')) = _
  rw [h]
  rfl

theorem mapError_run_ok {ε' : Type} {x : Call ε σ α} (f : ε → ε') {s s' : σ} {a : α}
    (h : x s = (.ok a, s')) : x.mapError f s = (.ok a, s') := by
  unfold mapError
  rw [h]

/-- A call whose value is only changed afterwards. -/
theorem map_run {x : Call ε σ α} {k : α → β} {r : Except ε α} {s s' : σ} (h : x s = (r, s')) :
    (x >>= fun a => pure (k a)) s = (r >>= fun a => pure (k a), s') := by
  cases r with
  | ok a => exact bind_run_ok h
  | error e => exact bind_run_error h

theorem bind_pure (x : Call ε σ α) : (x >>= fun a => pure a : Call ε σ α) = x := by
  funext s
  cases hx : x s with
  | mk r s' =>
      cases r with
      | ok a => exact bind_run_ok hx
      | error e => exact bind_run_error hx

theorem bind_assoc {γ : Type} (x : Call ε σ α) (f : α → Call ε σ β) (g : β → Call ε σ γ) :
    (x >>= f) >>= g = x >>= fun a => f a >>= g := by
  funext s
  cases hx : x s with
  | mk r s' =>
      cases r with
      | ok a => rw [Call.bind_run_ok hx]; exact (bind_run_congr (bind_run_ok hx))
      | error e => rw [Call.bind_run_error hx]; exact bind_run_error (bind_run_error hx)

instance : LawfulMonad (Call ε σ) :=
  LawfulMonad.mk' _ (fun x => bind_pure x) (fun _ _ => rfl) bind_assoc

/-- Sequences of expressions that only raise are sequences of calls. -/
theorem ofExcept_bind (x : Except ε α) (f : α → Except ε β) :
    (ofExcept (x >>= f) : Call ε σ β) = ofExcept x >>= fun a => ofExcept (f a) := by
  cases x <;> rfl

/-! ## What a call may raise -/

/-- Whatever `x` raises is one of `E`. -/
def Raises (E : ε → Prop) (x : Call ε σ α) : Prop := ∀ s e, (x s).1 = .error e → E e

section Raises

variable {E : ε → Prop}

theorem raises_pure (a : α) : Raises E (pure a : Call ε σ α) := by
  intro s e h
  cases h

theorem raises_raise {e : ε} (h : E e) : Raises E (raise e : Call ε σ α) := by
  intro s e' he
  cases he
  exact h

theorem raises_ofExcept {x : Except ε α} (h : ∀ e, x = .error e → E e) :
    Raises E (ofExcept x : Call ε σ α) := fun _ e he => h e he

/-- An expression that returns raises nothing. -/
theorem raises_ofExcept_ok {x : Except ε α} (h : ∃ a, x = .ok a) :
    Raises E (ofExcept x : Call ε σ α) := by
  obtain ⟨a, rfl⟩ := h
  exact raises_pure a

theorem raises_bind {x : Call ε σ α} {f : α → Call ε σ β} (hx : Raises E x)
    (hf : ∀ a, Raises E (f a)) : Raises E (x >>= f) := by
  intro s e h
  cases hr : x s with
  | mk r s' =>
    cases r with
    | ok a => exact hf a s' e (by rw [← h, bind_run_ok hr])
    | error e' =>
      rw [bind_run_error hr] at h
      cases h
      exact hx s e (by rw [hr])

theorem raises_foldlM {γ : Type} {f : β → γ → Call ε σ β} (hf : ∀ b c, Raises E (f b c)) (b : β)
    (cs : List γ) : Raises E (cs.foldlM f b) := by
  induction cs generalizing b with
  | nil => exact raises_pure b
  | cons c cs ih =>
    rw [List.foldlM_cons]
    exact raises_bind (hf b c) ih

theorem Raises.mono {E' : ε → Prop} {x : Call ε σ α} (h : Raises E x) (hE : ∀ e, E e → E' e) :
    Raises E' x := fun s e he => hE e (h s e he)

theorem Raises.ends {x : Call ε σ α} (h : Raises E x) (s : σ) :
    (∃ a, (x s).1 = .ok a) ∨ ∃ e, E e ∧ (x s).1 = .error e := by
  cases hr : (x s).1 with
  | ok a => exact .inl ⟨a, rfl⟩
  | error e => exact .inr ⟨e, h s e hr, rfl⟩

/-- A call that raises nothing returns. -/
theorem Raises.returns {x : Call ε σ α} (h : Raises (fun _ => False) x) (s : σ) :
    ∃ a, (x s).1 = .ok a := by
  rcases h.ends s with hok | ⟨e, hfalse, _⟩
  · exact hok
  · exact hfalse.elim

end Raises

end Call

end AutoDiag
