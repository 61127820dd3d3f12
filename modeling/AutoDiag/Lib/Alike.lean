import AutoDiag.Lib.Call

/-!
# Calls that cannot be told apart

Two calls over different states are alike when, from related states, they come to the
same end and leave related states behind. A program put together from alike calls is
alike with itself over either state (`Alike.bind`, `Alike.foldlM`), and so is every
series of them: its ends are the same, one by one (`ends_alike`).
-/

namespace AutoDiag.Call

variable {ε σ τ α β γ ω : Type}

/-- From related states `x` and `y` come to the same end, and to related states. -/
def Alike (R : σ → τ → Prop) (x : Call ε σ α) (y : Call ε τ α) : Prop :=
  ∀ s t, R s t → (x s).1 = (y t).1 ∧ R (x s).2 (y t).2

/-- The calls one after another, whether or not they raise: what each of them came to. -/
def ends (f : ω → Call ε σ α) : List ω → σ → List (Except ε α)
  | [], _ => []
  | op :: ops, s => (f op s).1 :: ends f ops (f op s).2

section Rules

variable {R : σ → τ → Prop}

/-- The two calls, run from related states. -/
theorem alike_of_runs {x : Call ε σ α} {y : Call ε τ α}
    (h : ∀ s t, R s t → ∃ r s' t', x s = (r, s') ∧ y t = (r, t') ∧ R s' t') : Alike R x y := by
  intro s t hst
  obtain ⟨r, s', t', hx, hy, hrel⟩ := h s t hst
  rw [hx, hy]
  exact ⟨rfl, hrel⟩

theorem alike_pure (a : α) : Alike R (pure a : Call ε σ α) (pure a) := fun _ _ h => ⟨rfl, h⟩

theorem alike_raise (e : ε) : Alike R (raise e : Call ε σ α) (raise e) := fun _ _ h => ⟨rfl, h⟩

theorem alike_ofExcept (x : Except ε α) : Alike R (ofExcept x : Call ε σ α) (ofExcept x) :=
  fun _ _ h => ⟨rfl, h⟩

/-- Where the first parts return, they return the same. -/
theorem Alike.bind {x : Call ε σ α} {y : Call ε τ α} {f : α → Call ε σ β} {g : α → Call ε τ β}
    (h : Alike R x y) (hfg : ∀ a, Alike R (f a) (g a)) : Alike R (x >>= f) (y >>= g) := by
  intro s t hst
  obtain ⟨hend, hrel⟩ := h s t hst
  cases hx : x s with
  | mk r s' =>
    cases hy : y t with
    | mk r' t' =>
      rw [hx, hy] at hend hrel
      obtain rfl : r = r' := hend
      cases r with
      | ok a =>
        rw [bind_run_ok hx, bind_run_ok hy]
        exact hfg a s' t' hrel
      | error e =>
        rw [bind_run_error hx, bind_run_error hy]
        exact ⟨rfl, hrel⟩

theorem Alike.map {x : Call ε σ α} {y : Call ε τ α} (h : Alike R x y) (k : α → β) :
    Alike R (k <$> x) (k <$> y) :=
  h.bind fun a => alike_pure (k a)

theorem Alike.foldlM {f : β → γ → Call ε σ β} {g : β → γ → Call ε τ β}
    (h : ∀ b c, Alike R (f b c) (g b c)) (b : β) (cs : List γ) :
    Alike R (cs.foldlM f b) (cs.foldlM g b) := by
  induction cs generalizing b with
  | nil => exact alike_pure b
  | cons c cs ih =>
    rw [List.foldlM_cons, List.foldlM_cons]
    exact (h b c).bind ih

/-- **Series of calls that are alike come to the same ends.** -/
theorem ends_alike {f : ω → Call ε σ α} {g : ω → Call ε τ α} (h : ∀ op, Alike R (f op) (g op))
    (ops : List ω) {s : σ} {t : τ} (hst : R s t) : ends f ops s = ends g ops t := by
  induction ops generalizing s t with
  | nil => rfl
  | cons op ops ih =>
    obtain ⟨hend, hrel⟩ := h op s t hst
    rw [ends, ends, hend, ih hrel]

end Rules

/-- Calls that leave the state as it is come to the same end wherever they stand. -/
theorem ends_of_fixed {f : ω → Call ε σ α} {g : ω → Except ε α} {s : σ}
    (h : ∀ op, f op s = (g op, s)) (ops : List ω) : ends f ops s = ops.map g := by
  induction ops with
  | nil => rfl
  | cons op ops ih => rw [ends, h op, ih, List.map_cons]

end AutoDiag.Call
