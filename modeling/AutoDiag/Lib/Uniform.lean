import AutoDiag.Lib.Machine
import Mathlib.Logic.Equiv.Defs

/-!
# Runs that do not look at a value

The state of a machine has a point, which says what it does next, and a value. A
step is uniform if it does the same for every value: it halts with the value, or it
goes on to one point and permutes the values. A run of uniform steps is one
permutation of the value, and from every value it passes the same points.
-/

namespace AutoDiag.Machine

variable {σ ρ κ α : Type} {step : σ → σ ⊕ ρ}

/-- The states of a run, the one it halts in included. -/
def visits (step : σ → σ ⊕ ρ) : Nat → σ → List σ
  | 0, _ => []
  | n + 1, s =>
    s :: match step s with
      | .inl s' => visits step n s'
      | .inr _ => []

/-- Every state of a run that halts goes on to another one, or halts with its result. -/
theorem step_of_visits {n : Nat} {s : σ} {r : ρ} (h : run step n s = some r) :
    ∀ s' ∈ visits step n s, (∃ s'', step s' = .inl s'') ∨ step s' = .inr r := by
  induction n generalizing s with
  | zero => exact fun s' hs' => absurd hs' List.not_mem_nil
  | succ n ih =>
    intro s' hs'
    rw [visits] at hs'
    rw [run] at h
    cases hstep : step s with
    | inl s₁ =>
      rw [hstep] at h hs'
      rcases List.mem_cons.mp hs' with rfl | hs'
      · exact .inl ⟨s₁, hstep⟩
      · exact ih h s' hs'
    | inr r' =>
      rw [hstep] at h hs'
      cases h
      rw [List.mem_singleton.mp hs']
      exact .inr hstep

/-- From a point, whatever the value, the machine halts with it or goes on to one point. -/
inductive Uniform (step : σ → σ ⊕ ρ) (point : σ → κ) (value : σ → α) (done : α → ρ) (k : κ) :
    Prop where
  | halts : (∀ s, point s = k → step s = .inr (done (value s))) → Uniform step point value done k
  | goes (k' : κ) (π : Equiv.Perm α) :
    (∀ s, point s = k → ∃ s', step s = .inl s' ∧ point s' = k' ∧ value s' = π (value s)) →
    Uniform step point value done k

/-- **A run of uniform steps is one permutation of the value.** -/
theorem run_uniform {point : σ → κ} {value : σ → α} {done : α → ρ} {n : Nat} {s₀ : σ} {r : ρ}
    (hrun : run step n s₀ = some r)
    (h : ∀ s ∈ visits step n s₀, Uniform step point value done (point s)) :
    ∃ π : Equiv.Perm α, ∀ s, point s = point s₀ → run step n s = some (done (π (value s)))
      ∧ (visits step n s).map point = (visits step n s₀).map point := by
  induction n generalizing s₀ with
  | zero => cases hrun
  | succ n ih =>
    rw [run] at hrun
    rw [visits] at h
    cases h s₀ (List.mem_cons_self ..) with
    | halts hhalts =>
      refine ⟨Equiv.refl α, fun s hs => ?_⟩
      rw [run, visits, visits, hhalts s hs, hhalts s₀ rfl, List.map_singleton, List.map_singleton,
        hs]
      exact ⟨rfl, rfl⟩
    | goes k' π hgoes =>
      obtain ⟨s₁, hstep, hpoint, -⟩ := hgoes s₀ rfl
      rw [hstep] at h hrun
      obtain ⟨π', hπ'⟩ := ih hrun fun s hs => h s (List.mem_cons_of_mem _ hs)
      refine ⟨π.trans π', fun s hs => ?_⟩
      -- the other run is at the same point after its first step
      obtain ⟨s', hstep', hpoint', hvalue⟩ := hgoes s hs
      obtain ⟨hrest, hvisits⟩ := hπ' s' (hpoint'.trans hpoint.symm)
      rw [run, visits, visits, hstep', hstep, List.map_cons, List.map_cons, hs]
      exact ⟨hrest.trans (by rw [hvalue]; rfl), congrArg _ hvisits⟩

end AutoDiag.Machine
