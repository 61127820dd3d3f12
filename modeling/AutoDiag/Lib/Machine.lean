import Mathlib.Logic.Relation

/-!
# Machines that run until they halt

A machine goes from a state to the next one or halts with a result. `run` is the
machine with a bound on its steps, `Returns` says that it halts, and both agree
(`returns_iff_run`). A measure that every step lowers makes the machine halt
from every state (`run_of_measure`); a stretch of steps is a `Reaches`, and
stretches are put together by transitivity.
-/

namespace AutoDiag.Machine

variable {σ ρ : Type} (step : σ → σ ⊕ ρ)

/-- At most so many steps; `none` when they are not enough. -/
def run : Nat → σ → Option ρ
  | 0, _ => none
  | n + 1, s =>
    match step s with
    | .inl s' => run n s'
    | .inr r => some r

/-- `s'` follows `s` after some steps. -/
def Reaches : σ → σ → Prop := Relation.ReflTransGen fun s s' => step s = .inl s'

/-- The machine halts with `r`. -/
def Returns (s : σ) (r : ρ) : Prop := ∃ s', Reaches step s s' ∧ step s' = .inr r

variable {step}

theorem Reaches.refl (s : σ) : Reaches step s s := Relation.ReflTransGen.refl

theorem Reaches.one {s s' : σ} (h : step s = .inl s') : Reaches step s s' :=
  Relation.ReflTransGen.single h

theorem Reaches.trans {s s' s'' : σ} (h : Reaches step s s') (h' : Reaches step s' s'') :
    Reaches step s s'' :=
  Relation.ReflTransGen.trans h h'

theorem Reaches.returns {s s' : σ} {r : ρ} (h : Reaches step s s') (h' : Returns step s' r) :
    Returns step s r := by
  obtain ⟨s'', hreach, hhalt⟩ := h'
  exact ⟨s'', h.trans hreach, hhalt⟩

/-- **The machine halts exactly when enough steps do.** -/
theorem returns_iff_run {s : σ} {r : ρ} : Returns step s r ↔ ∃ n, run step n s = some r := by
  constructor
  · intro h
    obtain ⟨s', hreach, hhalt⟩ := h
    induction hreach using Relation.ReflTransGen.head_induction_on with
    | refl => exact ⟨1, by rw [run, hhalt]⟩
    | head hstep _ ih =>
        obtain ⟨n, hn⟩ := ih
        exact ⟨n + 1, by rw [run, hstep]; exact hn⟩
  · intro h
    obtain ⟨n, hn⟩ := h
    induction n generalizing s with
    | zero => simp [run] at hn
    | succ n ih =>
        rw [run] at hn
        cases hstep : step s with
        | inl s' =>
            rw [hstep] at hn
            exact (Reaches.one hstep).returns (ih hn)
        | inr r' =>
            rw [hstep] at hn
            exact ⟨s, Reaches.refl s, by rw [hstep, Option.some.inj hn]⟩

/-- A machine halts with one result only. -/
theorem returns_unique {s : σ} {r r' : ρ} (h : Returns step s r) (h' : Returns step s r') :
    r = r' := by
  obtain ⟨s', hreach, hhalt⟩ := h
  induction hreach using Relation.ReflTransGen.head_induction_on with
  | refl =>
      obtain ⟨s'', hreach', hhalt'⟩ := h'
      rcases hreach'.cases_head with rfl | ⟨_, hstep, _⟩
      · exact Sum.inr.inj (hhalt.symm.trans hhalt')
      · rw [hhalt] at hstep
        cases hstep
  | head hstep _ ih =>
      obtain ⟨s'', hreach', hhalt'⟩ := h'
      rcases hreach'.cases_head with rfl | ⟨_, hstep', hreach'⟩
      · rw [hstep] at hhalt'
        cases hhalt'
      · rw [hstep] at hstep'
        cases hstep'
        exact ih ⟨s'', hreach', hhalt'⟩

/-- **Two machines in lockstep halt together**: a state of the second is read as one of the first,
and each step of the one is a step of the other. -/
theorem run_lockstep {σ' ρ' : Type} {step' : σ' → σ' ⊕ ρ'} {read : σ' → σ} {R : ρ → ρ' → Prop}
    (h : ∀ s, Sum.LiftRel (fun a b => a = read b) R (step (read s)) (step' s)) (n : Nat) (s : σ') :
    Option.Rel R (run step n (read s)) (run step' n s) := by
  induction n generalizing s with
  | zero => exact .none
  | succ n ih =>
    have hstep := h s
    rw [run, run]
    generalize step (read s) = x at hstep
    generalize step' s = y at hstep
    cases hstep with
    | inl hread => rw [hread]; exact ih _
    | inr hr => exact .some hr

/-- **Lower every step, and the machine halts**, in no more steps than the measure allows. -/
theorem run_of_measure {μ : σ → Nat} (h : ∀ s s', step s = .inl s' → μ s' < μ s) :
    ∀ (n : Nat) (s : σ), μ s < n → ∃ r, run step n s = some r := by
  intro n
  induction n with
  | zero => intro s hs; omega
  | succ n ih =>
    intro s hs
    rw [run]
    cases hstep : step s with
    | inl s' => exact ih s' (by have := h s s' hstep; omega)
    | inr r => exact ⟨r, rfl⟩

end AutoDiag.Machine
