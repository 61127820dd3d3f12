import AutoDiag.Lib.Runs

/-!
# Schedules that go on for ever

A schedule gives the event of every moment, and `along` the state before it.
Whatever the steps keep holds along the whole schedule (`along_always`,
`along_stays`). What has to happen in the end does so by `ensures`: no event
spoils the situation, one event resolves it, and that event comes again and
again. `LeadsTo.trans` chains such situations and `leadsTo_zero` counts down.
-/

namespace AutoDiag.Fair

variable {σ ε : Type} (step : σ → ε → σ)

/-- The state before event `n` of a schedule. -/
def along (s : σ) (schedule : Nat → ε) : Nat → σ
  | 0 => s
  | n + 1 => step (along s schedule n) (schedule n)

/-- The event comes again and again. -/
def Recurs (schedule : Nat → ε) (e : ε) : Prop := ∀ n, ∃ m, n ≤ m ∧ schedule m = e

/-- Whenever `P` holds, `Q` holds then or later. -/
def LeadsTo (s : σ) (schedule : Nat → ε) (P Q : σ → Prop) : Prop :=
  ∀ n, P (along step s schedule n) → ∃ m, n ≤ m ∧ Q (along step s schedule m)

variable {step} {s : σ} {schedule : Nat → ε} {P Q R : σ → Prop}

theorem along_stays (hkeep : ∀ s e, P s → P (step s e)) {n m : Nat} (hle : n ≤ m)
    (h : P (along step s schedule n)) : P (along step s schedule m) := by
  induction hle with
  | refl => exact h
  | step _ ih => exact hkeep _ _ ih

theorem along_always (hkeep : ∀ s e, P s → P (step s e)) (h0 : P s) (n : Nat) :
    P (along step s schedule n) :=
  along_stays (n := 0) hkeep n.zero_le h0

theorem LeadsTo.trans (h : LeadsTo step s schedule P Q) (h' : LeadsTo step s schedule Q R) :
    LeadsTo step s schedule P R := by
  intro n hP
  obtain ⟨m, hnm, hQ⟩ := h n hP
  obtain ⟨k, hmk, hR⟩ := h' m hQ
  exact ⟨k, Nat.le_trans hnm hmk, hR⟩

/-- A way that may end at once, or go on from where it has come to. -/
theorem LeadsTo.trans_or (h : LeadsTo step s schedule P fun s => Q s ∨ R s)
    (h' : LeadsTo step s schedule R Q) : LeadsTo step s schedule P Q := by
  intro n hP
  obtain ⟨m, hnm, hQ | hR⟩ := h n hP
  · exact ⟨m, hnm, hQ⟩
  · obtain ⟨k, hmk, hQ⟩ := h' m hR
    exact ⟨k, Nat.le_trans hnm hmk, hQ⟩

/-- **A situation that no event spoils and one recurring event resolves is resolved.** -/
theorem ensures {e : ε} (hkeep : ∀ s e, P s → P (step s e) ∨ Q (step s e))
    (hhelp : ∀ s, P s → Q (step s e)) (hrec : Recurs schedule e) :
    LeadsTo step s schedule P Q := by
  intro n hP
  obtain ⟨m, hnm, he⟩ := hrec n
  -- either `Q` came on the way to the helpful event, or `P` is still there when it comes
  have hway : ∀ k, n ≤ k →
      P (along step s schedule k) ∨ ∃ j, n ≤ j ∧ Q (along step s schedule j) := by
    intro k hk
    induction hk with
    | refl => exact Or.inl hP
    | @step k hnk ih =>
      rcases ih with hP | hQ
      · exact (hkeep _ (schedule k) hP).imp id fun hQ => ⟨k + 1, Nat.le_succ_of_le hnk, hQ⟩
      · exact Or.inr hQ
  rcases hway m hnm with hP | hQ
  · refine ⟨m + 1, by omega, ?_⟩
    rw [along, he]
    exact hhelp _ hP
  · exact hQ

/-- **A countdown that always goes on reaches zero.** -/
theorem leadsTo_zero {P : Nat → σ → Prop} (h : ∀ n, LeadsTo step s schedule (P (n + 1)) (P n)) :
    ∀ n, LeadsTo step s schedule (P n) (P 0) := by
  intro n
  induction n with
  | zero => intro m hP; exact ⟨m, Nat.le_refl m, hP⟩
  | succ n ih => exact (h n).trans ih

end AutoDiag.Fair
