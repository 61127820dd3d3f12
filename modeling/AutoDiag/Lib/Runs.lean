import Mathlib.Init

/-!
# Runs of a machine

A machine takes one step per event. `always` is the induction over a run: an
invariant that holds at the start and that every step keeps holds wherever the
run goes. `each` adds what single steps guarantee: where every step of a run
meets a condition, every step has the guarantee that the invariant and the
condition give it. `everywhere_of_each` is for an invariant that only the steps
that meet a condition keep, `everywhere_iff_each` for a property that one kind of step
breaks: it holds all along a run exactly when the run has no such step. Where that
step cannot be made up for, `each_or_trapped` says which of the two a run has come to.
`passes` is for a way in stages: a run that brings the helpful event of each of them, in
their order, comes to its end.
-/

namespace AutoDiag.Runs

variable {σ ε : Type} (step : σ → ε → σ)

/-- The state after a list of events. -/
def after (s : σ) (events : List ε) : σ := events.foldl step s

/-- `P` holds of every step of the run: of the state before it and its event. -/
def Each (P : σ → ε → Prop) (s : σ) (events : List ε) : Prop :=
  ∀ done e todo, events = done ++ e :: todo → P (after step s done) e

/-- `P` holds in every state of the run, its first and its last one included. -/
def Everywhere (P : σ → Prop) (s : σ) (events : List ε) : Prop :=
  ∀ done todo, events = done ++ todo → P (after step s done)

variable {step}

/-- **An invariant holds in every state a run reaches.** -/
theorem always {Inv : σ → Prop} (hstep : ∀ s e, Inv s → Inv (step s e)) :
    ∀ (events : List ε) {s : σ}, Inv s → Inv (after step s events) := by
  intro events
  induction events with
  | nil => intro s h; exact h
  | cons e events ih => intro s h; exact ih (hstep s e h)

/-- An invariant that the events of a run keep. -/
theorem always_of_mem {Inv : σ → Prop} {events : List ε}
    (hstep : ∀ s, ∀ e ∈ events, Inv s → Inv (step s e)) {s : σ} (h : Inv s) :
    Inv (after step s events) := by
  induction events generalizing s with
  | nil => exact h
  | cons e events ih =>
    exact ih (fun s e' he' => hstep s e' (List.mem_cons_of_mem e he'))
      (hstep s e List.mem_cons_self h)

/-- **A run that has the helpful event of every stage, in their order, passes them all.** No event
leads back, so whatever comes in between does no harm. -/
theorem passes {P : Nat → σ → Prop} {own : Nat → ε} {Fine : ε → Prop} {last : Nat}
    (hany : ∀ k s e, Fine e → P k s → P k (step s e) ∨ P (k + 1) (step s e))
    (hown : ∀ k s, P k s → P (k + 1) (step s (own k)))
    (hlast : ∀ s, P (last + 1) s → P last s) {events : List ε} :
    ∀ {n k : Nat} {s : σ}, k + n = last → ((List.range' k n).map own).Sublist events →
      (∀ e ∈ events, Fine e) → P k s → P last (after step s events) := by
  have hmore : ∀ {n k : Nat}, ((List.range' k (n + 1)).map own)
      = own k :: (List.range' (k + 1) n).map own := fun {n k} => by
    rw [List.range'_succ, List.map_cons]
  induction events with
  | nil =>
    intro n k s hk hsub _ h
    have hn : n = 0 := by simpa using hsub
    rwa [← hk, hn]
  | cons e events ih =>
    intro n k s hk hsub hfine h
    have hrest : ∀ e' ∈ events, Fine e' := fun e' he' => hfine e' (List.mem_cons_of_mem e he')
    have hnext := hany k s e (hfine e List.mem_cons_self) h
    cases n with
    | zero =>
      -- at the end of the way there is nothing left to wait for
      obtain rfl : k = last := hk
      exact ih (n := 0) rfl (List.nil_sublist _) hrest (hnext.elim id (hlast _))
    | succ n =>
      rw [hmore] at hsub
      have hk' : k + 1 + n = last := by omega
      rcases List.sublist_cons_iff.mp hsub with hlater | ⟨rest, hfirst, hlater⟩
      · rcases hnext with hsame | hnext
        · exact ih hk (hmore ▸ hlater) hrest hsame
        · exact ih hk' (List.sublist_of_cons_sublist hlater) hrest hnext
      · obtain ⟨rfl, rfl⟩ := List.cons.inj hfirst
        exact ih hk' hlater hrest (hown k s h)

/-- **What a step guarantees under a condition, every step of a run that meets it does.** -/
theorem each (Inv : σ → Prop) {Cond P : σ → ε → Prop} (hstep : ∀ s e, Inv s → Inv (step s e))
    (hP : ∀ s e, Inv s → Cond s e → P s e) {s : σ} (h0 : Inv s) {events : List ε}
    (hcond : Each step Cond s events) : Each step P s events := by
  intro done e todo heq
  exact hP _ e (always hstep done h0) (hcond done e todo heq)

theorem each_nil {P : σ → ε → Prop} {s : σ} : Each step P s [] := by
  intro done e todo h
  exact absurd h (by simp)

theorem each_cons {P : σ → ε → Prop} {s : σ} {e : ε} {events : List ε} :
    Each step P s (e :: events) ↔ P s e ∧ Each step P (step s e) events := by
  constructor
  · intro h
    exact ⟨h [] e events rfl, fun done e' todo heq => h (e :: done) e' todo (by rw [heq]; rfl)⟩
  · rintro ⟨hfirst, hrest⟩ done e' todo heq
    cases done with
    | nil =>
        obtain ⟨rfl, _⟩ := List.cons.inj heq
        exact hfirst
    | cons d done =>
        obtain ⟨rfl, htail⟩ := List.cons.inj heq
        exact hrest done e' todo htail

theorem everywhere_cons {P : σ → Prop} {s : σ} {e : ε} {events : List ε} :
    Everywhere step P s (e :: events) ↔ P s ∧ Everywhere step P (step s e) events := by
  constructor
  · intro h
    exact ⟨h [] (e :: events) rfl, fun done todo heq => h (e :: done) todo (by rw [heq]; rfl)⟩
  · rintro ⟨hfirst, hrest⟩ done todo heq
    cases done with
    | nil => exact hfirst
    | cons d done =>
        obtain ⟨rfl, htail⟩ := List.cons.inj heq
        exact hrest done todo htail

/-- **An invariant that the steps meeting a condition keep** holds all along a run of such steps. -/
theorem everywhere_of_each {Inv : σ → Prop} {Cond : σ → ε → Prop}
    (hstep : ∀ s e, Inv s → Cond s e → Inv (step s e)) {s : σ} (h0 : Inv s) {events : List ε}
    (hcond : Each step Cond s events) : Everywhere step Inv s events := by
  induction events generalizing s with
  | nil =>
    intro done todo heq
    obtain ⟨rfl, _⟩ := List.append_eq_nil_iff.mp heq.symm
    exact h0
  | cons e events ih =>
    obtain ⟨hfirst, hrest⟩ := each_cons.mp hcond
    exact everywhere_cons.mpr ⟨h0, ih (hstep s e h0 hfirst) hrest⟩

/-- **The first step that misses the condition leads where no step leads out of.** -/
theorem each_or_trapped {Inv Trap : σ → Prop} {Cond : σ → ε → Prop}
    (hstep : ∀ s e, Inv s → Cond s e → Inv (step s e))
    (hmiss : ∀ s e, Inv s → ¬ Cond s e → Trap (step s e))
    (htrap : ∀ s e, Trap s → Trap (step s e)) {s : σ} (h0 : Inv s) (events : List ε) :
    (Each step Cond s events ∧ Inv (after step s events))
      ∨ (¬ Each step Cond s events ∧ Trap (after step s events)) := by
  induction events generalizing s with
  | nil => exact .inl ⟨each_nil, h0⟩
  | cons e events ih =>
    rw [each_cons]
    by_cases hcond : Cond s e
    · rcases ih (hstep s e h0 hcond) with ⟨hrest, hend⟩ | ⟨hrest, hend⟩
      · exact .inl ⟨⟨hcond, hrest⟩, hend⟩
      · exact .inr ⟨fun h => hrest h.2, hend⟩
    · exact .inr ⟨fun h => hcond h.1, always htrap events (hmiss s e h0 hcond)⟩

/-- **A property that exactly the steps meeting a condition keep** holds all along a run exactly
when every step of the run meets it. -/
theorem everywhere_iff_each {P : σ → Prop} {Cond : σ → ε → Prop}
    (hstep : ∀ s e, P s → (P (step s e) ↔ Cond s e)) {s : σ} (h0 : P s) {events : List ε} :
    Everywhere step P s events ↔ Each step Cond s events := by
  induction events generalizing s with
  | nil =>
    refine ⟨fun _ => each_nil, fun _ done todo heq => ?_⟩
    obtain ⟨rfl, _⟩ := List.append_eq_nil_iff.mp heq.symm
    exact h0
  | cons e events ih =>
    rw [everywhere_cons, each_cons]
    constructor
    · rintro ⟨_, hrest⟩
      have hnext : P (step s e) := hrest [] events rfl
      exact ⟨(hstep s e h0).mp hnext, (ih hnext).mp hrest⟩
    · rintro ⟨hcond, hrest⟩
      exact ⟨h0, (ih ((hstep s e h0).mpr hcond)).mpr hrest⟩

end AutoDiag.Runs
