import AutoDiag.Lib.Runs
import AutoDiag.Utils.UiWorker

/-!
# How many loops a spinner runs

A tick that draws a frame hands over one tick for the one it was, and `stop` takes
none back. So a second one comes from a `start` only: one that draws its first
frame while a tick from before is still pending.
-/

namespace AutoDiag.Proof

open Utils Runs

/-! ## What a step does -/

/-- A call of `_tick` draws a frame and hands over the next tick, or hands over none. -/
theorem tick_cases (s : TkSpinner) (label : Label) (vanishes : Bool) :
    ((s.running ∧ label.alive ∧ vanishes = false) ∧
      ∃ label', s.tick label vanishes = ({ s with i := s.i + 1 }, label', [s.interval]))
    ∨ (¬ (s.running ∧ label.alive ∧ vanishes = false) ∧
      ∃ label', s.tick label vanishes = (s, label', [])) := by
  unfold TkSpinner.tick
  cases s.running <;> cases label.alive <;> cases vanishes <;> simp

theorem stop_spinner (s : TkSpinner) (label : Label) (clear vanishes : Bool) :
    (s.stop label clear vanishes).1 = { s with running := false } := by
  unfold TkSpinner.stop
  dsimp only
  split
  · rfl
  · split <;> rfl

/-- `start` draws the first frame, or there is no label to draw on. -/
theorem step_start (s : Spinning) (vanishes : Bool) :
    ((s.label.alive ∧ vanishes = false) ∧ ∃ label', s.step (.start vanishes) =
      { s with
        spinner := { s.spinner with running := true, i := 1 }, label := label'
        pending := s.pending ++ [s.now + s.spinner.interval], advanced := [s.now] })
    ∨ (¬ (s.label.alive ∧ vanishes = false) ∧ ∃ label', s.step (.start vanishes) =
      { s with
        spinner := { s.spinner with running := true, i := 0 }, label := label'
        pending := s.pending, advanced := [] }) := by
  rcases tick_cases { s.spinner with running := true, i := 0 } s.label vanishes
    with ⟨hdraws, label', heq⟩ | ⟨hdraws, label', heq⟩
  · refine .inl ⟨hdraws.2, label', ?_⟩
    rw [Spinning.step, TkSpinner.start, heq]
    rfl
  · refine .inr ⟨fun h => hdraws ⟨rfl, h⟩, label', ?_⟩
    simp only [Spinning.step, TkSpinner.start, heq, Spinning.ticked, List.map_nil, List.append_nil]

theorem step_stop (s : Spinning) (clear vanishes : Bool) : ∃ label',
    s.step (.stop clear vanishes) =
      { s with spinner := { s.spinner with running := false }, label := label' } := by
  refine ⟨(s.spinner.stop s.label clear vanishes).2, ?_⟩
  rw [← stop_spinner s.spinner s.label clear vanishes]
  rfl

/-- A due tick is taken out; a running spinner with a label draws and hands over the next one. -/
theorem step_fire (s : Spinning) (tick : Nat) (vanishes : Bool) :
    s.step (.fire tick vanishes) = s ∨ ∃ due, s.pending[tick]? = some due ∧ due ≤ s.now ∧
      ((s.spinner.running ∧ ∃ label', s.step (.fire tick vanishes) =
        { s with
          spinner := { s.spinner with i := s.spinner.i + 1 }, label := label'
          pending := s.pending.eraseIdx tick ++ [s.now + s.spinner.interval]
          advanced := s.now :: s.advanced })
      ∨ ∃ label', s.step (.fire tick vanishes) =
        { s with label := label', pending := s.pending.eraseIdx tick }) := by
  cases hdue : s.pending[tick]? with
  | none =>
    refine .inl ?_
    rw [Spinning.step, hdue]
  | some due =>
    by_cases hnow : due ≤ s.now
    · refine .inr ⟨due, rfl, hnow, ?_⟩
      rcases tick_cases s.spinner s.label vanishes with ⟨hdraws, label', heq⟩ | ⟨_, label', heq⟩
      · refine .inl ⟨hdraws.1, label', ?_⟩
        simp only [Spinning.step, hdue, if_pos hnow, heq]
        rfl
      · refine .inr ⟨label', ?_⟩
        simp only [Spinning.step, hdue, if_pos hnow, heq, Spinning.ticked, List.map_nil,
          List.append_nil, List.nil_append]
    · refine .inl ?_
      simp only [Spinning.step, hdue, if_neg hnow]

/-! ## One loop -/

/-- A spinner that runs has one loop at most. -/
def OneLoop (s : Spinning) : Prop := s.spinner.running → s.pending.length ≤ 1

/-- A `start` finds no tick pending, or one and no label to draw on. -/
def StartsAlone (s : Spinning) : SpinEvent → Prop
  | .start vanishes =>
    s.pending = [] ∨ s.pending.length = 1 ∧ ¬ (s.label.alive ∧ vanishes = false)
  | _ => True

theorem oneLoop_step (s : Spinning) (e : SpinEvent) (h : OneLoop s) :
    OneLoop (s.step e) ↔ StartsAlone s e := by
  cases e with
  | start vanishes =>
    have hnil := List.length_eq_zero_iff (l := s.pending)
    unfold OneLoop StartsAlone
    rcases step_start s vanishes with ⟨hdraws, label', heq⟩ | ⟨hdraws, label', heq⟩
    · rw [heq, List.length_append, List.length_singleton, ← hnil]
      constructor
      · intro hlen
        have := hlen rfl
        omega
      · rintro (hzero | ⟨_, hnone⟩) _
        · omega
        · exact absurd hdraws hnone
    · rw [heq, ← hnil]
      constructor
      · intro hlen
        have hle : s.pending.length ≤ 1 := hlen rfl
        rcases Nat.le_one_iff_eq_zero_or_eq_one.mp hle with hzero | hone
        · exact .inl hzero
        · exact .inr ⟨hone, hdraws⟩
      · intro hcond _
        change s.pending.length ≤ 1
        omega
  | stop clear vanishes =>
    obtain ⟨label', heq⟩ := step_stop s clear vanishes
    refine iff_of_true (fun hrunning => ?_) trivial
    rw [heq] at hrunning
    exact absurd hrunning Bool.false_ne_true
  | fire tick vanishes =>
    refine iff_of_true (fun hrunning => ?_) trivial
    rcases step_fire s tick vanishes with heq | ⟨due, hdue, _, hfired⟩
    · rw [heq] at hrunning ⊢
      exact h hrunning
    -- the tick that fires leaves the queue before it asks for the next one
    · have hlen := List.length_eraseIdx_of_lt (List.getElem?_eq_some_iff.mp hdue).1
      rcases hfired with ⟨hwas, label', heq⟩ | ⟨label', heq⟩
      · have := h hwas
        rw [heq, List.length_append, List.length_singleton]
        omega
      · rw [heq] at hrunning
        have := h hrunning
        rw [heq]
        change (s.pending.eraseIdx tick).length ≤ 1
        omega
  | destroy => exact iff_of_true h trivial
  | wait ms => exact iff_of_true h trivial

/-! ## One frame in an interval -/

/-- The index counts the frames since the last `start`, and any two were an interval apart. -/
def Paced (s : Spinning) : Prop :=
  s.advanced.length = s.spinner.i
    ∧ s.advanced.Pairwise fun later earlier => earlier + s.spinner.interval ≤ later

/-- One tick at most is pending, and is due no sooner than an interval after each frame. -/
structure Spaced (s : Spinning) : Prop where
  paced : Paced s
  single : s.pending.length ≤ 1
  due : ∀ due ∈ s.pending, ∀ t ∈ s.advanced, t + s.spinner.interval ≤ due

theorem spaced_step (s : Spinning) (e : SpinEvent) (h : Spaced s) (halone : StartsAlone s e) :
    Spaced (s.step e) := by
  cases e with
  | start vanishes =>
    rcases step_start s vanishes with ⟨hdraws, label', heq⟩ | ⟨_, label', heq⟩
    · have hnil : s.pending = [] := halone.resolve_right fun hone => hone.2 hdraws
      rw [heq, hnil]
      exact ⟨⟨rfl, List.pairwise_singleton _ _⟩, Nat.le_refl 1, by simp⟩
    · rw [heq]
      exact ⟨⟨rfl, List.Pairwise.nil⟩, h.single, by simp⟩
  | stop clear vanishes =>
    obtain ⟨label', heq⟩ := step_stop s clear vanishes
    rw [heq]
    exact ⟨h.paced, h.single, h.due⟩
  | fire tick vanishes =>
    rcases step_fire s tick vanishes with heq | ⟨due, hdue, hnow, hfired⟩
    · rw [heq]
      exact h
    -- one tick was pending, the one that fires
    · have hnil : s.pending.eraseIdx tick = [] := by
        have hlt := (List.getElem?_eq_some_iff.mp hdue).1
        have hlen := List.length_eraseIdx_of_lt hlt
        have hsingle := h.single
        exact List.length_eq_zero_iff.mp (by omega)
      rcases hfired with ⟨_, label', heq⟩ | ⟨label', heq⟩
      · -- this frame comes no sooner than its tick was due
        have hlast : ∀ t ∈ s.advanced, t + s.spinner.interval ≤ s.now := fun t ht =>
          Nat.le_trans (h.due due (List.mem_of_getElem? hdue) t ht) hnow
        rw [heq, hnil]
        refine ⟨⟨?_, List.pairwise_cons.mpr ⟨hlast, h.paced.2⟩⟩, Nat.le_refl 1, ?_⟩
        · exact congrArg (· + 1) h.paced.1
        · intro due' hdue' t ht
          obtain rfl := List.mem_singleton.mp hdue'
          rcases List.mem_cons.mp ht with rfl | ht
          · exact Nat.le_refl _
          · have := hlast t ht
            change t + s.spinner.interval ≤ s.now + s.spinner.interval
            omega
      · rw [heq, hnil]
        exact ⟨h.paced, Nat.zero_le 1, by simp⟩
  | destroy => exact ⟨h.paced, h.single, h.due⟩
  | wait ms => exact ⟨h.paced, h.single, h.due⟩

theorem spaced_new (taskName : String) (intervalMs : Nat) (label : Label) :
    Spaced (.new taskName intervalMs label) :=
  ⟨⟨rfl, List.Pairwise.nil⟩, Nat.zero_le 1, by simp [Spinning.new]⟩

/-- A running spinner has one loop, which draws at most one frame in an interval. -/
def SpinsOnce (s : Spinning) : Prop := s.spinner.running → s.pending.length ≤ 1 ∧ Paced s

/-- **A spinner never runs two loops exactly where every `start` finds none**: no tick pending, or
one and no label left to draw on. -/
theorem spinsOnce_iff (taskName : String) (intervalMs : Nat) (label : Label)
    (events : List SpinEvent) :
    Everywhere Spinning.step SpinsOnce (.new taskName intervalMs label) events
      ↔ Each Spinning.step StartsAlone (.new taskName intervalMs label) events := by
  constructor
  · intro h
    have hfirst := (spaced_new taskName intervalMs label).single
    refine (everywhere_iff_each oneLoop_step fun _ => hfirst).mp ?_
    intro done todo heq hrunning
    exact (h done todo heq hrunning).1
  · intro h done todo heq _
    have hspaced := everywhere_of_each spaced_step (spaced_new taskName intervalMs label) h done
      todo heq
    exact ⟨hspaced.single, hspaced.paced⟩

/-- A second `start` right after a `stop`. -/
theorem spinsOnce_restarted :
    ¬ Everywhere Spinning.step SpinsOnce (.new "Scanning" 100 ⟨true, ""⟩)
      [.start false, .stop true false, .start false] := by
  intro h
  exact absurd (h [.start false, .stop true false, .start false] [] rfl rfl).1 (by decide)

end AutoDiag.Proof
