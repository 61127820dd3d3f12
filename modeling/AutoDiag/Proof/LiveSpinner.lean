import AutoDiag.Gui.MainInterface
import AutoDiag.Proof.Delivery
import AutoDiag.Proof.Spinner

/-!
# Whether the spinner stops when the live data is there

Spinner and fetch of one number belong together. As long as fetches follow one
another, the latest spinner is the one of the fetch that ends, and the spinner of a
number runs exactly until its fetch is done (`Alternating`). A fetch that starts while
another one goes on takes `self._spinner` away from a spinner that runs, and nothing
stops that one ever after (`Forgotten`).
-/

namespace AutoDiag.Proof

open Utils Gui Runs

variable {ρ ε : Type}

/-! ## Which runs are done -/

/-- The Tk thread has called the `on_done` of run `i`. -/
def Done (i : Nat) (ui : Ui ρ ε) : Prop := .executed .tk i .onDone ∈ ui.history

theorem done_iff_about {i : Nat} {ui : Ui ρ ε} :
    Done i ui ↔ .executed .tk i .onDone ∈ about i ui := by
  rw [about, List.mem_filter]
  exact (and_iff_left (by simp [Moment.run])).symm

/-- Only the Tk thread calls callbacks. -/
theorem done_step (i : Nat) (ui : Ui ρ ε) {event : Event ρ ε} (hevent : event ≠ .tk) :
    Done i (ui.step event) ↔ Done i ui := by
  unfold Done
  cases event with
  | runAsync callbacks => exact Iff.rfl
  | finish run outcome =>
    rw [Ui.step]
    split
    · simp
    · exact Iff.rfl
  | worker run =>
    have hhand : ∀ (b : Bool) (callback : Callback ρ ε) (g : Callbacks) (worker : Worker ρ ε),
        ((ui.afterIf b run callback).setWorker run g worker).history = ui.history :=
      fun _ _ _ _ => afterIf_history
    rw [Ui.step]
    split
    · rw [hhand]
    · rw [hhand]
    · rw [hhand]
    · exact Iff.rfl
  | tk => exact absurd rfl hevent

/-- The Tk thread is done with a run when it takes that run's `on_done` off the queue. -/
theorem done_tk {i run : Nat} {ui : Ui ρ ε} {callback : Callback ρ ε}
    {rest : List (Nat × Callback ρ ε)} (h : ui.queue = (run, callback) :: rest) :
    Done i (ui.step .tk) ↔ Done i ui ∨ run = i ∧ callback = .onDone := by
  simp only [Done, Ui.step, h, Ui.execute, List.mem_append, List.mem_singleton,
    Moment.executed.injEq, true_and, eq_comm]

theorem runs_length_step (ui : Ui ρ ε) {event : Event ρ ε}
    (hevent : ∀ callbacks, event ≠ .runAsync callbacks) :
    (ui.step event).runs.length = ui.runs.length := by
  cases event with
  | runAsync callbacks => exact absurd rfl (hevent callbacks)
  | finish run outcome =>
    rw [Ui.step]
    split
    · exact List.length_set
    · rfl
  | worker run =>
    have hhand : ∀ (b : Bool) (callback : Callback ρ ε) (g : Callbacks) (worker : Worker ρ ε),
        ((ui.afterIf b run callback).setWorker run g worker).runs.length = ui.runs.length := by
      intro b callback g worker
      rw [Ui.setWorker, afterIf_runs, List.length_set]
    rw [Ui.step]
    split
    · exact hhand _ _ _ _
    · exact hhand _ _ _ _
    · exact hhand _ _ _ _
    · rfl
  | tk => exact congrArg List.length (step_tk 0 ui).1

/-- Every run is as `Delivery` describes it. -/
def Known (ui : Ui ρ ε) : Prop := ∀ i, Unstarted i ui ∨ ∃ given, Kept i given ui

/-- `Delivery` says it of each run, and here of all of them. -/
theorem known_step {ui : Ui ρ ε} (h : Known ui) (event : Event ρ ε) : Known (ui.step event) := by
  intro i
  rcases h i with hunstarted | ⟨given, hkept⟩
  · exact unstarted_step hunstarted event
  · exact .inr ⟨given, kept_step hkept event⟩

theorem script_nodup (run : Nat) (given : Callbacks) (outcome : Outcome ρ ε) :
    (script run given outcome).Nodup := by
  obtain ⟨onSuccess, onError, onDone⟩ := given
  cases outcome <;> cases onSuccess <;> cases onError <;> cases onDone <;>
    simp [script, deliveries]

/-- An `on_done` that waits belongs to a run that was started and is not done. -/
theorem not_done_of_waiting {ui : Ui ρ ε} (h : Known ui) {i : Nat}
    (hqueue : (i, .onDone) ∈ ui.queue) : i < ui.runs.length ∧ ¬ Done i ui := by
  have hwaits : .onDone ∈ waiting i ui := by
    rw [waiting, List.mem_map]
    exact ⟨(i, .onDone), List.mem_filter.mpr ⟨hqueue, by simp⟩, rfl⟩
  rcases h i with ⟨_, _, hnone⟩ | ⟨given, worker, hworker, hstate⟩
  · rw [hnone] at hwaits
    exact absurd hwaits List.not_mem_nil
  · refine ⟨(List.getElem?_eq_some_iff.mp hworker).1, ?_⟩
    rw [done_iff_about]
    intro hdone
    rcases hstate with ⟨_, habout, _⟩ | ⟨_, outcome, hscript⟩
    · rw [habout] at hdone
      exact List.not_mem_nil hdone
    · -- the script has its `on_done` once
      have hnodup := script_nodup i given outcome
      rw [← hscript, List.nodup_append] at hnodup
      exact hnodup.2.2 _ hdone _
        (List.mem_map_of_mem (List.mem_append_left _ hwaits)) rfl

theorem not_done_of_length_le {ui : Ui ρ ε} (h : Known ui) {i : Nat} (hi : ui.runs.length ≤ i) :
    ¬ Done i ui := by
  rcases h i with ⟨_, habout, _⟩ | ⟨given, worker, hworker, _⟩
  · rw [done_iff_about, habout]
    exact List.not_mem_nil
  · have := (List.getElem?_eq_some_iff.mp hworker).1
    omega

/-! ## Which spinners run -/

variable {gui : LibreDiagnosticGUI ρ ε}

def Running (j : Nat) (gui : LibreDiagnosticGUI ρ ε) : Prop :=
  ∃ s, gui.spinners[j]? = some s ∧ s.running

/-- A tick writes the label and starts or stops nothing. -/
theorem tick_running (s : TkSpinner) (label : Label) (vanishes : Bool) :
    (s.tick label vanishes).1.running = s.running := by
  rcases tick_cases s label vanishes with ⟨_, label', heq⟩ | ⟨_, label', heq⟩
  · rw [heq]
  · rw [heq]

/-- Which spinners run after the spinner of one number was replaced. -/
theorem running_set {spinners : List TkSpinner} {n : Nat} {s : TkSpinner}
    (h : spinners[n]? = some s) (s' : TkSpinner) (j : Nat) :
    (∃ t, (spinners.set n s')[j]? = some t ∧ t.running) ↔
      if n = j then s'.running = true else ∃ t, spinners[j]? = some t ∧ t.running := by
  have hlt := (List.getElem?_eq_some_iff.mp h).1
  by_cases hj : n = j
  · subst hj
    rw [if_pos rfl, List.getElem?_set_self hlt]
    simp
  · rw [if_neg hj, List.getElem?_set_ne hj]

theorem running_append (spinners : List TkSpinner) {s : TkSpinner} (hs : s.running) (j : Nat) :
    (∃ t, (spinners ++ [s])[j]? = some t ∧ t.running) ↔
      (∃ t, spinners[j]? = some t ∧ t.running) ∨ j = spinners.length := by
  rcases Nat.lt_trichotomy j spinners.length with hlt | heq | hgt
  · rw [List.getElem?_append_left hlt]
    exact (or_iff_left (by omega)).symm
  · subst heq
    rw [List.getElem?_concat_length]
    exact iff_of_true ⟨s, rfl, hs⟩ (.inr rfl)
  · have hnone : (spinners ++ [s])[j]? = none :=
      List.getElem?_eq_none_iff.mpr (by rw [List.length_append, List.length_singleton]; omega)
    rw [hnone, List.getElem?_eq_none_iff.mpr (by omega)]
    exact iff_of_false (by simp) (by simp; omega)

theorem running_callTick (gui : LibreDiagnosticGUI ρ ε) (pending j : Nat) :
    Running j (gui.callTick pending) ↔ Running j gui := by
  unfold Running LibreDiagnosticGUI.callTick
  split
  · rename_i number _
    split
    · rename_i spinner hspinner
      refine (running_set hspinner _ j).trans ?_
      rw [tick_running]
      split
      · rename_i hj
        subst hj
        rw [hspinner]
        simp
      · exact Iff.rfl
    · exact Iff.rfl
  · exact Iff.rfl

/-- `_stop_spinner` stops the spinner of `self._spinner`, if there is one. -/
theorem stopSpinner_cases (gui : LibreDiagnosticGUI ρ ε) :
    (∃ number s label packed, gui.spinner = some number ∧ gui.spinners[number]? = some s ∧
      gui.stopSpinner = { gui with
        spinners := gui.spinners.set number { s with running := false }
        loadingLabel := label, packed := packed })
    ∨ (∀ number, gui.spinner = some number → gui.spinners[number]? = none) ∧
      ∃ packed, gui.stopSpinner = { gui with packed := packed } := by
  have hpacked : ∀ g : LibreDiagnosticGUI ρ ε, ∃ packed,
      (if g.loadingLabel.alive then { g with packed := false } else g) = { g with packed } := by
    intro g
    split
    · exact ⟨false, rfl⟩
    · exact ⟨g.packed, rfl⟩
  obtain ⟨loadingLabel, shown, spinners, spinner, ticks, ui⟩ := gui
  cases spinner with
  | none =>
    simp only [LibreDiagnosticGUI.stopSpinner]
    exact .inr ⟨fun number hnumber => (nomatch hnumber),
      hpacked ⟨loadingLabel, shown, spinners, none, ticks, ui⟩⟩
  | some number =>
    cases hspinner : spinners[number]? with
    | none =>
      simp only [LibreDiagnosticGUI.stopSpinner, hspinner]
      refine .inr ⟨fun n hn => ?_, hpacked ⟨loadingLabel, shown, spinners, some number, ticks, ui⟩⟩
      rw [← Option.some.inj hn]
      exact hspinner
    | some s =>
      obtain ⟨packed, heq⟩ := hpacked {
        loadingLabel := (s.stop loadingLabel true false).2, packed := shown
        spinners := spinners.set number (s.stop loadingLabel true false).1
        spinner := some number, ticks := ticks, ui := ui }
      refine .inl ⟨number, s, (s.stop loadingLabel true false).2, packed, rfl, hspinner, ?_⟩
      rw [stop_spinner] at heq
      simp only [LibreDiagnosticGUI.stopSpinner, hspinner, stop_spinner]
      exact heq

/-- Only the spinner that `self._spinner` holds is stopped. -/
theorem running_stopSpinner (gui : LibreDiagnosticGUI ρ ε) (j : Nat) :
    Running j gui.stopSpinner ↔ Running j gui ∧ gui.spinner ≠ some j := by
  rcases stopSpinner_cases gui with ⟨number, s, _, _, hnumber, hs, heq⟩ | ⟨hnone, _, heq⟩
  · rw [heq, Running, running_set hs, hnumber, Running]
    split
    · rename_i hj
      simp [hj]
    · rename_i hj
      exact (and_iff_left fun h => hj (Option.some.inj h)).symm
  · rw [heq]
    refine (and_iff_left_of_imp ?_).symm
    rintro ⟨s, hs, _⟩ hj
    rw [hnone j hj] at hs
    cases hs

/-! ## The two kinds of run -/

/-- Spinners are numbered as the runs are, and `self._spinner` is the latest. -/
structure Numbered (gui : LibreDiagnosticGUI ρ ε) : Prop where
  known : Known gui.ui
  count : gui.spinners.length = gui.ui.runs.length
  latest : gui.spinners.length = gui.spinner.elim 0 (· + 1)

/-- Every fetch before the last one is done, and a spinner runs until its fetch is done. -/
structure Alternating (gui : LibreDiagnosticGUI ρ ε) : Prop where
  numbered : Numbered gui
  running : ∀ j, Running j gui ↔ j < gui.ui.runs.length ∧ ¬ Done j gui.ui
  last : ∀ j, j + 1 < gui.ui.runs.length → Done j gui.ui

/-- A spinner runs that `self._spinner` does not refer to. -/
structure Forgotten (gui : LibreDiagnosticGUI ρ ε) : Prop where
  numbered : Numbered gui
  running : ∃ j, Running j gui ∧ j + 1 < gui.ui.runs.length

/-- Every fetch that was started is done. -/
def AllDone (gui : LibreDiagnosticGUI ρ ε) : Prop := ∀ i < gui.ui.runs.length, Done i gui.ui

/-- A fetch starts when those before it are done. -/
def OneAtATime (gui : LibreDiagnosticGUI ρ ε) : GuiEvent ρ ε → Prop
  | .fetch => AllDone gui
  | _ => True

theorem step_fetch (gui : LibreDiagnosticGUI ρ ε) : ∃ (s : TkSpinner) (label : Label)
    (ticks : List Nat), s.running ∧ gui.step .fetch =
      { loadingLabel := label, packed := true, spinners := gui.spinners ++ [s]
        spinner := some gui.spinners.length, ticks := ticks
        ui := gui.ui.step (.runAsync ⟨true, true, true⟩) } := by
  have hstart : ((TkSpinner.new "Fetching Live Data").start gui.loadingLabel false).1.running
      = true := by rw [TkSpinner.start, tick_running]
  exact ⟨_, _, _, hstart, rfl⟩

/-- A callback of the queue is called; only an `on_done` concerns the spinners. -/
theorem step_callback (gui : LibreDiagnosticGUI ρ ε) :
    (∃ run rest, gui.ui.queue = (run, .onDone) :: rest ∧
      gui.step .callback = { gui with ui := gui.ui.step .tk }.stopSpinner)
    ∨ gui.step .callback = { gui with ui := gui.ui.step .tk }
      ∧ ∀ i, Done i (gui.ui.step .tk) ↔ Done i gui.ui := by
  unfold LibreDiagnosticGUI.step
  cases hqueue : gui.ui.queue with
  | nil =>
    refine .inr ⟨rfl, fun i => ?_⟩
    rw [Ui.step, hqueue]
  | cons head rest =>
    obtain ⟨run, callback⟩ := head
    have hdone := fun i => done_tk (i := i) hqueue
    cases callback with
    | onDone => exact .inl ⟨run, rest, rfl, rfl⟩
    | onSuccess result => exact .inr ⟨rfl, fun i => (hdone i).trans (or_iff_left (by simp))⟩
    | onError exc => exact .inr ⟨rfl, fun i => (hdone i).trans (or_iff_left (by simp))⟩

/-! ## Every step -/

theorem ui_stopSpinner (gui : LibreDiagnosticGUI ρ ε) : gui.stopSpinner.ui = gui.ui := by
  rcases stopSpinner_cases gui with ⟨_, _, _, _, _, _, heq⟩ | ⟨_, _, heq⟩
  · rw [heq]
  · rw [heq]

theorem ui_callTick (gui : LibreDiagnosticGUI ρ ε) (pending : Nat) :
    (gui.callTick pending).ui = gui.ui := by
  unfold LibreDiagnosticGUI.callTick
  split
  · split <;> rfl
  · rfl

theorem ui_callback (gui : LibreDiagnosticGUI ρ ε) :
    (gui.step .callback).ui = gui.ui.step .tk := by
  rcases step_callback gui with ⟨_, _, _, heq⟩ | ⟨heq, _⟩
  · rw [heq, ui_stopSpinner]
  · rw [heq]

/-- Only a fetch adds a run. -/
theorem runs_length_gui (gui : LibreDiagnosticGUI ρ ε) {e : GuiEvent ρ ε} (he : e ≠ .fetch) :
    (gui.step e).ui.runs.length = gui.ui.runs.length := by
  cases e with
  | fetch => exact absurd rfl he
  | finish run outcome => exact runs_length_step gui.ui (by simp)
  | worker run => exact runs_length_step gui.ui (by simp)
  | callback =>
    rw [ui_callback]
    exact runs_length_step gui.ui (by simp)
  | tick pending => exact congrArg (·.runs.length) (ui_callTick gui pending)

theorem runs_length_fetch (gui : LibreDiagnosticGUI ρ ε) :
    (gui.step .fetch).ui.runs.length = gui.ui.runs.length + 1 :=
  List.length_append

/-- Runs and spinners are started together, so they are numbered alike. -/
theorem numbered_step (h : Numbered gui) (e : GuiEvent ρ ε) : Numbered (gui.step e) := by
  have hui : ∀ event, (∀ callbacks, event ≠ Event.runAsync callbacks) →
      Numbered { gui with ui := gui.ui.step event } := fun event hevent =>
    ⟨known_step h.known event, h.count.trans (runs_length_step gui.ui hevent).symm, h.latest⟩
  cases e with
  | fetch =>
    obtain ⟨s, label, ticks, _, heq⟩ := step_fetch gui
    rw [heq]
    refine ⟨known_step h.known _, ?_, List.length_append⟩
    exact (List.length_append.trans (congrArg (· + 1) h.count)).trans List.length_append.symm
  | finish run outcome => exact hui _ (by simp)
  | worker run => exact hui _ (by simp)
  | callback =>
    have hcalled := hui .tk (by simp)
    rcases step_callback gui with ⟨run, rest, _, heq⟩ | ⟨heq, _⟩
    · rw [heq]
      rcases stopSpinner_cases { gui with ui := gui.ui.step .tk } with
        ⟨_, _, _, _, _, _, heq⟩ | ⟨_, _, heq⟩
      · rw [heq]
        refine ⟨hcalled.known, ?_, ?_⟩
        · exact List.length_set.trans hcalled.count
        · exact List.length_set.trans hcalled.latest
      · rw [heq]
        exact ⟨hcalled.known, hcalled.count, hcalled.latest⟩
    · rw [heq]
      exact hcalled
  | tick pending =>
    change Numbered (gui.callTick pending)
    unfold LibreDiagnosticGUI.callTick
    split
    · split
      · exact ⟨h.known, List.length_set.trans h.count, List.length_set.trans h.latest⟩
      · exact h
    · exact h

/-- The latest spinner has the number of the latest run. -/
theorem latest_eq (h : Numbered gui) {j : Nat} (hj : gui.spinner = some j) :
    j + 1 = gui.ui.runs.length := by
  have hlatest := h.latest
  rw [hj, Option.elim_some, h.count] at hlatest
  exact hlatest.symm

/-- What was forgotten stays so: nothing else holds the old spinner. -/
theorem forgotten_step (gui : LibreDiagnosticGUI ρ ε) (e : GuiEvent ρ ε) (h : Forgotten gui) :
    Forgotten (gui.step e) := by
  refine ⟨numbered_step h.numbered e, ?_⟩
  obtain ⟨j, hj, hold⟩ := h.running
  have hgrows : gui.ui.runs.length ≤ (gui.step e).ui.runs.length := by
    by_cases he : e = .fetch
    · rw [he, runs_length_fetch]
      omega
    · exact Nat.le_of_eq (runs_length_gui gui he).symm
  refine ⟨j, ?_, by omega⟩
  cases e with
  | fetch =>
    obtain ⟨s, label, ticks, hs, heq⟩ := step_fetch gui
    rw [heq]
    exact (running_append gui.spinners hs j).mpr (.inl hj)
  | finish run outcome => exact hj
  | worker run => exact hj
  | callback =>
    rcases step_callback gui with ⟨run, rest, _, heq⟩ | ⟨heq, _⟩
    · rw [heq, running_stopSpinner]
      refine ⟨hj, fun hspinner => ?_⟩
      have := latest_eq h.numbered hspinner
      omega
    · rw [heq]
      exact hj
  | tick pending => exact (running_callTick gui pending j).mpr hj

/-- A fetch that starts while another one goes on leaves that one's spinner behind. -/
theorem forgotten_of_overlap (gui : LibreDiagnosticGUI ρ ε) (e : GuiEvent ρ ε)
    (h : Alternating gui) (hmiss : ¬ OneAtATime gui e) : Forgotten (gui.step e) := by
  refine ⟨numbered_step h.numbered e, ?_⟩
  cases e with
  | fetch =>
    simp only [OneAtATime, AllDone, Classical.not_forall] at hmiss
    obtain ⟨j, hj, hdone⟩ := hmiss
    refine ⟨j, ?_, by rw [runs_length_fetch]; omega⟩
    obtain ⟨s, label, ticks, hs, heq⟩ := step_fetch gui
    rw [heq]
    exact (running_append gui.spinners hs j).mpr (.inl ((h.running j).mpr ⟨hj, hdone⟩))
  | finish run outcome => exact absurd trivial hmiss
  | worker run => exact absurd trivial hmiss
  | callback => exact absurd trivial hmiss
  | tick pending => exact absurd trivial hmiss

/-- A step that neither adds a run nor calls an `on_done`. -/
theorem Alternating.of_eq {gui' : LibreDiagnosticGUI ρ ε} (h : Alternating gui)
    (hnumbered : Numbered gui') (hrunning : ∀ j, Running j gui' ↔ Running j gui)
    (hruns : gui'.ui.runs.length = gui.ui.runs.length)
    (hdone : ∀ j, Done j gui'.ui ↔ Done j gui.ui) : Alternating gui' where
  numbered := hnumbered
  running j := by rw [hrunning, hruns, hdone, h.running]
  last j hj := (hdone j).mpr (h.last j (by omega))

theorem alternating_step (gui : LibreDiagnosticGUI ρ ε) (e : GuiEvent ρ ε) (h : Alternating gui)
    (hone : OneAtATime gui e) : Alternating (gui.step e) := by
  have hnumbered := numbered_step h.numbered e
  cases e with
  | fetch =>
    have hnew := not_done_of_length_le h.numbered.known (Nat.le_refl _)
    have hdone : ∀ i, Done i (gui.step .fetch).ui ↔ Done i gui.ui := fun i =>
      done_step i gui.ui (by simp)
    -- the spinner just started is the only one whose fetch is new
    refine ⟨hnumbered, fun j => ?_, fun j hj => ?_⟩
    · rw [hdone, runs_length_fetch]
      obtain ⟨s, label, ticks, hs, heq⟩ := step_fetch gui
      rw [heq]
      refine (running_append gui.spinners hs j).trans ((or_congr (h.running j) Iff.rfl).trans ?_)
      rw [h.numbered.count]
      constructor
      · rintro (⟨hj, hnot⟩ | rfl)
        · exact ⟨by omega, hnot⟩
        · exact ⟨by omega, hnew⟩
      · rintro ⟨hj, hnot⟩
        rcases Nat.lt_succ_iff_lt_or_eq.mp hj with hlt | heq
        · exact .inl ⟨hlt, hnot⟩
        · exact .inr heq
    · rw [runs_length_fetch] at hj
      exact (hdone j).mpr (hone j (by omega))
  | finish run outcome =>
    exact h.of_eq hnumbered (fun _ => Iff.rfl) (runs_length_gui gui (e := .finish run outcome)
      (by simp)) fun j => done_step j gui.ui (by simp)
  | worker run =>
    exact h.of_eq hnumbered (fun _ => Iff.rfl) (runs_length_gui gui (e := .worker run) (by simp))
      fun j => done_step j gui.ui (by simp)
  | callback =>
    have hruns := runs_length_gui gui (e := .callback) (by simp)
    rcases step_callback gui with ⟨run, rest, hqueue, heq⟩ | ⟨heq, hdone⟩
    · -- the `on_done` is that of the last run, whose spinner is the latest
      obtain ⟨hrun, hnot⟩ := not_done_of_waiting h.numbered.known
        (show (run, .onDone) ∈ gui.ui.queue by rw [hqueue]; exact List.mem_cons_self)
      have hlast : run + 1 = gui.ui.runs.length := by
        have := mt (h.last run) hnot
        omega
      have hspinner : gui.spinner = some run := by
        have hlatest := h.numbered.latest
        rw [h.numbered.count, ← hlast] at hlatest
        cases hnumber : gui.spinner with
        | none =>
          rw [hnumber] at hlatest
          cases hlatest
        | some n =>
          rw [hnumber] at hlatest
          rw [Nat.succ.inj hlatest]
      have hdone : ∀ i, Done i (gui.step .callback).ui ↔ Done i gui.ui ∨ run = i := by
        intro i
        rw [ui_callback, done_tk hqueue]
        simp
      refine ⟨hnumbered, fun j => ?_, fun j hj => ?_⟩
      · rw [hdone, hruns, heq, running_stopSpinner]
        change Running j gui ∧ gui.spinner ≠ some j ↔ _
        rw [h.running j, hspinner, not_or, and_assoc]
        simp
      · exact (hdone j).mpr (.inl (h.last j (by omega)))
    · refine h.of_eq hnumbered (fun j => ?_) hruns fun j => ?_
      · rw [heq]
        exact Iff.rfl
      · rw [ui_callback]
        exact hdone j
  | tick pending =>
    have hui := ui_callTick gui pending
    refine h.of_eq hnumbered (running_callTick gui pending)
      (runs_length_gui gui (e := .tick pending) (by simp)) fun j => ?_
    change Done j (gui.callTick pending).ui ↔ _
    rw [hui]

/-! ## Every run -/

/-- No spinner runs, and no pending tick changes the label. -/
def StandsStill (gui : LibreDiagnosticGUI ρ ε) : Prop :=
  (∀ j, ¬ Running j gui)
    ∧ ∀ pending, (gui.step (.tick pending)).loadingLabel = gui.loadingLabel

/-- A spinner runs while a fetch is unfinished, and none after. -/
def SpinsUntilDone (gui : LibreDiagnosticGUI ρ ε) : Prop :=
  (¬ AllDone gui → ∃ j, Running j gui) ∧ (AllDone gui → StandsStill gui)

theorem standsStill_of_stopped (h : ∀ j, ¬ Running j gui) : StandsStill gui := by
  refine ⟨h, fun pending => ?_⟩
  change (gui.callTick pending).loadingLabel = _
  unfold LibreDiagnosticGUI.callTick
  split
  · rename_i number _
    split
    · rename_i s hs
      have hstopped : s.running = false := by
        have := h number
        simpa [Running, hs] using this
      simp [TkSpinner.tick, hstopped]
    · rfl
  · rfl

theorem alternating_start : Alternating (.start : LibreDiagnosticGUI ρ ε) where
  numbered := ⟨fun _ => .inl ⟨rfl, rfl, rfl⟩, rfl, rfl⟩
  running j := by simp [Running, LibreDiagnosticGUI.start, Ui.start]
  last j hj := absurd hj (Nat.not_lt_zero _)

/-- Started and not done, the last spinner runs; done, none does. -/
theorem spinsUntilDone_of_alternating (h : Alternating gui) : SpinsUntilDone gui := by
  constructor
  · intro hnot
    simp only [AllDone, Classical.not_forall] at hnot
    obtain ⟨j, hj, hdone⟩ := hnot
    exact ⟨j, (h.running j).mpr ⟨hj, hdone⟩⟩
  · intro hdone
    refine standsStill_of_stopped fun j hj => ?_
    obtain ⟨hlt, hnot⟩ := (h.running j).mp hj
    exact hnot (hdone j hlt)

/-- **The spinner stops where no fetch starts while another one goes on**: on every run without such
a fetch it shows what it should all along, and after one no moment comes at which all is done and
nothing spins. -/
theorem spinsUntilDone_iff (events : List (GuiEvent ρ ε)) :
    (Each LibreDiagnosticGUI.step OneAtATime .start events →
      Everywhere LibreDiagnosticGUI.step SpinsUntilDone .start events)
    ∧ (SpinsUntilDone (after LibreDiagnosticGUI.step .start events) ↔
      (AllDone (after LibreDiagnosticGUI.step .start events) →
        Each LibreDiagnosticGUI.step OneAtATime .start events)) := by
  refine ⟨fun h done todo heq => spinsUntilDone_of_alternating
    (everywhere_of_each alternating_step alternating_start h done todo heq), ?_⟩
  rcases each_or_trapped alternating_step forgotten_of_overlap forgotten_step alternating_start
    events with ⟨hcond, hend⟩ | ⟨hcond, hend⟩
  · exact iff_of_true (spinsUntilDone_of_alternating hend) fun _ => hcond
  · obtain ⟨j, hj, _⟩ := hend.running
    constructor
    · intro hspins hdone
      exact absurd hj ((hspins.2 hdone).1 j)
    · intro h
      exact ⟨fun _ => ⟨j, hj⟩, fun hdone => absurd (h hdone) hcond⟩

/-- A second fetch starts, then both end. -/
def rerunEvents : List (GuiEvent Unit Unit) :=
  [.fetch, .fetch, .finish 0 (.returned ()), .worker 0, .worker 0, .finish 1 (.returned ()),
    .worker 1, .worker 1, .callback, .callback, .callback, .callback]

theorem spinsUntilDone_rerun :
    ¬ SpinsUntilDone (after LibreDiagnosticGUI.step .start rerunEvents) := by
  intro h
  have hdone : AllDone (after LibreDiagnosticGUI.step .start rerunEvents) := by
    unfold AllDone Done
    decide
  exact (h.2 hdone).1 0 ⟨_, rfl, rfl⟩

end AutoDiag.Proof
