import AutoDiag.Lib.Fair
import AutoDiag.Utils.UiWorker

/-!
# Every run's outcome is delivered once, in order, on the Tk thread

What a run owes is its `script`: its work ends, then the Tk thread calls the
callback for that outcome, then `on_done`, each if it was given. The invariant
is that what has happened, what waits in the queue and what the worker has still
to hand over are the script, in that order (`Kept`). So at every moment the
history of a run is a beginning of its script; and when its worker and the Tk
thread both keep getting turns, the worker reaches its end, the Tk thread reaches
the last of the run's callbacks, and the history is the whole script.
-/

namespace AutoDiag.Proof

open Utils

variable {ρ ε : Type}

/-- The callbacks an outcome is delivered by. -/
def deliveries (given : Callbacks) : Outcome ρ ε → List (Callback ρ ε)
  | .returned result =>
    (if given.onSuccess then [.onSuccess result] else []) ++ if given.onDone then [.onDone] else []
  | .raised exc =>
    (if given.onError then [.onError exc] else []) ++ if given.onDone then [.onDone] else []

/-- What a worker has still to hand over to the Tk thread. -/
def todo (given : Callbacks) : Worker ρ ε → List (Callback ρ ε)
  | .working => []
  | .delivering outcome => deliveries given outcome
  | .finishing => if given.onDone then [.onDone] else []
  | .ended => []

/-- All that is to happen in a run: its work ends, and the Tk thread calls its callbacks. -/
def script (run : Nat) (given : Callbacks) (outcome : Outcome ρ ε) : List (Moment ρ ε) :=
  .finished run outcome :: (deliveries given outcome).map (.executed .tk run)

/-- What has happened in a run so far. -/
def about (run : Nat) (ui : Ui ρ ε) : List (Moment ρ ε) := ui.history.filter (·.run = run)

/-- The callbacks of a run in the queue. -/
def waiting (run : Nat) (ui : Ui ρ ε) : List (Callback ρ ε) :=
  (ui.queue.filter (·.1 = run)).map Prod.snd

/-- Run `run` was started with `given`, and nothing has happened in it, or what has happened, waits
and is still to be handed over are its script. -/
def Kept (run : Nat) (given : Callbacks) (ui : Ui ρ ε) : Prop :=
  ∃ worker, ui.runs[run]? = some (given, worker) ∧
    ((worker = .working ∧ about run ui = [] ∧ waiting run ui = []) ∨
      worker ≠ .working ∧ ∃ outcome, about run ui ++
        (waiting run ui ++ todo given worker).map (.executed .tk run) = script run given outcome)

/-- Run `run` has not been started. -/
def Unstarted (run : Nat) (ui : Ui ρ ε) : Prop :=
  ui.runs[run]? = none ∧ about run ui = [] ∧ waiting run ui = []

section Steps

variable {ui : Ui ρ ε} {run i : Nat} {given : Callbacks}

theorem afterIf_runs {b : Bool} {callback : Callback ρ ε} :
    (ui.afterIf b run callback).runs = ui.runs := by
  cases b <;> rfl

theorem afterIf_history {b : Bool} {callback : Callback ρ ε} :
    (ui.afterIf b run callback).history = ui.history := by
  cases b <;> rfl

theorem afterIf_queue {b : Bool} {callback : Callback ρ ε} :
    (ui.afterIf b run callback).queue = ui.queue ++ if b then [(run, callback)] else [] := by
  cases b
  · exact (List.append_nil _).symm
  · rfl

theorem waiting_afterIf {b : Bool} {callback : Callback ρ ε} :
    waiting run (ui.afterIf b run callback) = waiting run ui ++ if b then [callback] else [] := by
  rw [waiting, waiting, afterIf_queue, List.filter_append, List.map_append]
  cases b <;> simp

theorem waiting_afterIf_of_ne (h : run ≠ i) {b : Bool} {callback : Callback ρ ε} :
    waiting i (ui.afterIf b run callback) = waiting i ui := by
  rw [waiting, waiting, afterIf_queue, List.filter_append, List.map_append]
  cases b <;> simp [h]

theorem about_afterIf {b : Bool} {callback : Callback ρ ε} :
    about i (ui.afterIf b run callback) = about i ui := by
  rw [about, about, afterIf_history]

/-- A step of another run's worker is not noticed. -/
theorem step_finish_of_ne (ui : Ui ρ ε) (h : run ≠ i) (outcome : Outcome ρ ε) :
    (ui.step (.finish run outcome)).runs[i]? = ui.runs[i]? ∧
      about i (ui.step (.finish run outcome)) = about i ui ∧
      waiting i (ui.step (.finish run outcome)) = waiting i ui := by
  rw [Ui.step]
  split
  · refine ⟨?_, ?_, rfl⟩
    · exact List.getElem?_set_ne h
    · rw [about, about, List.filter_append]
      simp [Moment.run, h]
  · exact ⟨rfl, rfl, rfl⟩

theorem step_worker_of_ne (ui : Ui ρ ε) (h : run ≠ i) :
    (ui.step (.worker run)).runs[i]? = ui.runs[i]? ∧
      about i (ui.step (.worker run)) = about i ui ∧
      waiting i (ui.step (.worker run)) = waiting i ui := by
  have hframe : ∀ (b : Bool) (callback : Callback ρ ε) (g : Callbacks) (worker : Worker ρ ε),
      ((ui.afterIf b run callback).setWorker run g worker).runs[i]? = ui.runs[i]? ∧
        about i ((ui.afterIf b run callback).setWorker run g worker) = about i ui ∧
        waiting i ((ui.afterIf b run callback).setWorker run g worker) = waiting i ui := by
    intro b callback g worker
    refine ⟨?_, about_afterIf, waiting_afterIf_of_ne h⟩
    rw [Ui.setWorker, afterIf_runs]
    exact List.getElem?_set_ne h
  rw [Ui.step]
  split
  · exact hframe _ _ _ _
  · exact hframe _ _ _ _
  · exact hframe _ _ _ _
  · exact ⟨rfl, rfl, rfl⟩

/-- The Tk thread moves the first callback from what waits to what has happened. -/
theorem step_tk (i : Nat) (ui : Ui ρ ε) :
    (ui.step .tk).runs = ui.runs ∧
      about i (ui.step .tk) ++ (waiting i (ui.step .tk)).map (.executed .tk i) =
        about i ui ++ (waiting i ui).map (.executed .tk i) := by
  rw [Ui.step]
  split
  · exact ⟨rfl, rfl⟩
  · rename_i run callback rest hqueue
    refine ⟨rfl, ?_⟩
    simp only [about, waiting, Ui.execute, hqueue, List.filter_append, List.filter_cons, Moment.run]
    by_cases hrun : run = i
    · subst hrun
      simp
    · simp [hrun]

theorem Kept.of_eq {ui' : Ui ρ ε} (h : Kept i given ui) (hruns : ui'.runs[i]? = ui.runs[i]?)
    (habout : about i ui' = about i ui) (hwaiting : waiting i ui' = waiting i ui) :
    Kept i given ui' := by
  rw [Kept, hruns, habout, hwaiting]
  exact h

theorem kept_tk (h : Kept i given ui) : Kept i given (ui.step .tk) := by
  obtain ⟨worker, hworker, hstate⟩ := h
  obtain ⟨hruns, htk⟩ := step_tk i ui
  refine ⟨worker, by rw [hruns]; exact hworker, ?_⟩
  rcases hstate with ⟨hw, habout, hwaiting⟩ | ⟨hw, outcome, hscript⟩
  · rw [habout, hwaiting] at htk
    obtain ⟨habout', hwaiting'⟩ := List.append_eq_nil_iff.mp htk
    exact Or.inl ⟨hw, habout', List.map_eq_nil_iff.mp hwaiting'⟩
  · refine Or.inr ⟨hw, outcome, ?_⟩
    rw [List.map_append, ← List.append_assoc] at hscript ⊢
    rw [htk]
    exact hscript

theorem kept_finish (h : Kept i given ui) (outcome : Outcome ρ ε) :
    Kept i given (ui.step (.finish i outcome)) := by
  obtain ⟨worker, hworker, hstate⟩ := h
  cases worker with
  | working =>
    obtain ⟨_, habout, hwaiting⟩ := hstate.resolve_right fun h => h.1 rfl
    have hlen : i < ui.runs.length := (List.getElem?_eq_some_iff.mp hworker).1
    -- the worker takes the outcome along; no callback is handed over yet
    have hstep : ui.step (.finish i outcome) = { ui.setWorker i given (.delivering outcome) with
        history := ui.history ++ [.finished i outcome] } := by
      simp only [Ui.step, hworker]
    have hhappened : about i (ui.step (.finish i outcome)) = [.finished i outcome] := by
      rw [about] at habout
      rw [hstep, about, List.filter_append, habout]
      simp [Moment.run]
    have hqueued : waiting i (ui.step (.finish i outcome)) = [] := by
      rw [hstep]
      exact hwaiting
    refine ⟨.delivering outcome, ?_, Or.inr ⟨by simp, outcome, ?_⟩⟩
    · rw [hstep]
      simp [Ui.setWorker, hlen]
    · rw [hhappened, hqueued]
      rfl
  | delivering o => simp only [Ui.step, hworker]; exact ⟨_, hworker, hstate⟩
  | finishing => simp only [Ui.step, hworker]; exact ⟨_, hworker, hstate⟩
  | ended => simp only [Ui.step, hworker]; exact ⟨_, hworker, hstate⟩

/-- A block of the worker: what it hands over it has no more to do. -/
theorem kept_hand {b : Bool} {callback : Callback ρ ε} {worker worker' : Worker ρ ε}
    (hworker : ui.runs[i]? = some (given, worker)) (hw : worker' ≠ .working)
    (htodo : todo given worker = (if b then [callback] else []) ++ todo given worker')
    {outcome : Outcome ρ ε} (hscript : about i ui ++
      (waiting i ui ++ todo given worker).map (.executed .tk i) = script i given outcome) :
    Kept i given ((ui.afterIf b i callback).setWorker i given worker') := by
  have hlen : i < ui.runs.length := (List.getElem?_eq_some_iff.mp hworker).1
  refine ⟨worker', ?_, Or.inr ⟨hw, outcome, ?_⟩⟩
  · simp [Ui.setWorker, afterIf_runs, hlen]
  · change about i (ui.afterIf b i callback) ++
      (waiting i (ui.afterIf b i callback) ++ todo given worker').map (.executed .tk i) = _
    rw [about_afterIf, waiting_afterIf, List.append_assoc, ← htodo]
    exact hscript

theorem kept_worker (h : Kept i given ui) : Kept i given (ui.step (.worker i)) := by
  obtain ⟨worker, hworker, hstate⟩ := h
  cases worker with
  | working => simp only [Ui.step, hworker]; exact ⟨_, hworker, hstate⟩
  | delivering o =>
    obtain ⟨_, outcome, hscript⟩ := hstate.resolve_left (by simp)
    cases o with
    | returned result =>
      simp only [Ui.step, hworker]
      exact kept_hand hworker (by simp) rfl hscript
    | raised exc =>
      simp only [Ui.step, hworker]
      exact kept_hand hworker (by simp) rfl hscript
  | finishing =>
    obtain ⟨_, outcome, hscript⟩ := hstate.resolve_left (by simp)
    simp only [Ui.step, hworker]
    exact kept_hand hworker (by simp) (List.append_nil _).symm hscript
  | ended => simp only [Ui.step, hworker]; exact ⟨_, hworker, hstate⟩

/-- **Every step of every thread keeps every run to its script.** -/
theorem kept_step (h : Kept i given ui) (event : Event ρ ε) : Kept i given (ui.step event) := by
  cases event with
  | runAsync callbacks =>
    obtain ⟨worker, hworker, hstate⟩ := h
    have hlen : i < ui.runs.length := (List.getElem?_eq_some_iff.mp hworker).1
    refine ⟨worker, ?_, hstate⟩
    rw [Ui.step, List.getElem?_append_left hlen]
    exact hworker
  | finish run outcome =>
    rcases Classical.em (run = i) with rfl | hrun
    · exact kept_finish h outcome
    · obtain ⟨hruns, habout, hwaiting⟩ := step_finish_of_ne ui hrun outcome
      exact h.of_eq hruns habout hwaiting
  | worker run =>
    rcases Classical.em (run = i) with rfl | hrun
    · exact kept_worker h
    · obtain ⟨hruns, habout, hwaiting⟩ := step_worker_of_ne ui hrun
      exact h.of_eq hruns habout hwaiting
  | tk => exact kept_tk h

/-- A run that has not been started stays so, or starts with nothing happened. -/
theorem unstarted_step (h : Unstarted i ui) (event : Event ρ ε) :
    Unstarted i (ui.step event) ∨ ∃ given, Kept i given (ui.step event) := by
  obtain ⟨hruns, habout, hwaiting⟩ := h
  cases event with
  | runAsync callbacks =>
    have hlen : ui.runs.length ≤ i := List.getElem?_eq_none_iff.mp hruns
    -- the new run is `i` itself, or `i` is still to come
    rcases Classical.em (i = ui.runs.length) with rfl | hi
    · refine Or.inr ⟨callbacks, .working, ?_, Or.inl ⟨rfl, habout, hwaiting⟩⟩
      simp [Ui.step]
    · refine Or.inl ⟨?_, habout, hwaiting⟩
      rw [Ui.step]
      refine List.getElem?_eq_none_iff.mpr ?_
      rw [List.length_append, List.length_singleton]
      omega
  | finish run outcome =>
    rcases Classical.em (run = i) with rfl | hrun
    · simp only [Ui.step, hruns]
      exact Or.inl ⟨hruns, habout, hwaiting⟩
    · obtain ⟨hruns', habout', hwaiting'⟩ := step_finish_of_ne ui hrun outcome
      exact Or.inl ⟨hruns'.trans hruns, habout'.trans habout, hwaiting'.trans hwaiting⟩
  | worker run =>
    rcases Classical.em (run = i) with rfl | hrun
    · simp only [Ui.step, hruns]
      exact Or.inl ⟨hruns, habout, hwaiting⟩
    · obtain ⟨hruns', habout', hwaiting'⟩ := step_worker_of_ne ui hrun
      exact Or.inl ⟨hruns'.trans hruns, habout'.trans habout, hwaiting'.trans hwaiting⟩
  | tk =>
    obtain ⟨hruns', htk⟩ := step_tk i ui
    rw [habout, hwaiting] at htk
    obtain ⟨habout', hwaiting'⟩ := List.append_eq_nil_iff.mp htk
    exact Or.inl ⟨by rw [hruns']; exact hruns, habout', List.map_eq_nil_iff.mp hwaiting'⟩

/-- Nothing that has happened is forgotten. -/
theorem history_step {moment : Moment ρ ε} (h : moment ∈ ui.history) (event : Event ρ ε) :
    moment ∈ (ui.step event).history := by
  cases event with
  | runAsync callbacks => exact h
  | finish run outcome =>
    rw [Ui.step]
    split
    · exact List.mem_append_left _ h
    · exact h
  | worker run =>
    -- whichever callback is handed over, the history stays as it was
    have hhand : ∀ (b : Bool) (callback : Callback ρ ε) (g : Callbacks) (worker : Worker ρ ε),
        moment ∈ ((ui.afterIf b run callback).setWorker run g worker).history := by
      intro b callback g worker
      rw [Ui.setWorker, afterIf_history]
      exact h
    rw [Ui.step]
    split
    · exact hhand _ _ _ _
    · exact hhand _ _ _ _
    · exact hhand _ _ _ _
    · exact h
  | tk =>
    rw [Ui.step]
    split
    · exact h
    · exact List.mem_append_left _ h

/-- Past its work, a worker goes on only by its own steps. -/
theorem runs_step {worker : Worker ρ ε} (h : ui.runs[i]? = some (given, worker))
    (hw : worker ≠ .working) {event : Event ρ ε} (hevent : event ≠ .worker i) :
    (ui.step event).runs[i]? = some (given, worker) := by
  cases event with
  | runAsync callbacks =>
    have hlen : i < ui.runs.length := (List.getElem?_eq_some_iff.mp h).1
    rw [Ui.step, List.getElem?_append_left hlen]
    exact h
  | finish run outcome =>
    rcases Classical.em (run = i) with rfl | hrun
    · cases worker with
      | working => exact absurd rfl hw
      | delivering o => simp only [Ui.step, h]
      | finishing => simp only [Ui.step, h]
      | ended => simp only [Ui.step, h]
    · exact (step_finish_of_ne ui hrun outcome).1.trans h
  | worker run =>
    have hrun : run ≠ i := by
      intro heq
      exact hevent (by rw [heq])
    exact (step_worker_of_ne ui hrun).1.trans h
  | tk => exact (congrArg (·[i]?) (step_tk i ui).1).trans h

theorem runs_worker_delivering {outcome : Outcome ρ ε}
    (h : ui.runs[i]? = some (given, .delivering outcome)) :
    (ui.step (.worker i)).runs[i]? = some (given, .finishing) := by
  have hlen : i < ui.runs.length := (List.getElem?_eq_some_iff.mp h).1
  cases outcome with
  | returned result => simp only [Ui.step, h]; simp [Ui.setWorker, afterIf_runs, hlen]
  | raised exc => simp only [Ui.step, h]; simp [Ui.setWorker, afterIf_runs, hlen]

theorem runs_worker_finishing (h : ui.runs[i]? = some (given, .finishing)) :
    (ui.step (.worker i)).runs[i]? = some (given, .ended) := by
  have hlen : i < ui.runs.length := (List.getElem?_eq_some_iff.mp h).1
  simp only [Ui.step, h]
  simp [Ui.setWorker, afterIf_runs, hlen]

/-- Only a worker's step lengthens the queue, and by a callback of its own run. -/
theorem queue_step (ui : Ui ρ ε) {event : Event ρ ε} (hevent : event ≠ .tk) :
    ∃ added, (ui.step event).queue = ui.queue ++ added ∧ ∀ x ∈ added, event = .worker x.1 := by
  have hsame : ∃ added, ui.queue = ui.queue ++ added ∧ ∀ x ∈ added, event = .worker x.1 :=
    ⟨[], (List.append_nil _).symm, by simp⟩
  cases event with
  | runAsync callbacks => exact hsame
  | finish run outcome =>
    rw [Ui.step]
    split
    · exact hsame
    · exact hsame
  | worker run =>
    -- a worker puts at most one callback into the queue, and it is its own
    have hhand : ∀ (b : Bool) (callback : Callback ρ ε) (g : Callbacks) (worker : Worker ρ ε),
        ∃ added, ((ui.afterIf b run callback).setWorker run g worker).queue = ui.queue ++ added ∧
          ∀ x ∈ added, Event.worker (ρ := ρ) (ε := ε) run = .worker x.1 := by
      intro b callback g worker
      refine ⟨_, afterIf_queue, ?_⟩
      cases b <;> simp
    rw [Ui.step]
    split
    · exact hhand _ _ _ _
    · exact hhand _ _ _ _
    · exact hhand _ _ _ _
    · exact hsame
  | tk => exact absurd rfl hevent

/-- Run `i`'s worker is at its end, and the last of its callbacks is among the first `n` of the
queue. -/
def Ended (i : Nat) (given : Callbacks) (n : Nat) (ui : Ui ρ ε) : Prop :=
  ui.runs[i]? = some (given, .ended) ∧
    ∃ front back, ui.queue = front ++ back ∧ front.length ≤ n ∧ ∀ x ∈ back, x.1 ≠ i

theorem ended_step {n : Nat} (h : Ended i given n ui) (event : Event ρ ε) :
    Ended i given n (ui.step event) := by
  obtain ⟨hruns, front, back, hqueue, hlen, hback⟩ := h
  by_cases hown : event = .worker i
  · subst hown
    simp only [Ui.step, hruns]
    exact ⟨hruns, front, back, hqueue, hlen, hback⟩
  refine ⟨runs_step hruns (by simp) hown, ?_⟩
  by_cases htk : event = .tk
  · -- Tk takes the head: one of the front, or of another run once the front is gone
    subst htk
    rw [Ui.step, hqueue]
    cases front with
    | nil =>
      cases back with
      | nil => exact ⟨[], [], hqueue, hlen, hback⟩
      | cons x back =>
        exact ⟨[], back, rfl, hlen, fun y hy => hback y (List.mem_cons_of_mem x hy)⟩
    | cons x front =>
      exact ⟨front, back, rfl, Nat.le_of_succ_le hlen, hback⟩
  · obtain ⟨added, hadded, hof⟩ := queue_step ui htk
    refine ⟨front, back ++ added, by rw [hadded, hqueue, List.append_assoc], hlen, ?_⟩
    intro x hx
    rcases List.mem_append.mp hx with hx | hx
    · exact hback x hx
    · intro heq
      exact hown (by rw [hof x hx, heq])

theorem ended_tk {n : Nat} (h : Ended i given (n + 1) ui) : Ended i given n (ui.step .tk) := by
  obtain ⟨hruns, front, back, hqueue, hlen, hback⟩ := h
  refine ⟨runs_step hruns (by simp) (by simp), ?_⟩
  rw [Ui.step, hqueue]
  cases front with
  | nil =>
    cases back with
    | nil => exact ⟨[], [], hqueue, Nat.zero_le n, hback⟩
    | cons x back =>
      exact ⟨[], back, rfl, Nat.zero_le n, fun y hy => hback y (List.mem_cons_of_mem x hy)⟩
  | cons x front =>
    exact ⟨front, back, rfl, Nat.le_of_succ_le_succ hlen, hback⟩

/-- With its worker at its end and no callback in the queue, a run is all done. -/
theorem about_of_ended (hkept : Kept i given ui) (hended : Ended i given 0 ui)
    {outcome : Outcome ρ ε} (hfinished : .finished i outcome ∈ ui.history) :
    about i ui = script i given outcome := by
  obtain ⟨worker, hworker, hstate⟩ := hkept
  obtain ⟨hruns, front, back, hqueue, hlen, hback⟩ := hended
  obtain rfl : worker = .ended := by
    rw [hworker] at hruns
    simpa using hruns
  obtain ⟨_, o, hscript⟩ := hstate.resolve_left (by simp)
  have hempty : waiting i ui = [] := by
    rw [waiting, hqueue, List.eq_nil_of_length_eq_zero (Nat.le_zero.mp hlen), List.nil_append,
      List.filter_eq_nil_iff.mpr fun x hx => by simpa using hback x hx]
    rfl
  rw [hempty, List.nil_append, todo, List.map_nil, List.append_nil] at hscript
  have hmem : Moment.finished i outcome ∈ script i given o := by
    rw [← hscript]
    exact List.mem_filter.mpr ⟨hfinished, by simp [Moment.run]⟩
  obtain rfl : outcome = o := by simpa [script] using hmem
  exact hscript

end Steps

section Schedules

variable {schedule : Nat → Event ρ ε} {i : Nat} {given : Callbacks}

/-- A worker past its work that keeps getting turns reaches its end. -/
theorem leadsTo_ended (hrec : Fair.Recurs schedule (.worker i)) {worker : Worker ρ ε}
    (hw : worker ≠ .working) :
    Fair.LeadsTo Ui.step Ui.start schedule (fun ui => ui.runs[i]? = some (given, worker))
      fun ui => ∃ n, Ended i given n ui := by
  -- a worker that has its outcome moves on with its own next step, and with no other
  have hkeep : ∀ {worker worker' : Worker ρ ε}, worker ≠ .working →
      (∀ ui : Ui ρ ε, ui.runs[i]? = some (given, worker) →
        (ui.step (.worker i)).runs[i]? = some (given, worker')) →
      Fair.LeadsTo Ui.step Ui.start schedule (fun ui => ui.runs[i]? = some (given, worker))
        fun ui => ui.runs[i]? = some (given, worker') := by
    intro worker worker' hw hnext
    refine Fair.ensures (fun ui event h => ?_) hnext hrec
    by_cases hown : event = .worker i
    · subst hown
      exact Or.inr (hnext ui h)
    · exact Or.inl (runs_step h hw hown)
  have hended : Fair.LeadsTo Ui.step Ui.start schedule
      (fun ui : Ui ρ ε => ui.runs[i]? = some (given, .ended)) fun ui => ∃ n, Ended i given n ui :=
    fun m h => ⟨m, Nat.le_refl m, _, h, _, [], (List.append_nil _).symm, Nat.le_refl _, by simp⟩
  have hfinishing := (hkeep (by simp) fun _ => runs_worker_finishing).trans hended
  cases worker with
  | working => exact absurd rfl hw
  | delivering outcome =>
    exact (hkeep (by simp) fun _ => runs_worker_delivering).trans hfinishing
  | finishing => exact hfinishing
  | ended => exact hended

/-- At its end, a run's callbacks come to the front of the queue and out of it. -/
theorem leadsTo_drained (hrec : Fair.Recurs schedule .tk) :
    Fair.LeadsTo Ui.step Ui.start schedule (fun ui => ∃ n, Ended i given n ui)
      (Ended i given 0) := by
  intro m h
  obtain ⟨n, h⟩ := h
  have hdown : ∀ n,
      Fair.LeadsTo Ui.step Ui.start schedule (Ended i given (n + 1)) (Ended i given n) :=
    fun n => Fair.ensures (fun ui event h => Or.inl (ended_step h event)) (fun ui => ended_tk) hrec
  exact Fair.leadsTo_zero hdown n m h

/-- Every run that was started keeps to its script. -/
theorem kept_along (schedule : Nat → Event ρ ε) {n : Nat} {worker : Worker ρ ε}
    (h : (Fair.along Ui.step Ui.start schedule n).runs[i]? = some (given, worker)) :
    Kept i given (Fair.along Ui.step Ui.start schedule n) := by
  have hall : Unstarted i (Fair.along Ui.step Ui.start schedule n) ∨
      ∃ given, Kept i given (Fair.along Ui.step Ui.start schedule n) := by
    refine Fair.along_always (P := fun ui => Unstarted i ui ∨ ∃ given, Kept i given ui) ?_ ?_ n
    · intro ui event h
      rcases h with h | ⟨given, h⟩
      · exact unstarted_step h event
      · exact Or.inr ⟨given, kept_step h event⟩
    · exact Or.inl ⟨rfl, rfl, rfl⟩
  rcases hall with ⟨hnone, _⟩ | ⟨given', worker', hworker', hstate⟩
  · rw [hnone] at h
    cases h
  · obtain ⟨rfl, rfl⟩ : given' = given ∧ worker' = worker := by
      rw [hworker'] at h
      simpa using h
    exact ⟨_, hworker', hstate⟩

/-- **`run_async` delivers each outcome exactly once and in order.** Whatever the other runs and the
interleaving: what has happened in a run is always a beginning of its script, and once its work has
ended it becomes the whole script, and stays so, if its worker and the Tk thread keep getting
turns. -/
theorem run_async_delivers (schedule : Nat → Event ρ ε) {n i : Nat} {given : Callbacks}
    {worker : Worker ρ ε}
    (h : (Fair.along Ui.step Ui.start schedule n).runs[i]? = some (given, worker)) :
    (about i (Fair.along Ui.step Ui.start schedule n) = [] ∨
      ∃ outcome, about i (Fair.along Ui.step Ui.start schedule n) <+: script i given outcome) ∧
    ∀ outcome, .finished i outcome ∈ (Fair.along Ui.step Ui.start schedule n).history →
      Fair.Recurs schedule (.worker i) → Fair.Recurs schedule .tk →
      ∃ m, n ≤ m ∧ ∀ k, m ≤ k →
        about i (Fair.along Ui.step Ui.start schedule k) = script i given outcome := by
  have hkept := kept_along schedule h
  refine ⟨?_, ?_⟩
  · obtain ⟨_, _, ⟨_, habout, _⟩ | ⟨_, outcome, hscript⟩⟩ := hkept
    · exact Or.inl habout
    · exact Or.inr ⟨outcome, _, hscript⟩
  · intro outcome hfinished hworker htk
    -- at work, the run has no history yet, so it has not finished
    have hw : worker ≠ .working := by
      rintro rfl
      obtain ⟨worker', hworker', ⟨_, habout, _⟩ | ⟨hw', _⟩⟩ := hkept
      · have hmem : Moment.finished i outcome ∈ about i (Fair.along Ui.step Ui.start schedule n) :=
          List.mem_filter.mpr ⟨hfinished, by simp [Moment.run]⟩
        rw [habout] at hmem
        cases hmem
      · rw [hworker'] at h
        exact hw' (by simpa using h)
    obtain ⟨m, hnm, hended⟩ := ((leadsTo_ended hworker hw).trans (leadsTo_drained htk)) n h
    refine ⟨m, hnm, fun k hmk => ?_⟩
    -- from there on the script is complete, because each of its three grounds stays
    have hnk : n ≤ k := Nat.le_trans hnm hmk
    have hkept' : Kept i given (Fair.along Ui.step Ui.start schedule k) :=
      Fair.along_stays (P := Kept i given) (fun ui event h => kept_step h event) hnk hkept
    have hended' : Ended i given 0 (Fair.along Ui.step Ui.start schedule k) :=
      Fair.along_stays (P := Ended i given 0) (fun ui event h => ended_step h event) hmk hended
    have hfinished' : .finished i outcome ∈ (Fair.along Ui.step Ui.start schedule k).history :=
      Fair.along_stays (P := fun ui : Ui ρ ε => .finished i outcome ∈ ui.history)
        (fun ui event h => history_step h event) hnk hfinished
    exact about_of_ended hkept' hended' hfinished'

end Schedules

/-- One run whose work returns 7, its worker and the Tk thread taking turns from then on. -/
def oneRun : Nat → Event Nat String
  | 0 => .runAsync ⟨true, true, true⟩
  | 1 => .finish 0 (.returned 7)
  | n + 2 => if n % 2 = 0 then .worker 0 else .tk

theorem run_async_delivers_oneRun : ∃ m, 2 ≤ m ∧ ∀ k, m ≤ k →
    about 0 (Fair.along Ui.step Ui.start oneRun k) =
      [.finished 0 (.returned 7), .executed .tk 0 (.onSuccess 7), .executed .tk 0 .onDone] := by
  have hstarted : (Fair.along Ui.step Ui.start oneRun 2).runs[0]?
      = some (⟨true, true, true⟩, .delivering (.returned 7)) := rfl
  refine (run_async_delivers oneRun hstarted).2 (.returned 7) (by decide) ?_ ?_
  · intro n
    exact ⟨2 * n + 2, by omega, by simp [oneRun]⟩
  · intro n
    exact ⟨2 * n + 1 + 2, by omega, by simp [oneRun]⟩

end AutoDiag.Proof
