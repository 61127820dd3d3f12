import Mathlib.Init

/-!
# Work off the Tk thread: `src/utils/ui_worker.py`

Each `run_async` starts a worker thread of its own. A worker never calls a
callback: it hands them to `root.after`, whose queue the Tk thread empties from
the front. `Ui.step` is one step of one of the threads, so a list or a schedule
of events is an interleaving of them.
-/

namespace AutoDiag.Utils

/-- How a `work()` ended. -/
inductive Outcome (ρ ε : Type) where
  | returned (result : ρ)
  | raised (exc : ε)
deriving DecidableEq

/-- Which callbacks a `run_async` was given. -/
structure Callbacks where
  onSuccess : Bool
  onError : Bool
  onDone : Bool
deriving DecidableEq

/-- A callback with its argument bound, as `root.after` gets it. -/
inductive Callback (ρ ε : Type) where
  | onSuccess (result : ρ)
  | onError (exc : ε)
  | onDone
deriving DecidableEq

/-- Where a worker thread is: in `work()`, in the `except` or `else` block, in the `finally` block,
or at its end. -/
inductive Worker (ρ ε : Type) where
  | working
  | delivering (outcome : Outcome ρ ε)
  | finishing
  | ended
deriving DecidableEq

inductive Thread where
  | tk
  | worker (run : Nat)
deriving DecidableEq

/-- What is worth recording: that the work of a run ended, and that a thread called one of the
run's callbacks. -/
inductive Moment (ρ ε : Type) where
  | finished (run : Nat) (outcome : Outcome ρ ε)
  | executed (thread : Thread) (run : Nat) (callback : Callback ρ ε)
deriving DecidableEq

def Moment.run {ρ ε : Type} : Moment ρ ε → Nat
  | .finished run _ => run
  | .executed _ run _ => run

/-- The threads and the queue of one root; run `i` is the `i`-th `run_async`. `history` is
proof-only: nothing reads it. -/
structure Ui (ρ ε : Type) where
  runs : List (Callbacks × Worker ρ ε)
  queue : List (Nat × Callback ρ ε)
  history : List (Moment ρ ε)

/-- One step of one thread: a call of `run_async`, the end of a run's `work()`, the next block of a
run's worker, or one callback on the Tk thread. -/
inductive Event (ρ ε : Type) where
  | runAsync (callbacks : Callbacks)
  | finish (run : Nat) (outcome : Outcome ρ ε)
  | worker (run : Nat)
  | tk

namespace Ui

variable {ρ ε : Type}

def start : Ui ρ ε := { runs := [], queue := [], history := [] }

/-- `root.after(0, f)`. -/
def after (ui : Ui ρ ε) (run : Nat) (callback : Callback ρ ε) : Ui ρ ε :=
  { ui with queue := ui.queue ++ [(run, callback)] }

/-- The callback a block of the worker hands over, if the caller gave it. -/
def afterIf (ui : Ui ρ ε) (given : Bool) (run : Nat) (callback : Callback ρ ε) : Ui ρ ε :=
  if given then ui.after run callback else ui

def setWorker (ui : Ui ρ ε) (run : Nat) (callbacks : Callbacks) (worker : Worker ρ ε) : Ui ρ ε :=
  { ui with runs := ui.runs.set run (callbacks, worker) }

/-- `thread` calls the callback. -/
def execute (ui : Ui ρ ε) (thread : Thread) (run : Nat) (callback : Callback ρ ε) : Ui ρ ε :=
  { ui with history := ui.history ++ [.executed thread run callback] }

/-- One step; an event whose thread is elsewhere changes nothing. -/
def step (ui : Ui ρ ε) : Event ρ ε → Ui ρ ε
  | .runAsync callbacks => { ui with runs := ui.runs ++ [(callbacks, .working)] }
  | .finish run outcome =>
    match ui.runs[run]? with
    | some (callbacks, .working) =>
      { ui.setWorker run callbacks (.delivering outcome) with
        history := ui.history ++ [.finished run outcome] }
    | _ => ui
  | .worker run =>
    match ui.runs[run]? with
    | some (callbacks, .delivering (.raised exc)) =>
      (ui.afterIf callbacks.onError run (.onError exc)).setWorker run callbacks .finishing
    | some (callbacks, .delivering (.returned result)) =>
      (ui.afterIf callbacks.onSuccess run (.onSuccess result)).setWorker run callbacks .finishing
    | some (callbacks, .finishing) =>
      (ui.afterIf callbacks.onDone run .onDone).setWorker run callbacks .ended
    | _ => ui
  | .tk =>
    match ui.queue with
    | [] => ui
    | (run, callback) :: rest => { ui with queue := rest }.execute .tk run callback

end Ui

/-! ## The spinner

A spinner keeps going by handing its own `_tick` to `root.after`, which nothing takes
back. A method returns the delays of the ticks it hands over.
-/

structure Label where
  alive : Bool
  text : String
deriving DecidableEq

namespace Label

/-- `config(text=..)`. -/
def config (label : Label) (text : String) : Label := { label with text := text }

def destroy (label : Label) : Label := { label with alive := false }

end Label

structure TkSpinner where
  task : String
  interval : Nat
  running : Bool
  i : Nat
deriving DecidableEq

namespace TkSpinner

/-- `TkSpinner(root, label, task_name, interval_ms)`. -/
def new (taskName : String) (intervalMs : Nat := 100) : TkSpinner :=
  { task := taskName, interval := intervalMs, running := false, i := 0 }

/-- `FRAMES`. -/
def frames : List Char := ['⠋', '⠙', '⠹', '⠸', '⠼', '⠴', '⠦', '⠧', '⠇', '⠏']

def frame (s : TkSpinner) : String := String.singleton (frames.getD (s.i % frames.length) ' ')

/-- `_tick`; where `vanishes`, the label goes away between the check and `config`. -/
def tick (s : TkSpinner) (label : Label) (vanishes : Bool) : TkSpinner × Label × List Nat :=
  if !s.running then (s, label, [])
  else if !label.alive then (s, label, [])
  else if vanishes then (s, label.destroy, [])
  else ({ s with i := s.i + 1 }, label.config (s.task ++ "... " ++ s.frame), [s.interval])

def start (s : TkSpinner) (label : Label) (vanishes : Bool) : TkSpinner × Label × List Nat :=
  tick { s with running := true, i := 0 } label vanishes

def stop (s : TkSpinner) (label : Label) (clear vanishes : Bool) : TkSpinner × Label :=
  let s := { s with running := false }
  if !clear || !label.alive then (s, label)
  else if vanishes then (s, label.destroy)
  else (s, label.config "")

end TkSpinner

/-- A spinner, its label and its root: the time, when each pending `_tick` is due, and, proof-only,
when the frame index advanced since the last `start`, latest first. -/
structure Spinning where
  spinner : TkSpinner
  label : Label
  now : Nat
  pending : List Nat
  advanced : List Nat

/-- The methods are called, a pending tick is called at any time from its own on, the label is
destroyed, and time goes by. -/
inductive SpinEvent where
  | start (vanishes : Bool)
  | stop (clear vanishes : Bool)
  | fire (tick : Nat) (vanishes : Bool)
  | destroy
  | wait (ms : Nat)
deriving DecidableEq

namespace Spinning

def new (taskName : String) (intervalMs : Nat) (label : Label) : Spinning :=
  { spinner := .new taskName intervalMs, label := label, now := 0, pending := [], advanced := [] }

/-- What a call of `_tick` or of `start` leaves. -/
def ticked (s : Spinning) (result : TkSpinner × Label × List Nat) : Spinning :=
  let (spinner, label, delays) := result
  { s with
    spinner := spinner, label := label
    pending := s.pending ++ delays.map (s.now + ·)
    advanced := delays.map (fun _ => s.now) ++ s.advanced }

/-- One event; a tick that is not there or not due does not fire. -/
def step (s : Spinning) : SpinEvent → Spinning
  | .start vanishes => { s with advanced := [] }.ticked (s.spinner.start s.label vanishes)
  | .stop clear vanishes =>
    let (spinner, label) := s.spinner.stop s.label clear vanishes
    { s with spinner := spinner, label := label }
  | .fire tick vanishes =>
    match s.pending[tick]? with
    | some due =>
      if due ≤ s.now then
        { s with pending := s.pending.eraseIdx tick }.ticked (s.spinner.tick s.label vanishes)
      else s
    | none => s
  | .destroy => { s with label := s.label.destroy }
  | .wait ms => { s with now := s.now + ms }

end Spinning

end AutoDiag.Utils
