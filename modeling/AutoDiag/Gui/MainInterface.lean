import AutoDiag.Utils.UiWorker

/-!
# The live data screen: `src/gui/main_interface.py`

The screen fetches when it is opened and again at each click on Rerun. Every fetch
has a spinner of its own and a `run_async`, and its `on_done` stops the spinner
that `self._spinner` refers to by then. The label is there all along.
-/

namespace AutoDiag.Gui

open Utils

/-- The spinners are numbered as they are made; `spinner` is the number of `self._spinner`, and
`ticks` are those of the spinners whose `_tick`s are pending. -/
structure LibreDiagnosticGUI (ρ ε : Type) where
  loadingLabel : Label
  packed : Bool
  spinners : List TkSpinner
  spinner : Option Nat
  ticks : List Nat
  ui : Ui ρ ε

/-- A fetch is started, by `show_live_data_menu` or by Rerun, a thread of one goes on, and the Tk
thread calls the next callback or a pending tick. -/
inductive GuiEvent (ρ ε : Type) where
  | fetch
  | finish (run : Nat) (outcome : Outcome ρ ε)
  | worker (run : Nat)
  | callback
  | tick (pending : Nat)
deriving DecidableEq

namespace LibreDiagnosticGUI

variable {ρ ε : Type}

def start : LibreDiagnosticGUI ρ ε :=
  { loadingLabel := { alive := true, text := "" }, packed := false, spinners := [], spinner := none,
    ticks := [], ui := .start }

/-- `_start_live_fetch`. -/
def startLiveFetch (gui : LibreDiagnosticGUI ρ ε) : LibreDiagnosticGUI ρ ε :=
  let number := gui.spinners.length
  let (spinner, label, delays) :=
    (TkSpinner.new "Fetching Live Data").start gui.loadingLabel false
  { loadingLabel := label
    packed := true
    spinners := gui.spinners ++ [spinner]
    spinner := some number
    ticks := gui.ticks ++ delays.map fun _ => number
    ui := gui.ui.step (.runAsync { onSuccess := true, onError := true, onDone := true }) }

/-- `_stop_spinner`. -/
def stopSpinner (gui : LibreDiagnosticGUI ρ ε) : LibreDiagnosticGUI ρ ε :=
  let gui := match gui.spinner with
    | some number => match gui.spinners[number]? with
      | some spinner =>
        let (spinner, label) := spinner.stop gui.loadingLabel true false
        { gui with spinners := gui.spinners.set number spinner, loadingLabel := label }
      | none => gui
    | none => gui
  if gui.loadingLabel.alive then { gui with packed := false } else gui

/-- A pending tick is called. -/
def callTick (gui : LibreDiagnosticGUI ρ ε) (pending : Nat) : LibreDiagnosticGUI ρ ε :=
  match gui.ticks[pending]? with
  | some number => match gui.spinners[number]? with
    | some spinner =>
      let (spinner, label, delays) := spinner.tick gui.loadingLabel false
      { gui with
        loadingLabel := label, spinners := gui.spinners.set number spinner
        ticks := gui.ticks.eraseIdx pending ++ delays.map fun _ => number }
    | none => gui
  | none => gui

/-- One step. `on_success` and `on_error` touch other widgets only. -/
def step (gui : LibreDiagnosticGUI ρ ε) : GuiEvent ρ ε → LibreDiagnosticGUI ρ ε
  | .fetch => gui.startLiveFetch
  | .finish run outcome => { gui with ui := gui.ui.step (.finish run outcome) }
  | .worker run => { gui with ui := gui.ui.step (.worker run) }
  | .callback =>
    let called := { gui with ui := gui.ui.step .tk }
    match gui.ui.queue with
    | (_, .onDone) :: _ => called.stopSpinner
    | _ => called
  | .tick pending => gui.callTick pending

end LibreDiagnosticGUI

end AutoDiag.Gui
