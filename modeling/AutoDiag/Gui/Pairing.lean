import AutoDiag.Adapter.Connection
import AutoDiag.Adapter.Initialization

/-!
# Scan and Connect: `src/gui/main_interface.py`

A click on Scan runs the scan in a thread. A click on Connect asks for the password and
starts a thread that reads `connection.elm_mac` when it comes to run.
-/

namespace AutoDiag.Gui

open Adapter

/-- `written` is what any scan has written, `binding` holds the passwords of the threads that are
still to bind, and `ran` the programs that have been run. -/
structure Pairing where
  elmMac : Option Str
  written : List Str
  binding : List Str
  ran : List Program

/-- A scan of a process, a click on Connect with what is typed for the password, and a thread that
binds. -/
inductive PairingEvent where
  | scan (turns : Nat) (process : Bluetoothctl)
  | connect (sudoPass : Option Str)
  | bind (thread : Nat) (results : List (Option Int))

namespace Pairing

def start : Pairing := ⟨none, [], [], []⟩

/-- The work of `start_scan_thread`. -/
def scan (T : Py.LowerCase) (s : Pairing) (turns : Nat) (process : Bluetoothctl) : Pairing :=
  let p := (runBluetoothctlAndConnectObd2 T turns
    { process with written := s.written, elmMac := s.elmMac }).2
  { s with elmMac := p.elmMac, written := p.written }

/-- `start_bind_thread`. -/
def startBindThread (s : Pairing) (sudoPass : Option Str) : Pairing :=
  match s.elmMac, sudoPass with
  | some _, some password =>
    if password = [] then s else { s with binding := s.binding ++ [password] }
  | _, _ => s

/-- The work of the thread. -/
def bind (s : Pairing) (thread : Nat) (results : List (Option Int)) : Pairing :=
  match s.binding[thread]? with
  | some password =>
    { s with
      binding := s.binding.eraseIdx thread
      ran := (runRfcommBinding s.elmMac (some password) ⟨results, s.ran⟩).2.ran }
  | none => s

def step (T : Py.LowerCase) (s : Pairing) : PairingEvent → Pairing
  | .scan turns process => s.scan T turns process
  | .connect sudoPass => s.startBindThread sudoPass
  | .bind thread results => s.bind thread results

end Pairing

end AutoDiag.Gui
