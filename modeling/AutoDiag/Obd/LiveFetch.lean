import AutoDiag.Lib.Call
import AutoDiag.Obd.LiveData

/-!
# A run of the live data: `fetch_live_data`

The adapter is set up, asked for the PIDs that the vehicle supports, and then for each entry
of `pid_map` that is among them. What has been read until an exception is returned.
-/

namespace AutoDiag.LiveData

open Pids (Value)

/-- The serial port, and the dictionary `data`. -/
structure Fetching where
  /-- The port can be opened. -/
  opens : Bool
  /-- Its input buffer can be cleared. -/
  clears : Bool
  /-- The number of writes that go through. -/
  writes : Nat
  /-- The texts that are read in turn; `none` where reading raises. -/
  replies : List (Option Str)
  /-- It can be closed. -/
  closes : Bool
  /-- The commands that have been written, with what was read after each. -/
  exchanges : List (Str × Option Str)
  data : List (String × Option Value)
deriving DecidableEq, Repr

/-- `data` at the start. -/
def noData : List (String × Option Value) :=
  [("RPM", none), ("Vehicle Speed", none), ("Coolant Temp", none), ("Throttle Position", none),
    ("Intake Temp", none), ("MAF Rate", none), ("Fuel Pressure", none),
    ("O2 Sensor (Bank 1)", none)]

/-- `init_cmds`. -/
def initCmds : List Str := ["ATE0", "ATL0", "ATS0", "ATH1", "ATSP3"].map String.toList

/-- `0100`. -/
def supportedCmd : Str := "0100".toList

/-- `pid_cmd`. -/
def Entry.command (e : Entry) : Str := LiveData.command e.pid.toNat

/-! ## The port -/

/-- `serial.Serial(port)` and `reset_input_buffer()`. -/
def openPort : Call Unit Fetching Unit := fun s =>
  if s.opens && s.clears then (.ok (), s) else (.error (), s)

/-- A command is written, and what comes up to the prompt is read; where nothing comes, the text
is empty. -/
def exchange (cmd : Str) : Call Unit Fetching Str := fun s =>
  match s.writes with
  | 0 => (.error (), s)
  | n + 1 =>
    let reply := s.replies.head?.getD (some [])
    let s := { s with
      writes := n
      replies := s.replies.tail
      exchanges := s.exchanges ++ [(cmd, reply)] }
    match reply with
    | none => (.error (), s)
    | some text => (.ok text, s)

def closePort : Call Unit Fetching Unit := fun s =>
  if s.closes then (.ok (), s) else (.error (), s)

/-- `data[label] = value`. -/
def setData (label : String) (value : Value) : Call Unit Fetching Unit := fun s =>
  let data := if s.data.any (·.1 == label)
    then s.data.map fun (l, v) => if l == label then (l, some value) else (l, v)
    else s.data ++ [(label, some value)]
  (.ok (), { s with data := data })

/-! ## The run -/

/-- Every exception ends the run in the same way. -/
def parsed {α : Type} (x : Except Exn α) : Call Unit Fetching α :=
  Call.mapError (Call.ofExcept x) fun _ => ()

/-- The commands that set the adapter up. -/
def setUp : List Str → Call Unit Fetching Unit
  | [] => return ()
  | cmd :: cmds => do
    let _ ← exchange cmd
    setUp cmds

/-- One entry of `pid_map`. -/
def requestEntry (supportedPids : List Str) (e : Entry) : Call Unit Fetching Unit := do
  if supportedPids.contains e.command then
    let text ← exchange e.command
    match ← parsed (e.parser.parse text) with
    | some value => setData e.label value
    | none => return ()
  else return ()

/-- The loop over `pid_map`. -/
def requestEach (supportedPids : List Str) : List Entry → Call Unit Fetching Unit
  | [] => return ()
  | e :: es => do
    requestEntry supportedPids e
    requestEach supportedPids es

/-- What is done over the open port. -/
def ask : Call Unit Fetching Unit := do
  setUp initCmds
  let raw ← exchange supportedCmd
  let supportedPids ← parsed (parseSupportedPids raw)
  requestEach supportedPids pidMap
  closePort

/-- The body of the `try`. -/
def fetch : Call Unit Fetching Unit := do
  openPort
  ask

/-- `fetch_live_data`, up to the log that it writes; what it returns is `data`. -/
def fetchLiveData (s : Fetching) : Fetching := (fetch { s with exchanges := [], data := noData }).2

end AutoDiag.LiveData
