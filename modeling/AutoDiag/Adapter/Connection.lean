import AutoDiag.Lib.Call
import AutoDiag.Lib.Pattern
import AutoDiag.Python.Unicode

/-!
# The search for an adapter: `src/adapter/connection.py`

The scan drives `bluetoothctl` through its pipes: it writes commands and reads lines, of
which one may name an OBD2 device. A pipe that breaks, or a line that is no text, ends it
by an exception, and a line that never comes keeps it waiting.
-/

namespace AutoDiag.Adapter

open Pattern

/-- Why a step does not go on; only an exception is caught. -/
inductive Stuck where
  | exception
  | waiting
deriving DecidableEq, Repr

/-- The process, and the global `elm_mac`. -/
structure Bluetoothctl where
  /-- `Popen` finds the program. -/
  starts : Bool
  /-- The lines it prints; `none` is one that cannot be decoded. -/
  output : List (Option Str)
  /-- Whether its output ends after these lines. -/
  ends : Bool
  /-- The number of writes that go through. -/
  writes : Nat
  /-- Whether it can be closed and terminated. -/
  closes : Bool
  /-- What has been written, write by write. -/
  written : List Str
  elmMac : Option Str
deriving DecidableEq, Repr

/-- `OBD2_NAMES`. -/
def obd2Names : List Str :=
  ["OBDII", "OBD-II", "OBD2", "OBD", "ELM327",
    "OBDLink", "OBDLink MX+", "OBDLink LX", "OBDLink EX", "OBDLink SX",
    "Vgate", "Vgate iCar Pro", "Vgate vLinker", "vLinker FS", "vLinker MC+", "vLinker FD",
    "Veepeak", "Veepeak OBDCheck BLE", "Veepeak Mini",
    "BAFX", "Panlong", "OBDMONSTER", "RACOONA", "Car2LS ScanX", "ELS27", "STN1110", "STN1170",
    "STN2120",
    "Micro Mechanic", "THINMI.COM", "KUULAA", "xTool", "KONNWEI", "Mini OBD2", "ELMconfig",
    "VINT-TT55502"].map String.toList

/-! ## The lines -/

/-- `[0-9A-F:]` without regard to case. -/
def isMacChar (c : Char) : Bool := (Hex.value c).isSome || c == ':'

/-- A character of the expression, in either case; `i` is also matched by `ı` and `İ`. -/
def oneOf (forms : String) : Item Char := .one (fun c => forms.toList.contains c) false

/-- `Device ([0-9A-F:]{17}) (.+)` up to the first character of the name. -/
def devicePattern : List (Item Char) :=
  oneOf "Dd" :: oneOf "Ee" :: oneOf "Vv" :: oneOf "Iiİı" :: oneOf "Cc" :: oneOf "Ee"
    :: oneOf " " :: (List.replicate 17 (.one isMacChar true)
      ++ [oneOf " ", .one (· != '\n') false])

/-- The groups of a match at the start of the text. -/
def deviceHere (s : Str) : Option (Str × Str) :=
  (matchHere devicePattern s).map fun mac => (mac, (s.drop 25).takeWhile (· ≠ '\n'))

/-- `re.search(r'Device ([0-9A-F:]{17}) (.+)', line.strip(), re.I)`. -/
def device (line : Str) : Option (Str × Str) := (Py.strip line).tails.findSome? deviceHere

/-- `any(obd_name.lower() in name.lower() for obd_name in OBD2_NAMES)`. -/
def isObd2 (T : Py.LowerCase) (name : Str) : Bool :=
  obd2Names.any fun obdName => Py.isIn (T.lower obdName) (T.lower name)

/-- The address that a line gives for an OBD2 device. -/
def foundIn (T : Py.LowerCase) (line : Str) : Option Str :=
  (device line).bind fun (mac, name) => if isObd2 T name then some mac else none

/-! ## The pipes -/

/-- `Popen`. -/
def popen : Call Stuck Bluetoothctl Unit := fun p =>
  if p.starts then (.ok (), p) else (.error .exception, p)

/-- `send`. -/
def send (cmd : Str) : Call Stuck Bluetoothctl Unit := fun p =>
  match p.writes with
  | 0 => (.error .exception, p)
  | n + 1 => (.ok (), { p with writes := n, written := p.written ++ [cmd ++ ['\n']] })

/-- `process.stdout.readline()`; at the end it returns the empty text. -/
def readline : Call Stuck Bluetoothctl Str := fun p =>
  match p.output with
  | [] => if p.ends then (.ok [], p) else (.error .waiting, p)
  | none :: output => (.error .exception, { p with output := output })
  | some line :: output => (.ok line, { p with output := output })

/-- `process.stdin.close()` and `process.terminate()`. -/
def close : Call Stuck Bluetoothctl Unit := fun p =>
  if p.closes then (.ok (), p) else (.error .exception, p)

/-- `elm_mac = found_mac`. -/
def setElmMac (mac : Str) : Call Stuck Bluetoothctl Unit := fun p =>
  (.ok (), { p with elmMac := some mac })

/-! ## The scan -/

/-- The loop over what the scan prints, of as many turns as the timeout allows. -/
def scanLoop (T : Py.LowerCase) : Nat → Call Stuck Bluetoothctl (Option Str)
  | 0 => return none
  | turns + 1 => do
    let line ← readline
    if line = [] then scanLoop T turns
    else match foundIn T line with
      | some mac => return some mac
      | none => scanLoop T turns

/-- The loop over the known devices, which an empty text ends; it cannot take more turns than
there are lines, and one more. -/
def knownLoop (T : Py.LowerCase) : Nat → Call Stuck Bluetoothctl (Option Str)
  | 0 => .raise .waiting
  | turns + 1 => do
    let line ← readline
    if line = [] then return none
    else match foundIn T line with
      | some mac => return some mac
      | none => knownLoop T turns

/-- Up to `scan off`. -/
def scan (T : Py.LowerCase) (turns : Nat) : Call Stuck Bluetoothctl (Option Str) := do
  send "agent on".toList
  send "power on".toList
  send "default-agent".toList
  send "scan on".toList
  let found ← scanLoop T turns
  send "scan off".toList
  return found

/-- `devices`, if the scan has found none. -/
def search (T : Py.LowerCase) (turns : Nat) : Call Stuck Bluetoothctl (Option Str) := do
  match ← scan T turns with
  | some mac => return some mac
  | none => do
    send "devices".toList
    fun p => knownLoop T (p.output.length + 1) p

/-- The commands for the address. -/
def introduce (mac : Str) : Call Stuck Bluetoothctl Unit := do
  send ("pair ".toList ++ mac)
  send ("trust ".toList ++ mac)
  send ("connect ".toList ++ mac)

/-- What follows when a device has been found. -/
def finish (mac : Str) : Call Stuck Bluetoothctl (Option Str) := do
  introduce mac
  setElmMac mac
  close
  return some mac

/-- The body of the `try`. -/
def attempt (T : Py.LowerCase) (turns : Nat) : Call Stuck Bluetoothctl (Option Str) := do
  popen
  match ← search T turns with
  | some mac => finish mac
  | none => do
    close
    return none

/-- What the caller is given; `none` is a call that never returns. -/
def outcome : Except Stuck (Option Str) → Option (Option Str)
  | .ok found => some found
  | .error .exception => some none
  | .error .waiting => none

/-- `run_bluetoothctl_and_connect_obd2`; the timeout lets the scan take so many turns. -/
def runBluetoothctlAndConnectObd2 (T : Py.LowerCase) (turns : Nat) (p : Bluetoothctl) :
    Option (Option Str) × Bluetoothctl :=
  let (r, p') := attempt T turns p
  (outcome r, p')

end AutoDiag.Adapter
