import AutoDiag.Python.Floats

/-!
# Mode 01 values: `protocol/pids.py`

The table of the PIDs and the reading of a value by it. A decoder indexes into
the value bytes without a look at their number.
-/

namespace AutoDiag.Pids

open Py (fdiv fmul fsub index)

/-- `Value`. -/
inductive Value where
  | int (x : Int)
  | float (q : ℚ)
  deriving DecidableEq, Repr

/-- `Pid`. -/
structure Pid where
  pid : Nat
  name : String
  nBytes : Nat
  unit : String
  decode : Bytes → Except Exn Value

/-! ## The decoders -/

/-- `d[0] * 100.0 / 255.0`. -/
def percent (d : Bytes) : Except Exn Value := do
  let a ← index d 0
  return .float (fdiv (fmul a.toNat 100) 255)

/-- `d[0] * 100.0 / 128.0 - 100.0`. -/
def fuelTrim (d : Bytes) : Except Exn Value := do
  let a ← index d 0
  return .float (fsub (fdiv (fmul a.toNat 100) 128) 100)

/-- `d[0] * factor - offset`. -/
def scaled (factor offset : Int) (d : Bytes) : Except Exn Value := do
  let a ← index d 0
  return .int (a.toNat * factor - offset)

/-- `d[0] / divisor`. -/
def quotient (divisor : ℚ) (d : Bytes) : Except Exn Value := do
  let a ← index d 0
  return .float (fdiv a.toNat divisor)

/-- `d[0] / 2.0 - 64.0`. -/
def advance (d : Bytes) : Except Exn Value := do
  let a ← index d 0
  return .float (fsub (fdiv a.toNat 2) 64)

/-- `256 * d[0] + d[1]`. -/
def word (d : Bytes) : Except Exn Nat := do
  let a ← index d 0
  let b ← index d 1
  return 256 * a.toNat + b.toNat

/-- `(256 * d[0] + d[1]) * factor`. -/
def wordTimes (factor : Int) (d : Bytes) : Except Exn Value := do
  let x ← word d
  return .int (x * factor)

/-- `(256 * d[0] + d[1]) / divisor`. -/
def wordQuotient (divisor : ℚ) (d : Bytes) : Except Exn Value := do
  let x ← word d
  return .float (fdiv x divisor)

/-- `PIDS`. -/
def pids : List Pid :=
  [
    ⟨0x04, "Calculated Engine Load", 1, "%", percent⟩,
    ⟨0x05, "Coolant Temperature", 1, "degC", scaled 1 40⟩,
    ⟨0x06, "Short Fuel Trim B1", 1, "%", fuelTrim⟩,
    ⟨0x07, "Long Fuel Trim B1", 1, "%", fuelTrim⟩,
    ⟨0x08, "Short Fuel Trim B2", 1, "%", fuelTrim⟩,
    ⟨0x09, "Long Fuel Trim B2", 1, "%", fuelTrim⟩,
    ⟨0x0A, "Fuel Pressure", 1, "kPa", scaled 3 0⟩,
    ⟨0x0B, "Intake Manifold Pressure", 1, "kPa", scaled 1 0⟩,
    ⟨0x0C, "Engine RPM", 2, "rpm", wordQuotient 4⟩,
    ⟨0x0D, "Vehicle Speed", 1, "km/h", scaled 1 0⟩,
    ⟨0x0E, "Timing Advance", 1, "deg", advance⟩,
    ⟨0x0F, "Intake Air Temperature", 1, "degC", scaled 1 40⟩,
    ⟨0x10, "MAF Air Flow Rate", 2, "g/s", wordQuotient 100⟩,
    ⟨0x11, "Throttle Position", 1, "%", percent⟩,
    ⟨0x14, "O2 Sensor 1 Voltage", 2, "V", quotient 200⟩,
    ⟨0x1F, "Run Time Since Start", 2, "s", wordTimes 1⟩,
    ⟨0x21, "Distance With MIL On", 2, "km", wordTimes 1⟩,
    ⟨0x23, "Fuel Rail Gauge Pressure", 2, "kPa", wordTimes 10⟩,
    ⟨0x2F, "Fuel Level", 1, "%", percent⟩,
    ⟨0x33, "Barometric Pressure", 1, "kPa", scaled 1 0⟩,
    ⟨0x42, "Control Module Voltage", 2, "V", wordQuotient 1000⟩,
    ⟨0x46, "Ambient Air Temperature", 1, "degC", scaled 1 40⟩,
    ⟨0x5C, "Engine Oil Temperature", 1, "degC", scaled 1 40⟩,
    ⟨0x5E, "Engine Fuel Rate", 2, "L/h", wordQuotient 20⟩,
    ⟨0x62, "Actual Engine Torque", 1, "%", scaled 1 125⟩
  ]

/-- `PIDS.get`. -/
def find (pid : Nat) : Option Pid := pids.find? fun spec => spec.pid == pid

/-- `decode_pid`. -/
def decodePid (pid : Nat) (data : Bytes) : Except Exn (Option Value) :=
  match find pid with
  | none => return none
  | some spec =>
    if data.length < spec.nBytes then return none
    else do
      let value ← spec.decode data
      return some value

end AutoDiag.Pids
