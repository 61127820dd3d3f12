import AutoDiag.Protocol.Obd2

/-!
# The simulated ECU

What `simulator/ecu_sim.py` answers to one request. The socket and the thread
that serves it are not part of this model.
-/

namespace AutoDiag

/-- `SimulatedEcu`, as far as its answers depend on it. -/
structure SimulatedEcu where
  vin : Str
  dtcs : List Str

namespace SimulatedEcu

/-- `_MODE01`. -/
def mode01 : List (UInt8 × Bytes) :=
  [(0x04, [0x7F]), (0x05, [0x5A]), (0x0C, [0x1A, 0xF8]), (0x0D, [0x50]), (0x0F, [0x46]),
    (0x11, [0x33])]

/-- `_supported_bitmap`. -/
def supportedBitmap (base : Nat) (supported : List Nat) : Bytes :=
  Py.toBytesBig 4 ((List.range 32).foldl
    (fun bits i => if base + i + 1 ∈ supported then bits ||| 1 <<< (31 - i) else bits) 0)

/-- The loop of `_handle` over the stored codes. -/
def encodeAll : List Str → Except Exn Bytes
  | [] => .ok []
  | code :: codes => do
    let pair ← Dtc.encodeDtc code
    let more ← encodeAll codes
    return pair ++ more

/-- The mode 01 branch of `_handle`, or the refusal at its end. -/
def currentData (mode pid : UInt8) : Bytes :=
  if pid = 0x00 ∨ pid = 0x20 ∨ pid = 0x40 then
    [0x41, pid] ++ supportedBitmap pid.toNat (mode01.map fun entry => entry.1.toNat)
  else
    match mode01.lookup pid with
    | some value => [0x41, pid] ++ value
    | none => [0x7F, mode, 0x12]

/-- `_handle`; it never answers `None`. -/
def handle (ecu : SimulatedEcu) (req : Bytes) : Except Exn Bytes := do
  let mode ← Py.index req 0
  if mode = 0x09 ∧ req[1]? = some 0x02 then
    return [0x49, 0x02, 0x01] ++ (← Py.encodeAscii ecu.vin)
  else if mode = 0x03 then
    let count ← Py.toArrayByte ecu.dtcs.length
    let body ← encodeAll ecu.dtcs
    return 0x43 :: count :: body
  else
    match decide (mode = 0x01), req[1]? with
    | true, some pid => return currentData mode pid
    | _, _ => return [0x7F, mode, 0x12]

end SimulatedEcu

end AutoDiag
