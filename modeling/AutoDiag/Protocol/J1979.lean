import AutoDiag.Protocol.Obd2
import AutoDiag.Protocol.Pids

/-!
# The diagnostic modes of SAE J1979: `protocol/obd2.py`

Every operation sends its request to all ECUs and goes through their replies. It
looks at the length of a reply before it indexes into it.
-/

namespace AutoDiag.Obd2

open Pids (Value decodePid)

variable {σ : Type}

/-- The first bytes of a reply, one after another, until one differs. -/
def echoes (d : Bytes) (i : Nat) : Bytes → Except Exn Bool
  | [] => return true
  | b :: bs => do
    if (← Py.index d i) = b then echoes d (i + 1) bs else return false

/-- `len(d) >= n and d[0] == .. and d[1] == ..`. -/
def answersTo (d : Bytes) (n : Nat) (expected : Bytes) : Except Exn Bool :=
  if n ≤ d.length then echoes d 0 expected else return false

/-! ## Mode 0x01: current data -/

/-- The first value that one of the payloads has. -/
def firstValue (pid : Nat) : List Bytes → Except Exn (Option Value)
  | [] => return Option.none
  | d :: ds => do
    match ← decodePid pid (d.drop 2) with
    | some value => return some value
    | .none => firstValue pid ds

/-- `read_pid`. -/
def readPid (transport : Transport σ) (pid : Int) : Call Exn σ (Option Value) := do
  let req ← Call.ofExcept (Py.bytesOf [0x01, pid])
  let responses ← transport.request req true
  Call.ofExcept (firstValue pid.toNat (positive responses 0x01 (some (Py.lowByte pid))))

/-- `d[2:6]` of the first payload that is long enough. -/
def firstBitmap (payloads : List Bytes) : Option Bytes :=
  (payloads.find? fun d => 6 ≤ d.length).map fun d => Py.slice d 2 6

/-- The PIDs of a bitmap, `base + i + 1` for the bit `31 - i`. -/
def pidsOf (base bits : Nat) : List Nat :=
  ((List.range 32).filter fun i => bits.testBit (31 - i)).map fun i => base + i + 1

/-- The walk of `read_supported_pids` from one of the bases on. -/
def supportedFrom (transport : Transport σ) : List Nat → Call Exn σ (List Nat)
  | [] => return []
  | base :: bases => do
    let req ← Call.ofExcept (Py.bytesOf [0x01, (base : Int)])
    let responses ← transport.request req true
    match firstBitmap (positive responses 0x01 (some (UInt8.ofNat base))) with
    | .none => return []
    | some bitmap =>
      let bits := Py.ofBytesBig bitmap
      if bits.testBit 0 then do -- the next range is supported
        let more ← supportedFrom transport bases
        return pidsOf base bits ++ more
      else return pidsOf base bits

/-- `read_supported_pids`; the set, in order. -/
def readSupportedPids (transport : Transport σ) : Call Exn σ (List Nat) :=
  supportedFrom transport [0x00, 0x20, 0x40, 0x60, 0x80, 0xA0, 0xC0, 0xE0]

/-- `str(value)`, of a float with two decimals and without the zeros at its end. -/
def shown : Value → Str
  | .int x => (toString x).toList
  | .float q => Py.rstripChar (Py.rstripChar (Py.fixed2 q) '0') '.'

/-- `out[name] = text`. -/
def setItem (out : List (String × Str)) (name : String) (text : Str) : List (String × Str) :=
  if out.any (·.1 == name) then out.map fun e => if e.1 == name then (name, text) else e
  else out ++ [(name, text)]

/-- One PID of `scan_live_data`. -/
def scanPid (transport : Transport σ) (out : List (String × Str)) (pid : Nat) :
    Call Exn σ (List (String × Str)) :=
  match Pids.find pid with
  | .none => return out
  | some spec => do
    match ← readPid transport pid with
    | .none => return out
    | some value =>
      return setItem out spec.name (Py.strip (shown value ++ ' ' :: spec.unit.toList))

/-- `scan_live_data`. -/
def scanLiveData (transport : Transport σ) : Call Exn σ (List (String × Str)) := do
  let pids ← readSupportedPids transport
  pids.foldlM (scanPid transport) []

/-! ## Mode 0x02: freeze frames -/

/-- The value of the first reply for the PID and the frame. -/
def frozenValue (pid frame : UInt8) : List EcuResponse → Except Exn (Option Value)
  | [] => return Option.none
  | r :: rs => do
    if ← answersTo r.data 3 [0x42, pid, frame] then decodePid pid.toNat (r.data.drop 3)
    else frozenValue pid frame rs

/-- `read_freeze_frame`. -/
def readFreezeFrame (transport : Transport σ) (pid : Int) (frame : Int := 0) :
    Call Exn σ (Option Value) := do
  let req ← Call.ofExcept (Py.bytesOf [0x02, pid, frame])
  let responses ← transport.request req true
  Call.ofExcept (frozenValue (Py.lowByte pid) (Py.lowByte frame) responses)

/-! ## Modes 0x03, 0x07 and 0x0A: trouble codes -/

/-- `decode_dtc(body[i], body[i + 1])`, at the pair `j`. -/
def codeAt (body : Bytes) (j : Nat) : Except Exn Str := do
  let hi ← Py.index body (2 * j)
  let lo ← Py.index body (2 * j + 1)
  return Dtc.decodeDtc hi lo

/-- `_parse_dtc_payload`, with the indices its loop takes. -/
def parseDtcPayloadIndexed (data : Bytes) : Except Exn (List Str) :=
  if data.length < 2 then return []
  else do
    let count ← Py.index data 1
    let body := data.drop 2
    let usable := min (count.toNat * 2) (body.length - body.length % 2)
    let codes ← (List.range (usable / 2)).mapM (codeAt body)
    return codes.filter (· ≠ Dtc.none)

/-- `_read_dtcs`. -/
def readDtcsIndexed (transport : Transport σ) (mode : UInt8) : Call Exn σ (List Str) := do
  let responses ← transport.request [mode] true
  let codes ← Call.ofExcept ((positive responses mode .none).mapM parseDtcPayloadIndexed)
  return codes.flatten

/-- `read_pending_dtcs`. -/
def readPendingDtcs (transport : Transport σ) : Call Exn σ (List Str) :=
  readDtcsIndexed transport 0x07

/-- `read_permanent_dtcs`. -/
def readPermanentDtcs (transport : Transport σ) : Call Exn σ (List Str) :=
  readDtcsIndexed transport 0x0A

/-! ## Mode 0x04: clear trouble codes -/

/-- A reply to mode 04 is among them. -/
def acknowledged : List EcuResponse → Except Exn Bool
  | [] => return false
  | r :: rs => do
    if ← answersTo r.data 1 [0x44] then return true else acknowledged rs

/-- `clear_dtcs`. -/
def clearDtcs (transport : Transport σ) : Call Exn σ Bool := do
  let responses ← transport.request [0x04] true
  Call.ofExcept (acknowledged responses)

/-! ## Mode 0x06: monitor test results -/

/-- One record of mode 06. -/
structure TestResult where
  obdmid : UInt8
  tid : UInt8
  unitScaling : UInt8
  value : Nat
  min : Nat
  max : Nat
  deriving DecidableEq, Repr

/-- `(rec[i] << 8) | rec[i + 1]`. -/
def recordWord (rec : Bytes) (i : Nat) : Except Exn Nat := do
  let hi ← Py.index rec i
  let lo ← Py.index rec (i + 1)
  return hi.toNat <<< 8 ||| lo.toNat

/-- A record of nine bytes. -/
def testResult (rec : Bytes) : Except Exn TestResult := do
  let obdmid ← Py.index rec 0
  let tid ← Py.index rec 1
  let unitScaling ← Py.index rec 2
  return ⟨obdmid, tid, unitScaling, ← recordWord rec 3, ← recordWord rec 5, ← recordWord rec 7⟩

/-- The records of a body; what is left over at its end is skipped. -/
def testResults (body : Bytes) : Except Exn (List TestResult) :=
  (List.range (body.length / 9)).mapM fun j => testResult (Py.slice body (9 * j) (9 * j + 9))

/-- `read_monitor_test_results`. -/
def readMonitorTestResults (transport : Transport σ) (obdmid : Int) :
    Call Exn σ (List TestResult) := do
  let req ← Call.ofExcept (Py.bytesOf [0x06, obdmid])
  let responses ← transport.request req true
  let results ← Call.ofExcept
    ((positive responses 0x06 .none).mapM fun d => testResults (d.drop 1))
  return results.flatten

/-! ## Mode 0x08: control of an on-board system -/

/-- What follows the echo in the first reply for the test. -/
def controlled (tid : UInt8) : List EcuResponse → Except Exn (Option Bytes)
  | [] => return Option.none
  | r :: rs => do
    if ← answersTo r.data 2 [0x48, tid] then return some (r.data.drop 2) else controlled tid rs

/-- `request_control`. -/
def requestControl (transport : Transport σ) (tid : Int) (data : Bytes := []) :
    Call Exn σ (Option Bytes) := do
  let req ← Call.ofExcept (Py.bytesOf [0x08, tid])
  let responses ← transport.request (req ++ data) true
  Call.ofExcept (controlled (Py.lowByte tid) responses)

/-! ## Mode 0x09: vehicle information -/

/-- The printable characters of a payload, without the blanks around them. -/
def infoText (raw : Bytes) : Str :=
  Py.strip (Py.decodeAscii (raw.filter fun b => 0x20 ≤ b && b ≤ 0x7E))

/-- The first text that is not empty. -/
def firstText (pid : UInt8) : List EcuResponse → Except Exn (Option Str)
  | [] => return Option.none
  | r :: rs => do
    if ← answersTo r.data 3 [0x49, pid] then
      let text := infoText (r.data.drop 3)
      if text ≠ [] then return some text else firstText pid rs
    else firstText pid rs

/-- `_read_info_string`. -/
def readInfoString (transport : Transport σ) (pid : UInt8) : Call Exn σ (Option Str) := do
  let responses ← transport.request [0x09, pid] true
  Call.ofExcept (firstText pid responses)

/-- `read_vin`. -/
def readVin (transport : Transport σ) : Call Exn σ (Option Str) := readInfoString transport 0x02

/-- `read_calibration_ids`. -/
def readCalibrationIds (transport : Transport σ) : Call Exn σ (Option Str) :=
  readInfoString transport 0x04

/-- The data of the first reply, in hexadecimal. -/
def verificationNumber : List EcuResponse → Except Exn (Option Str)
  | [] => return Option.none
  | r :: rs => do
    if ← answersTo r.data 3 [0x49, 0x06] then
      let text := Hex.ofBytes (r.data.drop 3)
      return if text = [] then Option.none else some text
    else verificationNumber rs

/-- `read_cvn`. -/
def readCvn (transport : Transport σ) : Call Exn σ (Option Str) := do
  let responses ← transport.request [0x09, 0x06] true
  Call.ofExcept (verificationNumber responses)

end AutoDiag.Obd2
