import AutoDiag.Protocol.Client
import AutoDiag.Protocol.Obd2

/-!
# ISO 14229-1 services

`UDSClient`: each service builds its request, sends it and takes the answer
apart. Building comes first, so a request whose bytes are out of range is never
sent.
-/

namespace AutoDiag.Uds

variable {σ : Type}

/-- `UDSClient`. -/
def client (transport : Transport σ) (maxPending : Nat) : Client σ :=
  ⟨.uds, transport, maxPending⟩

/-! ## Requests of one shape -/

/-- `_subfn`; 0x80 is `SUPPRESS_POS_RSP_BIT`. -/
def subfn (value : Int) (suppress : Bool) : Int := if suppress then Int.lor value 0x80 else value

/-- A service whose positive response can be suppressed. -/
def suppressible (c : Client σ) (sid : UInt8) (subfunction : Int) (data : List Int) (more : Bytes)
    (suppressResponse : Bool) : Call Exn σ Bytes := do
  let req ← Call.ofExcept (Py.bytesOf (subfn subfunction suppressResponse :: data))
  c.send sid (req ++ more) !suppressResponse

/-- A service with one byte, most often a sub-function, and what follows it. -/
def withByte (c : Client σ) (sid : UInt8) (x : Int) (data : Bytes) : Call Exn σ Bytes := do
  let b ← Call.ofExcept (Py.bytesOf [x])
  c.send sid (b ++ data) true

/-- The two bytes of a data identifier. -/
def didBytes (did : Int) : Bytes := [Py.lowByte (did >>> (8 : Nat)), Py.lowByte did]

/-- `alfid` after the bytes `first`, then address and size in as many bytes as it says. -/
def addressed (first : List Int) (address size addrBytes sizeBytes : Int) : Except Exn Bytes := do
  let alfid := Int.lor (sizeBytes <<< (4 : Nat)) addrBytes
  let head ← Py.bytesOf (first ++ [alfid])
  let a ← Py.intToBytesBig address addrBytes
  let s ← Py.intToBytesBig size sizeBytes
  return head ++ a ++ s

/-! ## Trouble codes -/

/-- `_STATUS_BITS`. -/
def statusBits : List String :=
  ["testFailed", "testFailedThisOperationCycle", "pendingDTC", "confirmedDTC",
    "testNotCompletedSinceLastClear", "testFailedSinceLastClear",
    "testNotCompletedThisOperationCycle", "warningIndicatorRequested"]

/-- `decode_dtc_status`. -/
def decodeDtcStatus (status : UInt8) : List (String × Bool) :=
  statusBits.zipIdx.map fun (name, i) => (name, status.toNat.testBit i)

/-- `decode_uds_dtc`. -/
def decodeUdsDtc (hi mid lo : UInt8) : Str := Dtc.decodeDtc hi mid ++ '-' :: Hex.ofByte lo

/-- One record of 0x19/0x02. -/
structure DtcRecord where
  code : Str
  status : UInt8
  flags : List (String × Bool)
  deriving DecidableEq, Repr

/-- One record of 0x19/0x0A. -/
structure SupportedDtc where
  code : Str
  status : UInt8
  deriving DecidableEq, Repr

/-- The loop over the records of four bytes; an incomplete last one is skipped. -/
def eachRecord {α : Type} (records : Bytes) (f : UInt8 → UInt8 → UInt8 → UInt8 → α) :
    Except Exn (List α) :=
  (List.range (records.length / 4)).mapM fun j => do
    let i := 4 * j
    return f (← Py.index records i) (← Py.index records (i + 1)) (← Py.index records (i + 2))
      (← Py.index records (i + 3))

/-! ## The services -/

/-- What 0x10 returns. -/
structure SessionTiming where
  session : Int
  p2Ms : Option Nat
  p2StarMs : Option Nat
  deriving DecidableEq, Repr

/-- 0x10; the timings are there when the answer is long enough for them. -/
def diagnosticSessionControl (c : Client σ) (session : Int) (suppressResponse : Bool := false) :
    Call Exn σ SessionTiming := do
  let data ← suppressible c 0x10 session [] [] suppressResponse
  if 5 ≤ data.length then
    let b1 ← Call.ofExcept (Py.index data 1)
    let b2 ← Call.ofExcept (Py.index data 2)
    let b3 ← Call.ofExcept (Py.index data 3)
    let b4 ← Call.ofExcept (Py.index data 4)
    return ⟨session, some (b1.toNat <<< 8 ||| b2.toNat), some ((b3.toNat <<< 8 ||| b4.toNat) * 10)⟩
  else return ⟨session, none, none⟩

/-- 0x11. -/
def ecuReset (c : Client σ) (resetType : Int := 0x01) (suppressResponse : Bool := false) :
    Call Exn σ Bytes :=
  suppressible c 0x11 resetType [] [] suppressResponse

/-- 0x14. -/
def clearDiagnosticInformation (c : Client σ) (group : Int := 0xFFFFFF) :
    Call Exn σ Unit := do
  let _ ← c.send 0x14 [Py.lowByte (group >>> (16 : Nat)), Py.lowByte (group >>> (8 : Nat)),
    Py.lowByte group] true
  return ()

/-- 0x19. -/
def readDtcInformation (c : Client σ) (subfunction : Int) (data : Bytes := []) :
    Call Exn σ Bytes :=
  withByte c 0x19 subfunction data

/-- 0x19/0x02; sub-function and availability mask are skipped. -/
def readDtcsByStatusMask (c : Client σ) (statusMask : Int := 0xFF) :
    Call Exn σ (List DtcRecord) := do
  let mask ← Call.ofExcept (Py.bytesOf [statusMask])
  let data ← readDtcInformation c 0x02 mask
  Call.ofExcept (eachRecord (data.drop 2) fun hi mid lo status =>
    ⟨decodeUdsDtc hi mid lo, status, decodeDtcStatus status⟩)

/-- 0x19/0x0A. -/
def readSupportedDtcs (c : Client σ) : Call Exn σ (List SupportedDtc) := do
  let data ← readDtcInformation c 0x0A []
  Call.ofExcept (eachRecord (data.drop 2) fun hi mid lo status =>
    ⟨decodeUdsDtc hi mid lo, status⟩)

/-- 0x22; the echoed identifier is stripped. -/
def readDataByIdentifier (c : Client σ) (did : Int) : Call Exn σ Bytes := do
  let data ← c.send 0x22 [Py.lowByte (did >>> (8 : Nat)), Py.lowByte did] true
  return if 2 ≤ data.length then data.drop 2 else []

/-- 0x23. -/
def readMemoryByAddress (c : Client σ) (address size : Int) (addrBytes : Int := 4)
    (sizeBytes : Int := 2) : Call Exn σ Bytes := do
  let req ← Call.ofExcept (addressed [] address size addrBytes sizeBytes)
  c.send 0x23 req true

/-- 0x24. -/
def readScalingDataByIdentifier (c : Client σ) (did : Int) : Call Exn σ Bytes :=
  c.send 0x24 (didBytes did) true

/-- 0x27, odd sub-function; the echoed level is stripped. -/
def securityAccessRequestSeed (c : Client σ) (level : Int) : Call Exn σ Bytes := do
  let subfunction ← Call.ofExcept (Py.toByte level)
  let data ← c.send 0x27 [subfunction] true
  return data.drop 1

/-- 0x27, even sub-function. -/
def securityAccessSendKey (c : Client σ) (level : Int) (key : Bytes) : Call Exn σ Unit := do
  let subfunction ← Call.ofExcept (Py.toByte (level + 1))
  let _ ← c.send 0x27 (subfunction :: key) true
  return ()

/-- 0x28. -/
def communicationControl (c : Client σ) (controlType : Int) (communicationType : Int := 0x01)
    (suppressResponse : Bool := false) : Call Exn σ Bytes :=
  suppressible c 0x28 controlType [communicationType] [] suppressResponse

/-- 0x29. -/
def authentication (c : Client σ) (subfunction : Int) (data : Bytes := []) : Call Exn σ Bytes :=
  withByte c 0x29 subfunction data

/-- 0x2A. -/
def readDataByPeriodicIdentifier (c : Client σ) (transmissionMode : Int) (periodicDids : Bytes) :
    Call Exn σ Bytes :=
  withByte c 0x2A transmissionMode periodicDids

/-- 0x2C. -/
def dynamicallyDefineDataIdentifier (c : Client σ) (subfunction : Int) (data : Bytes) :
    Call Exn σ Bytes :=
  withByte c 0x2C subfunction data

/-- 0x2E. -/
def writeDataByIdentifier (c : Client σ) (did : Int) (data : Bytes) : Call Exn σ Unit := do
  let _ ← c.send 0x2E (didBytes did ++ data) true
  return ()

/-- 0x2F. -/
def ioControlByIdentifier (c : Client σ) (did controlParameter : Int)
    (controlState : Bytes := []) :
    Call Exn σ Bytes := do
  let b ← Call.ofExcept (Py.bytesOf [controlParameter])
  c.send 0x2F (didBytes did ++ b ++ controlState) true

/-- 0x31. -/
def routineControl (c : Client σ) (controlType routineId : Int) (data : Bytes := []) :
    Call Exn σ Bytes :=
  withByte c 0x31 controlType (didBytes routineId ++ data)

def startRoutine (c : Client σ) (routineId : Int) (data : Bytes := []) : Call Exn σ Bytes :=
  routineControl c 0x01 routineId data

def stopRoutine (c : Client σ) (routineId : Int) (data : Bytes := []) : Call Exn σ Bytes :=
  routineControl c 0x02 routineId data

def routineResults (c : Client σ) (routineId : Int) : Call Exn σ Bytes :=
  routineControl c 0x03 routineId []

/-- `_request_transfer`: the block length that the answer gives in as many bytes as it says. -/
def requestTransfer (c : Client σ) (sid : UInt8) (address size : Int) (dataFormat : Int := 0x00)
    (addrBytes : Int := 4) (sizeBytes : Int := 4) : Call Exn σ Nat := do
  let req ← Call.ofExcept (addressed [dataFormat] address size addrBytes sizeBytes)
  let resp ← c.send sid req true
  if resp = [] then return 0
  else
    let b0 ← Call.ofExcept (Py.index resp 0)
    let n := ((b0 >>> 4) &&& 0x0F).toNat
    return if n ≠ 0 then Py.ofBytesBig (Py.slice resp 1 (1 + n)) else 0

/-- 0x34. -/
def requestDownload (c : Client σ) (address size : Int) (dataFormat : Int := 0x00)
    (addrBytes : Int := 4) (sizeBytes : Int := 4) : Call Exn σ Nat :=
  requestTransfer c 0x34 address size dataFormat addrBytes sizeBytes

/-- 0x35. -/
def requestUpload (c : Client σ) (address size : Int) (dataFormat : Int := 0x00)
    (addrBytes : Int := 4) (sizeBytes : Int := 4) : Call Exn σ Nat :=
  requestTransfer c 0x35 address size dataFormat addrBytes sizeBytes

/-- 0x36; the answer keeps the echoed block counter. -/
def transferData (c : Client σ) (blockSequenceCounter : Int) (data : Bytes := []) :
    Call Exn σ Bytes :=
  c.send 0x36 (Py.lowByte blockSequenceCounter :: data) true

/-- 0x37. -/
def requestTransferExit (c : Client σ) (data : Bytes := []) : Call Exn σ Bytes :=
  c.send 0x37 data true

/-- 0x38. -/
def requestFileTransfer (c : Client σ) (modeOfOperation : Int) (data : Bytes) :
    Call Exn σ Bytes :=
  withByte c 0x38 modeOfOperation data

/-- 0x3D. -/
def writeMemoryByAddress (c : Client σ) (address : Int) (data : Bytes) (addrBytes : Int := 4)
    (sizeBytes : Int := 2) : Call Exn σ Bytes := do
  let req ← Call.ofExcept (addressed [] address data.length addrBytes sizeBytes)
  c.send 0x3D (req ++ data) true

/-- 0x3E. -/
def testerPresent (c : Client σ) (suppressResponse : Bool := true) : Call Exn σ Unit := do
  let _ ← suppressible c 0x3E 0x00 [] [] suppressResponse
  return ()

/-- 0x83. -/
def accessTimingParameter (c : Client σ) (accessType : Int) (requestRecord : Bytes := []) :
    Call Exn σ Bytes :=
  withByte c 0x83 accessType requestRecord

/-- 0x84. -/
def securedDataTransmission (c : Client σ) (data : Bytes) : Call Exn σ Bytes :=
  c.send 0x84 data true

/-- 0x85. -/
def controlDtcSetting (c : Client σ) (settingType : Int) (data : Bytes := [])
    (suppressResponse : Bool := false) : Call Exn σ Unit := do
  let _ ← suppressible c 0x85 settingType [] data suppressResponse
  return ()

/-- 0x86. -/
def responseOnEvent (c : Client σ) (eventType : Int) (data : Bytes := [])
    (suppressResponse : Bool := false) : Call Exn σ Bytes :=
  suppressible c 0x86 eventType [] data suppressResponse

/-- 0x87. -/
def linkControl (c : Client σ) (controlType : Int) (data : Bytes := [])
    (suppressResponse : Bool := false) : Call Exn σ Bytes :=
  suppressible c 0x87 controlType [] data suppressResponse

/-! ## Levels that are no byte -/

theorem securityAccessRequestSeed_of_range (c : Client σ) {level : Int}
    (h : 0 ≤ level ∧ level < 256) :
    securityAccessRequestSeed c level = do
      let data ← c.send 0x27 [Py.lowByte level] true
      return data.drop 1 := by
  rw [securityAccessRequestSeed, Py.toByte_of_range h]
  rfl

theorem securityAccessRequestSeed_of_not_range (c : Client σ) {level : Int}
    (h : ¬ (0 ≤ level ∧ level < 256)) :
    securityAccessRequestSeed c level
      = Call.raise (.valueError "bytes must be in range(0, 256)") := by
  rw [securityAccessRequestSeed, Py.toByte_of_not_range h]
  rfl

theorem securityAccessSendKey_of_range (c : Client σ) {level : Int} (key : Bytes)
    (h : 0 ≤ level + 1 ∧ level + 1 < 256) :
    securityAccessSendKey c level key = do
      let _ ← c.send 0x27 (Py.lowByte (level + 1) :: key) true
      return () := by
  rw [securityAccessSendKey, Py.toByte_of_range h]
  rfl

theorem securityAccessSendKey_of_not_range (c : Client σ) {level : Int} (key : Bytes)
    (h : ¬ (0 ≤ level + 1 ∧ level + 1 < 256)) :
    securityAccessSendKey c level key
      = Call.raise (.valueError "bytes must be in range(0, 256)") := by
  rw [securityAccessSendKey, Py.toByte_of_not_range h]
  rfl

end AutoDiag.Uds
