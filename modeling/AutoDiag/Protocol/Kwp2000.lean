import AutoDiag.Protocol.Client
import AutoDiag.Protocol.Obd2

/-!
# ISO 14230-3 services

`KWP2000Client`: as with UDS, each service builds its request, sends it and takes
the answer apart. The services that address an item by an identifier come first.
-/

namespace AutoDiag.Kwp2000

variable {σ : Type}

/-- `KWP2000Client`. -/
def client (transport : Transport σ) (maxPending : Nat) : Client σ :=
  ⟨.kwp, transport, maxPending⟩

/-- 0x1A; the echoed option is stripped. -/
def readEcuIdentification (c : Client σ) (option : Int) : Call Exn σ Bytes := do
  let b ← Call.ofExcept (Py.toByte option)
  let data ← c.send 0x1A [b] true
  return data.drop 1

/-- 0x21; the echoed local identifier is stripped. -/
def readDataByLocalIdentifier (c : Client σ) (lid : Int) : Call Exn σ Bytes := do
  let data ← c.send 0x21 [Py.lowByte lid] true
  return data.drop 1

/-- 0x22; the echoed common identifier is stripped. -/
def readDataByCommonIdentifier (c : Client σ) (did : Int) : Call Exn σ Bytes := do
  let data ← c.send 0x22 [Py.lowByte (did >>> (8 : Nat)), Py.lowByte did] true
  return if 2 ≤ data.length then data.drop 2 else []

/-- 0x27, odd sub-function; the echoed access mode is stripped. -/
def securityAccessRequestSeed (c : Client σ) (level : Int) : Call Exn σ Bytes := do
  let subfunction ← Call.ofExcept (Py.toByte level)
  let data ← c.send 0x27 [subfunction] true
  return data.drop 1

/-- 0x27, even sub-function. -/
def securityAccessSendKey (c : Client σ) (level : Int) (key : Bytes) : Call Exn σ Unit := do
  let subfunction ← Call.ofExcept (Py.toByte (level + 1))
  let _ ← c.send 0x27 (subfunction :: key) true
  return ()

/-- 0x31; the echoed routine id is stripped. -/
def startRoutineByLocalIdentifier (c : Client σ) (routine : Int) (data : Bytes) :
    Call Exn σ Bytes := do
  let resp ← c.send 0x31 (Py.lowByte routine :: data) true
  return resp.drop 1

/-! ## Trouble codes -/

/-- `_STATUS_BITS`. -/
def statusBits : List String :=
  ["testFailed", "testFailedThisOperationCycle", "pendingDTC", "confirmedDTC",
    "testNotCompletedSinceLastClear", "testFailedSinceLastClear",
    "testNotCompletedThisOperationCycle", "warningIndicatorRequested"]

/-- `decode_dtc_status`. -/
def decodeDtcStatus (status : UInt8) : List (String × Bool) :=
  statusBits.zipIdx.map fun (name, i) => (name, status.toNat.testBit i)

/-- One record of 0x17 and 0x18. -/
structure DtcRecord where
  code : Str
  status : UInt8
  flags : List (String × Bool)
  deriving DecidableEq, Repr

/-- The loop over the records of three bytes; an incomplete last one is skipped. -/
def eachRecord (records : Bytes) : Except Exn (List DtcRecord) :=
  (List.range (records.length / 3)).mapM fun j => do
    let hi ← Py.index records (3 * j)
    let lo ← Py.index records (3 * j + 1)
    let st ← Py.index records (3 * j + 2)
    return ⟨Dtc.decodeDtc hi lo, st, decodeDtcStatus st⟩

/-- 0x14. -/
def clearDiagnosticInformation (c : Client σ) (group : Int := 0xFF00) : Call Exn σ Unit := do
  let _ ← c.send 0x14 [Py.lowByte (group >>> (8 : Nat)), Py.lowByte group] true
  return ()

/-- 0x18; the answer begins with the number of codes. -/
def readDtcsByStatus (c : Client σ) (status : Int := 0x00) (group : Int := 0xFF00) :
    Call Exn σ (List DtcRecord) := do
  let req ← Call.ofExcept (Py.bytesOf [status])
  let data ← c.send 0x18 (req ++ [Py.lowByte (group >>> (8 : Nat)), Py.lowByte group]) true
  Call.ofExcept (eachRecord (data.drop 1))

/-- 0x17; the answer has no number of codes. -/
def readStatusOfDtc (c : Client σ) (dtc : Int) : Call Exn σ (List DtcRecord) := do
  let data ← c.send 0x17 [Py.lowByte (dtc >>> (8 : Nat)), Py.lowByte dtc] true
  Call.ofExcept (eachRecord data)

/-! ## The other services -/

/-- 0x10. -/
def startDiagnosticSession (c : Client σ) (session : Int := 0x81) (data : Bytes := []) :
    Call Exn σ Bytes := do
  let req ← Call.ofExcept (Py.bytesOf [session])
  c.send 0x10 (req ++ data) true

/-- 0x20. -/
def stopDiagnosticSession (c : Client σ) : Call Exn σ Unit := do
  let _ ← c.send 0x20 [] true
  return ()

/-- 0x11. -/
def ecuReset (c : Client σ) (resetType : Int := 0x01) : Call Exn σ Bytes := do
  let req ← Call.ofExcept (Py.bytesOf [resetType])
  c.send 0x11 req true

/-- 0x23. -/
def readMemoryByAddress (c : Client σ) (address size : Int) (addrBytes : Int := 3)
    (sizeBytes : Int := 1) : Call Exn σ Bytes := do
  let req ← Call.ofExcept (do
    let a ← Py.intToBytesBig address addrBytes
    let s ← Py.intToBytesBig size sizeBytes
    return a ++ s)
  c.send 0x23 req true

/-- 0x2C. -/
def dynamicallyDefineLocalIdentifier (c : Client σ) (lid : Int) (definition : Bytes) :
    Call Exn σ Bytes :=
  c.send 0x2C (Py.lowByte lid :: definition) true

/-- 0x2E. -/
def writeDataByCommonIdentifier (c : Client σ) (did : Int) (data : Bytes) : Call Exn σ Unit := do
  let _ ← c.send 0x2E (Py.lowByte (did >>> (8 : Nat)) :: Py.lowByte did :: data) true
  return ()

/-- 0x3B. -/
def writeDataByLocalIdentifier (c : Client σ) (lid : Int) (data : Bytes) : Call Exn σ Unit := do
  let _ ← c.send 0x3B (Py.lowByte lid :: data) true
  return ()

/-- 0x30. -/
def inputOutputControlByLocalIdentifier (c : Client σ) (lid controlParameter : Int)
    (controlState : Bytes := []) : Call Exn σ Bytes := do
  let req ← Call.ofExcept (do
    let b ← Py.bytesOf [controlParameter]
    return Py.lowByte lid :: b)
  c.send 0x30 (req ++ controlState) true

/-- 0x32; the echoed routine id is stripped. -/
def stopRoutineByLocalIdentifier (c : Client σ) (routine : Int) (data : Bytes := []) :
    Call Exn σ Bytes := do
  let resp ← c.send 0x32 (Py.lowByte routine :: data) true
  return resp.drop 1

/-- 0x33; the echoed routine id is stripped. -/
def requestRoutineResultsByLocalIdentifier (c : Client σ) (routine : Int) :
    Call Exn σ Bytes := do
  let resp ← c.send 0x33 [Py.lowByte routine] true
  return resp.drop 1

/-- What `_request_transfer` builds: the address, the data format, the size. -/
def transferBytes (address size dataFormat addrBytes sizeBytes : Int) : Except Exn Bytes := do
  let a ← Py.intToBytesBig address addrBytes
  let f ← Py.bytesOf [dataFormat]
  let s ← Py.intToBytesBig size sizeBytes
  return a ++ f ++ s

/-- `_request_transfer`. -/
def requestTransfer (c : Client σ) (sid : UInt8) (address size : Int) (dataFormat : Int := 0x00)
    (addrBytes : Int := 3) (sizeBytes : Int := 3) : Call Exn σ Bytes := do
  let req ← Call.ofExcept (transferBytes address size dataFormat addrBytes sizeBytes)
  c.send sid req true

/-- 0x34. -/
def requestDownload (c : Client σ) (address size : Int) (dataFormat : Int := 0x00)
    (addrBytes : Int := 3) (sizeBytes : Int := 3) : Call Exn σ Bytes :=
  requestTransfer c 0x34 address size dataFormat addrBytes sizeBytes

/-- 0x35. -/
def requestUpload (c : Client σ) (address size : Int) (dataFormat : Int := 0x00)
    (addrBytes : Int := 3) (sizeBytes : Int := 3) : Call Exn σ Bytes :=
  requestTransfer c 0x35 address size dataFormat addrBytes sizeBytes

/-- 0x36. -/
def transferData (c : Client σ) (data : Bytes := []) : Call Exn σ Bytes := c.send 0x36 data true

/-- 0x37. -/
def requestTransferExit (c : Client σ) (data : Bytes := []) : Call Exn σ Bytes :=
  c.send 0x37 data true

/-- 0x3E; the byte says whether an answer is wanted. -/
def testerPresent (c : Client σ) (responseRequired : Bool := false) : Call Exn σ Unit := do
  let _ ← c.send 0x3E [if responseRequired then 0x01 else 0x02] responseRequired
  return ()

end AutoDiag.Kwp2000
