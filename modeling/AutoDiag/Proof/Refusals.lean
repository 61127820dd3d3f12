import AutoDiag.Lib.Raise
import AutoDiag.Proof.Misnamed
import AutoDiag.Protocol.Uds

/-!
# What a UDS service makes of a refusal

Every service of `UDSClient` builds one request, hands it to `_send` and takes
the answer apart without raising (`run_eq`). So what becomes of a refusal is
decided by `_send`: it is heard by a call that waits for a response, if the
exchange ends on it, and a call that suppresses the positive response does not
look at the replies at all (`refusal_heard`).
-/

namespace AutoDiag.Proof

open Client Raise

variable {σ : Type}

/-- A call of a service of `UDSClient`, with its arguments. -/
inductive UdsCall where
  | diagnosticSessionControl (session : Int) (suppressResponse : Bool)
  | ecuReset (resetType : Int) (suppressResponse : Bool)
  | clearDiagnosticInformation (group : Int)
  | readDtcInformation (subfunction : Int) (data : Bytes)
  | readDtcsByStatusMask (statusMask : Int)
  | readSupportedDtcs
  | readDataByIdentifier (did : Int)
  | readMemoryByAddress (address size addrBytes sizeBytes : Int)
  | readScalingDataByIdentifier (did : Int)
  | securityAccessRequestSeed (level : Int)
  | securityAccessSendKey (level : Int) (key : Bytes)
  | communicationControl (controlType communicationType : Int) (suppressResponse : Bool)
  | authentication (subfunction : Int) (data : Bytes)
  | readDataByPeriodicIdentifier (transmissionMode : Int) (periodicDids : Bytes)
  | dynamicallyDefineDataIdentifier (subfunction : Int) (data : Bytes)
  | writeDataByIdentifier (did : Int) (data : Bytes)
  | ioControlByIdentifier (did controlParameter : Int) (controlState : Bytes)
  | routineControl (controlType routineId : Int) (data : Bytes)
  | startRoutine (routineId : Int) (data : Bytes)
  | stopRoutine (routineId : Int) (data : Bytes)
  | routineResults (routineId : Int)
  | requestDownload (address size dataFormat addrBytes sizeBytes : Int)
  | requestUpload (address size dataFormat addrBytes sizeBytes : Int)
  | transferData (blockSequenceCounter : Int) (data : Bytes)
  | requestTransferExit (data : Bytes)
  | requestFileTransfer (modeOfOperation : Int) (data : Bytes)
  | writeMemoryByAddress (address : Int) (data : Bytes) (addrBytes sizeBytes : Int)
  | testerPresent (suppressResponse : Bool)
  | accessTimingParameter (accessType : Int) (requestRecord : Bytes)
  | securedDataTransmission (data : Bytes)
  | controlDtcSetting (settingType : Int) (data : Bytes) (suppressResponse : Bool)
  | responseOnEvent (eventType : Int) (data : Bytes) (suppressResponse : Bool)
  | linkControl (controlType : Int) (data : Bytes) (suppressResponse : Bool)

/-- A call whose result is not looked at. -/
def ignore {α : Type} (x : Call Exn σ α) : Call Exn σ Unit := do
  let _ ← x
  return ()

/-- What `_send` is given. -/
structure Request where
  sid : UInt8
  data : Bytes
  expectResponse : Bool
  deriving DecidableEq

namespace UdsCall

/-- The call, on a client. -/
def run (c : Client σ) : UdsCall → Call Exn σ Unit
  | diagnosticSessionControl session s => ignore (Uds.diagnosticSessionControl c session s)
  | ecuReset resetType s => ignore (Uds.ecuReset c resetType s)
  | clearDiagnosticInformation group => ignore (Uds.clearDiagnosticInformation c group)
  | readDtcInformation subfunction data => ignore (Uds.readDtcInformation c subfunction data)
  | readDtcsByStatusMask statusMask => ignore (Uds.readDtcsByStatusMask c statusMask)
  | readSupportedDtcs => ignore (Uds.readSupportedDtcs c)
  | readDataByIdentifier did => ignore (Uds.readDataByIdentifier c did)
  | readMemoryByAddress address size addrBytes sizeBytes =>
    ignore (Uds.readMemoryByAddress c address size addrBytes sizeBytes)
  | readScalingDataByIdentifier did => ignore (Uds.readScalingDataByIdentifier c did)
  | securityAccessRequestSeed level => ignore (Uds.securityAccessRequestSeed c level)
  | securityAccessSendKey level key => ignore (Uds.securityAccessSendKey c level key)
  | communicationControl controlType communicationType s =>
    ignore (Uds.communicationControl c controlType communicationType s)
  | authentication subfunction data => ignore (Uds.authentication c subfunction data)
  | readDataByPeriodicIdentifier mode dids => ignore (Uds.readDataByPeriodicIdentifier c mode dids)
  | dynamicallyDefineDataIdentifier subfunction data =>
    ignore (Uds.dynamicallyDefineDataIdentifier c subfunction data)
  | writeDataByIdentifier did data => ignore (Uds.writeDataByIdentifier c did data)
  | ioControlByIdentifier did parameter state =>
    ignore (Uds.ioControlByIdentifier c did parameter state)
  | routineControl controlType routineId data =>
    ignore (Uds.routineControl c controlType routineId data)
  | startRoutine routineId data => ignore (Uds.startRoutine c routineId data)
  | stopRoutine routineId data => ignore (Uds.stopRoutine c routineId data)
  | routineResults routineId => ignore (Uds.routineResults c routineId)
  | requestDownload address size dataFormat addrBytes sizeBytes =>
    ignore (Uds.requestDownload c address size dataFormat addrBytes sizeBytes)
  | requestUpload address size dataFormat addrBytes sizeBytes =>
    ignore (Uds.requestUpload c address size dataFormat addrBytes sizeBytes)
  | transferData counter data => ignore (Uds.transferData c counter data)
  | requestTransferExit data => ignore (Uds.requestTransferExit c data)
  | requestFileTransfer mode data => ignore (Uds.requestFileTransfer c mode data)
  | writeMemoryByAddress address data addrBytes sizeBytes =>
    ignore (Uds.writeMemoryByAddress c address data addrBytes sizeBytes)
  | testerPresent s => ignore (Uds.testerPresent c s)
  | accessTimingParameter accessType record => ignore (Uds.accessTimingParameter c accessType record)
  | securedDataTransmission data => ignore (Uds.securedDataTransmission c data)
  | controlDtcSetting settingType data s => ignore (Uds.controlDtcSetting c settingType data s)
  | responseOnEvent eventType data s => ignore (Uds.responseOnEvent c eventType data s)
  | linkControl controlType data s => ignore (Uds.linkControl c controlType data s)

/-- The call suppresses the positive response. -/
def suppressed : UdsCall → Bool
  | diagnosticSessionControl _ s | ecuReset _ s | communicationControl _ _ s | testerPresent s
  | controlDtcSetting _ _ s | responseOnEvent _ _ s | linkControl _ _ s => s
  | _ => false

/-- The request of a service with a sub-function byte. -/
def subfunctionRequest (sid : UInt8) (x : Int) (data : List Int) (more : Bytes) (s : Bool) :
    Except Exn Request := do
  let req ← Py.bytesOf (Uds.subfn x s :: data)
  return ⟨sid, req ++ more, !s⟩

/-- The request of a service that builds its bytes first. -/
def builtRequest (sid : UInt8) (built : Except Exn Bytes) (more : Bytes) : Except Exn Request := do
  let req ← built
  return ⟨sid, req ++ more, true⟩

/-- What the call sends, or what it raises before it sends anything. -/
def request : UdsCall → Except Exn Request
  | diagnosticSessionControl session s => subfunctionRequest 0x10 session [] [] s
  | ecuReset resetType s => subfunctionRequest 0x11 resetType [] [] s
  | clearDiagnosticInformation group => .ok ⟨0x14, [Py.lowByte (group >>> (16 : Nat)),
      Py.lowByte (group >>> (8 : Nat)), Py.lowByte group], true⟩
  | readDtcInformation subfunction data => builtRequest 0x19 (Py.bytesOf [subfunction]) data
  | readDtcsByStatusMask statusMask => builtRequest 0x19 (do
      let mask ← Py.bytesOf [statusMask]
      return 0x02 :: mask) []
  | readSupportedDtcs => .ok ⟨0x19, [0x0A], true⟩
  | readDataByIdentifier did => .ok ⟨0x22, Uds.didBytes did, true⟩
  | readMemoryByAddress address size addrBytes sizeBytes =>
    builtRequest 0x23 (Uds.addressed [] address size addrBytes sizeBytes) []
  | readScalingDataByIdentifier did => .ok ⟨0x24, Uds.didBytes did, true⟩
  | securityAccessRequestSeed level => builtRequest 0x27 (Py.bytesOf [level]) []
  | securityAccessSendKey level key => builtRequest 0x27 (Py.bytesOf [level + 1]) key
  | communicationControl controlType communicationType s =>
    subfunctionRequest 0x28 controlType [communicationType] [] s
  | authentication subfunction data => builtRequest 0x29 (Py.bytesOf [subfunction]) data
  | readDataByPeriodicIdentifier mode dids => builtRequest 0x2A (Py.bytesOf [mode]) dids
  | dynamicallyDefineDataIdentifier subfunction data =>
    builtRequest 0x2C (Py.bytesOf [subfunction]) data
  | writeDataByIdentifier did data => .ok ⟨0x2E, Uds.didBytes did ++ data, true⟩
  | ioControlByIdentifier did parameter state => builtRequest 0x2F (do
      let b ← Py.bytesOf [parameter]
      return Uds.didBytes did ++ b) state
  | routineControl controlType routineId data =>
    builtRequest 0x31 (Py.bytesOf [controlType]) (Uds.didBytes routineId ++ data)
  | startRoutine routineId data => .ok ⟨0x31, 0x01 :: (Uds.didBytes routineId ++ data), true⟩
  | stopRoutine routineId data => .ok ⟨0x31, 0x02 :: (Uds.didBytes routineId ++ data), true⟩
  | routineResults routineId => .ok ⟨0x31, 0x03 :: Uds.didBytes routineId, true⟩
  | requestDownload address size dataFormat addrBytes sizeBytes =>
    builtRequest 0x34 (Uds.addressed [dataFormat] address size addrBytes sizeBytes) []
  | requestUpload address size dataFormat addrBytes sizeBytes =>
    builtRequest 0x35 (Uds.addressed [dataFormat] address size addrBytes sizeBytes) []
  | transferData counter data => .ok ⟨0x36, Py.lowByte counter :: data, true⟩
  | requestTransferExit data => .ok ⟨0x37, data, true⟩
  | requestFileTransfer mode data => builtRequest 0x38 (Py.bytesOf [mode]) data
  | writeMemoryByAddress address data addrBytes sizeBytes =>
    builtRequest 0x3D (Uds.addressed [] address data.length addrBytes sizeBytes) data
  | testerPresent s => subfunctionRequest 0x3E 0x00 [] [] s
  | accessTimingParameter accessType record => builtRequest 0x83 (Py.bytesOf [accessType]) record
  | securedDataTransmission data => .ok ⟨0x84, data, true⟩
  | controlDtcSetting settingType data s => subfunctionRequest 0x85 settingType [] data s
  | responseOnEvent eventType data s => subfunctionRequest 0x86 eventType [] data s
  | linkControl controlType data s => subfunctionRequest 0x87 controlType [] data s

end UdsCall

/-! ## One request for each call -/

/-- `x` builds a request, sends it, and makes its result of the answer without raising. -/
def SendsOnce {α : Type} (c : Client σ) (x : Call Exn σ α) (request : Except Exn Request) : Prop :=
  ∃ finish : Bytes → α, x = do
    let r ← Call.ofExcept request
    let data ← c.send r.sid r.data r.expectResponse
    return finish data

section Shapes

variable {c : Client σ} {α β : Type}

theorem sendsOnce_send (sid : UInt8) (data : Bytes) :
    SendsOnce c (c.send sid data true) (.ok ⟨sid, data, true⟩) :=
  ⟨id, (Call.bind_pure _).symm⟩

/-- The bytes are built first; if that fails, nothing is sent. -/
theorem sendsOnce_built (sid : UInt8) (built : Except Exn Bytes) (more : Bytes) :
    SendsOnce c (do
      let req ← Call.ofExcept built
      c.send sid (req ++ more) true) (UdsCall.builtRequest sid built more) := by
  refine ⟨id, ?_⟩
  rw [UdsCall.builtRequest, Call.ofExcept_bind, bind_assoc]
  refine bind_congr fun req => ?_
  exact (Call.bind_pure _).symm

theorem sendsOnce_built_nil (sid : UInt8) (built : Except Exn Bytes) :
    SendsOnce c (do
      let req ← Call.ofExcept built
      c.send sid req true) (UdsCall.builtRequest sid built []) := by
  have h := sendsOnce_built (c := c) sid built []
  simp only [List.append_nil] at h
  exact h

theorem sendsOnce_suppressible (sid : UInt8) (x : Int) (data : List Int) (more : Bytes) (s : Bool) :
    SendsOnce c (Uds.suppressible c sid x data more s)
      (UdsCall.subfunctionRequest sid x data more s) := by
  refine ⟨id, ?_⟩
  rw [UdsCall.subfunctionRequest, Call.ofExcept_bind, bind_assoc, Uds.suppressible]
  refine bind_congr fun req => ?_
  exact (Call.bind_pure _).symm

theorem sendsOnce_withByte (sid : UInt8) (x : Int) (data : Bytes) :
    SendsOnce c (Uds.withByte c sid x data)
      (UdsCall.builtRequest sid (Py.bytesOf [x]) data) :=
  sendsOnce_built sid (Py.bytesOf [x]) data

/-- Taking the answer further apart sends nothing more, as long as it raises nothing. -/
theorem SendsOnce.bind {x : Call Exn σ α} {request : Except Exn Request}
    (h : SendsOnce c x request) {f : α → Call Exn σ β} (hf : ∀ a, ∃ b, f a = pure b) :
    SendsOnce c (x >>= f) request := by
  obtain ⟨finish, rfl⟩ := h
  choose g hg using hf
  refine ⟨g ∘ finish, ?_⟩
  simp only [bind_assoc, pure_bind, hg, Function.comp]

theorem sendsOnce_built_then (sid : UInt8) (built : Except Exn Bytes) {f : Bytes → Call Exn σ β}
    (hf : ∀ data, ∃ b, f data = pure b) :
    SendsOnce c (do
      let req ← Call.ofExcept built
      let data ← c.send sid req true
      f data) (UdsCall.builtRequest sid built []) := by
  have h := (sendsOnce_built_nil (c := c) sid built).bind hf
  rwa [bind_assoc] at h

/-- What becomes of the answer does not matter. -/
theorem SendsOnce.ignore {x : Call Exn σ α} {request : Except Exn Request}
    (h : SendsOnce c x request) : SendsOnce c (ignore x) request :=
  h.bind fun _ => ⟨(), rfl⟩

theorem bytesOf_singleton (x : Int) : Py.bytesOf [x] = (Py.toByte x).map ([·]) := by
  rw [Py.bytesOf, List.mapM_cons]
  cases Py.toByte x <;> rfl

/-- A request that begins with one checked byte. -/
theorem sendsOnce_byte (sid : UInt8) (x : Int) (data : Bytes) :
    SendsOnce c (do
      let b ← Call.ofExcept (Py.toByte x)
      c.send sid (b :: data) true) (UdsCall.builtRequest sid (Py.bytesOf [x]) data) := by
  have hcall : (do
      let b ← Call.ofExcept (Py.toByte x)
      c.send sid (b :: data) true) = Uds.withByte c sid x data := by
    rw [Uds.withByte, bytesOf_singleton]
    cases Py.toByte x <;> rfl
  rw [hcall]
  exact sendsOnce_withByte sid x data

theorem sendsOnce_byte_then (sid : UInt8) (x : Int) (data : Bytes) {f : Bytes → Call Exn σ β}
    (hf : ∀ resp, ∃ b, f resp = pure b) :
    SendsOnce c (do
      let b ← Call.ofExcept (Py.toByte x)
      let resp ← c.send sid (b :: data) true
      f resp) (UdsCall.builtRequest sid (Py.bytesOf [x]) data) := by
  have h := (sendsOnce_byte (c := c) sid x data).bind hf
  rwa [bind_assoc] at h

theorem index_of_lt {data : Bytes} {i : Nat} (h : i < data.length) :
    Py.index data i = .ok data[i] :=
  Py.index_ok_iff.mpr (List.getElem?_eq_getElem h)

/-- Every record of four bytes is there. -/
theorem eachRecord_ok (records : Bytes) (f : UInt8 → UInt8 → UInt8 → UInt8 → α) :
    ∃ out, Uds.eachRecord records f = .ok out := by
  refine returns_mapM fun j hj => ?_
  have hlt := List.mem_range.mp hj
  dsimp only
  rw [index_of_lt (by omega), index_of_lt (by omega), index_of_lt (by omega),
    index_of_lt (by omega)]
  exact ⟨_, rfl⟩

theorem records_quiet (f : UInt8 → UInt8 → UInt8 → UInt8 → α) (data : Bytes) :
    ∃ out, (Call.ofExcept (Uds.eachRecord (data.drop 2) f) : Call Exn σ (List α)) = pure out := by
  obtain ⟨out, hout⟩ := eachRecord_ok (data.drop 2) f
  exact ⟨out, by rw [hout]; rfl⟩

theorem sendsOnce_transfer (sid : UInt8) (address size dataFormat addrBytes sizeBytes : Int) :
    SendsOnce c (Uds.requestTransfer c sid address size dataFormat addrBytes sizeBytes)
      (UdsCall.builtRequest sid
        (Uds.addressed [dataFormat] address size addrBytes sizeBytes) []) := by
  refine sendsOnce_built_then sid _ fun resp => ?_
  cases resp with
  | nil => exact ⟨0, rfl⟩
  | cons b0 rest => exact ⟨_, rfl⟩

theorem sendsOnce_statusMask (statusMask : Int) :
    SendsOnce c (Uds.readDtcsByStatusMask c statusMask)
      (UdsCall.request (.readDtcsByStatusMask statusMask)) := by
  have h := sendsOnce_built_then (c := c) 0x19 (do
    let mask ← Py.bytesOf [statusMask]
    return 0x02 :: mask) (records_quiet fun hi mid lo status =>
      Uds.DtcRecord.mk (Uds.decodeUdsDtc hi mid lo) status (Uds.decodeDtcStatus status))
  rw [Call.ofExcept_bind, bind_assoc] at h
  exact h

theorem sendsOnce_ioControl (did parameter : Int) (state : Bytes) :
    SendsOnce c (Uds.ioControlByIdentifier c did parameter state)
      (UdsCall.request (.ioControlByIdentifier did parameter state)) := by
  have hcall : Uds.ioControlByIdentifier c did parameter state = (do
      let req ← Call.ofExcept (do
        let b ← Py.bytesOf [parameter]
        return Uds.didBytes did ++ b)
      c.send 0x2F (req ++ state) true) := by
    rw [Uds.ioControlByIdentifier, Call.ofExcept_bind, bind_assoc]
    rfl
  rw [hcall]
  exact sendsOnce_built 0x2F _ state

/-- One checked byte goes out, and what it echoes is stripped. -/
theorem sendsOnce_echoed (sid : UInt8) (x : Int) :
    SendsOnce c (do
      let b ← Call.ofExcept (Py.toByte x)
      let data ← c.send sid [b] true
      return data.drop 1) (UdsCall.builtRequest sid (Py.bytesOf [x]) []) :=
  sendsOnce_byte_then sid x [] fun data => ⟨data.drop 1, rfl⟩

theorem sendsOnce_key (level : Int) (key : Bytes) :
    SendsOnce c (Uds.securityAccessSendKey c level key)
      (UdsCall.builtRequest 0x27 (Py.bytesOf [level + 1]) key) :=
  sendsOnce_byte_then 0x27 (level + 1) key fun _ => ⟨(), rfl⟩

theorem sendsOnce_session (session : Int) (s : Bool) :
    SendsOnce c (Uds.diagnosticSessionControl c session s)
      (UdsCall.subfunctionRequest 0x10 session [] [] s) := by
  refine (sendsOnce_suppressible 0x10 session [] [] s).bind fun data => ?_
  split
  · rw [index_of_lt (by omega), index_of_lt (by omega), index_of_lt (by omega),
      index_of_lt (by omega)]
    exact ⟨_, rfl⟩
  · exact ⟨_, rfl⟩

end Shapes

/-- **Every service sends one request**, the one its arguments give, and what it makes of the answer
raises nothing. -/
theorem sendsOnce (u : UdsCall) (c : Client σ) : SendsOnce c (u.run c) u.request := by
  cases u with
  | diagnosticSessionControl session s => exact (sendsOnce_session session s).ignore
  | ecuReset resetType s => exact (sendsOnce_suppressible 0x11 resetType [] [] s).ignore
  | clearDiagnosticInformation group =>
    exact ((sendsOnce_send 0x14 _).bind fun _ => ⟨(), rfl⟩).ignore
  | readDtcInformation subfunction data => exact (sendsOnce_withByte 0x19 subfunction data).ignore
  | readDtcsByStatusMask statusMask => exact (sendsOnce_statusMask statusMask).ignore
  | readSupportedDtcs => exact ((sendsOnce_withByte 0x19 0x0A []).bind (records_quiet _)).ignore
  | readDataByIdentifier did =>
    exact ((sendsOnce_send 0x22 _).bind fun _ => ⟨_, rfl⟩).ignore
  | readMemoryByAddress address size addrBytes sizeBytes =>
    exact (sendsOnce_built_nil 0x23 _).ignore
  | readScalingDataByIdentifier did => exact (sendsOnce_send 0x24 _).ignore
  | securityAccessRequestSeed level => exact (sendsOnce_echoed 0x27 level).ignore
  | securityAccessSendKey level key => exact (sendsOnce_key level key).ignore
  | communicationControl controlType communicationType s =>
    exact (sendsOnce_suppressible 0x28 controlType [communicationType] [] s).ignore
  | authentication subfunction data => exact (sendsOnce_withByte 0x29 subfunction data).ignore
  | readDataByPeriodicIdentifier mode dids => exact (sendsOnce_withByte 0x2A mode dids).ignore
  | dynamicallyDefineDataIdentifier subfunction data =>
    exact (sendsOnce_withByte 0x2C subfunction data).ignore
  | writeDataByIdentifier did data =>
    exact ((sendsOnce_send 0x2E _).bind fun _ => ⟨(), rfl⟩).ignore
  | ioControlByIdentifier did parameter state =>
    exact (sendsOnce_ioControl did parameter state).ignore
  | routineControl controlType routineId data =>
    exact (sendsOnce_withByte 0x31 controlType (Uds.didBytes routineId ++ data)).ignore
  | startRoutine routineId data =>
    exact (sendsOnce_withByte 0x31 1 (Uds.didBytes routineId ++ data)).ignore
  | stopRoutine routineId data =>
    exact (sendsOnce_withByte 0x31 2 (Uds.didBytes routineId ++ data)).ignore
  | routineResults routineId =>
    exact (sendsOnce_withByte 0x31 3 (Uds.didBytes routineId ++ [])).ignore
  | requestDownload address size dataFormat addrBytes sizeBytes =>
    exact (sendsOnce_transfer 0x34 address size dataFormat addrBytes sizeBytes).ignore
  | requestUpload address size dataFormat addrBytes sizeBytes =>
    exact (sendsOnce_transfer 0x35 address size dataFormat addrBytes sizeBytes).ignore
  | transferData counter data => exact (sendsOnce_send 0x36 _).ignore
  | requestTransferExit data => exact (sendsOnce_send 0x37 _).ignore
  | requestFileTransfer mode data => exact (sendsOnce_withByte 0x38 mode data).ignore
  | writeMemoryByAddress address data addrBytes sizeBytes => exact (sendsOnce_built 0x3D _ _).ignore
  | testerPresent s =>
    exact ((sendsOnce_suppressible 0x3E 0 [] [] s).bind fun _ => ⟨(), rfl⟩).ignore
  | accessTimingParameter accessType record =>
    exact (sendsOnce_withByte 0x83 accessType record).ignore
  | securedDataTransmission data => exact (sendsOnce_send 0x84 data).ignore
  | controlDtcSetting settingType data s =>
    exact ((sendsOnce_suppressible 0x85 settingType [] data s).bind fun _ => ⟨(), rfl⟩).ignore
  | responseOnEvent eventType data s =>
    exact (sendsOnce_suppressible 0x86 eventType [] data s).ignore
  | linkControl controlType data s =>
    exact (sendsOnce_suppressible 0x87 controlType [] data s).ignore

/-- The bit set in the sub-function is not all that suppression does. -/
theorem request_expectResponse {u : UdsCall} {r : Request} (h : u.request = .ok r) :
    r.expectResponse = !u.suppressed := by
  have hbuilt : ∀ {sid : UInt8} {built : Except Exn Bytes} {more : Bytes},
      UdsCall.builtRequest sid built more = .ok r → r.expectResponse = true := by
    intro sid built more h
    obtain ⟨_, _, h⟩ := bind_ok h
    cases h
    rfl
  have hsub : ∀ {sid : UInt8} {x : Int} {data : List Int} {more : Bytes} {s : Bool},
      UdsCall.subfunctionRequest sid x data more s = .ok r → r.expectResponse = !s := by
    intro sid x data more s h
    obtain ⟨_, _, h⟩ := bind_ok h
    cases h
    rfl
  cases u <;> first
    | exact hsub h
    | exact hbuilt h
    | exact (Except.ok.inj h) ▸ rfl

/-! ## What becomes of a refusal -/

/-- The exchange ends on a negative response with this code. -/
def EndsOnRefusal (maxPending : Nat) (replies : Nat → List EcuResponse) (nrc : UInt8) : Prop :=
  ∃ k m, k ≤ maxPending ∧ PendingUpTo replies k ∧ firstData (replies k) = some m ∧
    isPending m = false ∧ m[0]? = some 0x7F ∧ m[2]?.getD 0x10 = nrc

/-- A call against a stream of replies: how it ends, and the number of `receive()` calls. -/
def runUds (u : UdsCall) (maxPending : Nat) (replies : Nat → List EcuResponse) :
    Except Exn Unit × Nat :=
  u.run (Uds.client (streamed replies) maxPending) 0

section Replies

variable {u : UdsCall} {r : Request} {maxPending : Nat} {replies : Nat → List EcuResponse}

/-- A call that suppresses the positive response returns, whatever was replied. -/
theorem runUds_suppressed (h : u.request = .ok r) (hs : u.suppressed = true) :
    runUds u maxPending replies = (.ok (), 0) := by
  obtain ⟨finish, hrun⟩ := sendsOnce u (Uds.client (streamed replies) maxPending)
  have hexpect : r.expectResponse = false := by rw [request_expectResponse h, hs]; rfl
  rw [runUds, hrun, h]
  show ((Client.send _ r.sid r.data r.expectResponse) >>= fun data => pure (finish data)) 0 = _
  rw [hexpect]
  rfl

/-- A call that waits for its response raises what `_send` raises. -/
theorem runUds_waiting (maxPending : Nat) (replies : Nat → List EcuResponse)
    (h : u.request = .ok r) (hs : u.suppressed = false) :
    ∃ finish : Bytes → Unit, runUds u maxPending replies =
      match sendTo replies .uds maxPending r.sid r.data with
      | (.ok data, n) => (.ok (finish data), n)
      | (.error e, n) => (.error e, n) := by
  obtain ⟨finish, hrun⟩ := sendsOnce u (Uds.client (streamed replies) maxPending)
  have hexpect : r.expectResponse = true := by rw [request_expectResponse h, hs]; rfl
  refine ⟨finish, ?_⟩
  rw [runUds, hrun, h, sendTo]
  show ((Client.send _ r.sid r.data r.expectResponse) >>= fun data => pure (finish data)) 0 = _
  rw [hexpect]
  cases hsend : (Client.send ⟨.uds, streamed replies, maxPending⟩ r.sid r.data true) 0 with
  | mk res n =>
    cases res with
    | ok data => exact Call.bind_run_ok hsend
    | error e => exact Call.bind_run_error hsend

/-- A call that waits raises the refusal its exchange ends on, and no other. -/
theorem runUds_refused_iff (h : u.request = .ok r) (hs : u.suppressed = false) (nrc : UInt8) :
    (runUds u maxPending replies).1 = .error (negativeResponse .uds r.sid nrc)
      ↔ EndsOnRefusal maxPending replies nrc := by
  obtain ⟨finish, hrun⟩ := runUds_waiting maxPending replies h hs
  have hraise : (runUds u maxPending replies).1 = .error (negativeResponse .uds r.sid nrc) ↔
      (sendTo replies .uds maxPending r.sid r.data).1
        = .error (negativeResponse .uds r.sid nrc) := by
    rw [hrun]
    rcases sendTo replies .uds maxPending r.sid r.data with ⟨_ | _, _⟩ <;> simp
  rw [hraise]
  constructor
  · intro hrefused
    rcases stops_somehow replies maxPending with
      ⟨k, m, hk, hpending, hm, hfinal⟩ | ⟨k, hk, hpending, hnone⟩ | hall
    · rw [sendTo_of_final hk hpending hm hfinal] at hrefused
      obtain ⟨rest, rfl, hnrc⟩ := refusal_of_settle hrefused
      exact ⟨k, 0x7F :: rest, hk, hpending, hm, hfinal, rfl, hnrc⟩
    · rw [sendTo_of_silent hk hpending hnone] at hrefused
      exact absurd (Except.error.inj hrefused) (negativeResponse_ne_timeout (f := .uds))
    · rw [sendTo_of_exhausted hall] at hrefused
      exact absurd (Except.error.inj hrefused) (negativeResponse_ne_timeout (f := .uds))
  · rintro ⟨k, m, hk, hpending, hm, hfinal, hneg, hnrc⟩
    obtain ⟨rest, rfl⟩ : ∃ rest, m = 0x7F :: rest := by
      cases m with
      | nil => cases hneg
      | cons b rest => exact ⟨rest, by rw [Option.some.inj hneg]⟩
    rw [sendTo_of_final hk hpending hm hfinal, settle_refusal, hnrc]

end Replies

/-- **Where a refusal is heard.** A call that suppresses the positive response returns and does not
look at the replies. Any other call raises a refusal exactly if its exchange ends on it; it does so
in particular when the refusal is the first non-empty reply to the request. -/
theorem refusal_heard {u : UdsCall} {r : Request} (h : u.request = .ok r) (maxPending : Nat)
    (replies : Nat → List EcuResponse) :
    (u.suppressed = true → runUds u maxPending replies = (.ok (), 0)) ∧
    (u.suppressed = false → ∀ nrc,
      ((runUds u maxPending replies).1 = .error (negativeResponse .uds r.sid nrc)
        ↔ EndsOnRefusal maxPending replies nrc) ∧
      (nrc ≠ Nrc.responsePending → firstData (replies 0) = some [0x7F, r.sid, nrc] →
        (runUds u maxPending replies).1 = .error (negativeResponse .uds r.sid nrc))) := by
  refine ⟨fun hs => runUds_suppressed h hs, fun hs nrc => ⟨runUds_refused_iff h hs nrc, ?_⟩⟩
  intro hnrc hfirst
  refine (runUds_refused_iff h hs nrc).mpr ⟨0, _, Nat.zero_le _, ?_, hfirst, ?_, rfl, rfl⟩
  · exact fun j hj => absurd hj (Nat.not_lt_zero j)
  · simpa [isPending] using hnrc

/-- The ECU refuses to switch off its trouble codes. -/
def refusesDtcOff : Nat → List EcuResponse := fun _ => [⟨0x7E8, [0x7F, 0x85, 0x22]⟩]

theorem refusal_heard_dtcOff :
    (runUds (.controlDtcSetting 2 [] false) 10 refusesDtcOff).1
      = .error (negativeResponse .uds 0x85 0x22) := by
  have hrequest : (UdsCall.controlDtcSetting 2 [] false).request = .ok ⟨0x85, [0x02], true⟩ := rfl
  exact ((refusal_heard hrequest 10 refusesDtcOff).2 rfl 0x22).2 (by decide) rfl

/-- Another ECU is heard first. -/
def refusedSecond : Nat → List EcuResponse :=
  fun _ => [⟨0x7E9, [0xC5, 0x02]⟩, ⟨0x7E8, [0x7F, 0x85, 0x22]⟩]

/-- The same refusal, to the call that suppresses the positive response and behind another reply. -/
theorem refusal_dropped :
    ((∃ x ∈ refusesDtcOff 0, x.data = [0x7F, 0x85, 0x22]) ∧
      (runUds (.controlDtcSetting 2 [] true) 10 refusesDtcOff).1
        ≠ .error (negativeResponse .uds 0x85 0x22)) ∧
    (∃ x ∈ refusedSecond 0, x.data = [0x7F, 0x85, 0x22]) ∧
      (runUds (.controlDtcSetting 2 [] false) 10 refusedSecond).1
        ≠ .error (negativeResponse .uds 0x85 0x22) := by
  have hsuppressed : runUds (.controlDtcSetting 2 [] true) 10 refusesDtcOff = (.ok (), 0) :=
    runUds_suppressed (r := ⟨0x85, [0x82], false⟩) rfl rfl
  have hsecond : (runUds (.controlDtcSetting 2 [] false) 10 refusedSecond).1 = .ok () := rfl
  refine ⟨⟨⟨_, List.mem_singleton_self _, rfl⟩, ?_⟩, ⟨_, List.mem_cons_of_mem _
    (List.mem_singleton_self _), rfl⟩, ?_⟩
  · rw [hsuppressed]
    simp
  · rw [hsecond]
    simp

end AutoDiag.Proof
