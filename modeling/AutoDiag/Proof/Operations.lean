import AutoDiag.Lib.Alike
import AutoDiag.Proof.Malformed
import AutoDiag.Security.Unlock

/-!
# Everything a caller can ask for

The services of the two clients, the operations of J1979 and the two unlocking
handshakes, with what each of them returns. None of them looks at a transport other
than through its two operations, so over two backends that cannot be told apart they
cannot be told apart either (`Operation.alike`).
-/

namespace AutoDiag.Proof

open Call Client Obd2

variable {σ τ : Type}

/-- What an operation returns. -/
inductive Answer where
  | done
  | flag (b : Bool)
  | number (n : Nat)
  | bytes (data : Bytes)
  | bytes? (data : Option Bytes)
  | text? (text : Option Str)
  | value? (value : Option Pids.Value)
  | timing (timing : Uds.SessionTiming)
  | udsDtcs (records : List Uds.DtcRecord)
  | supportedDtcs (records : List Uds.SupportedDtc)
  | kwpDtcs (records : List Kwp2000.DtcRecord)
  | codes (codes : List Str)
  | pids (pids : List Nat)
  | liveData (data : List (String × Str))
  | testResults (results : List TestResult)

/-- A call that returns nothing. -/
def done (x : Call Exn σ Unit) : Call Exn σ Answer := (fun _ => .done) <$> x

/-- A service of `UDSClient`, with its answer. -/
def UdsCall.answer (c : Client σ) : UdsCall → Call Exn σ Answer
  | diagnosticSessionControl session s => .timing <$> Uds.diagnosticSessionControl c session s
  | ecuReset resetType s => .bytes <$> Uds.ecuReset c resetType s
  | clearDiagnosticInformation group => done (Uds.clearDiagnosticInformation c group)
  | readDtcInformation subfunction data => .bytes <$> Uds.readDtcInformation c subfunction data
  | readDtcsByStatusMask statusMask => .udsDtcs <$> Uds.readDtcsByStatusMask c statusMask
  | readSupportedDtcs => .supportedDtcs <$> Uds.readSupportedDtcs c
  | readDataByIdentifier did => .bytes <$> Uds.readDataByIdentifier c did
  | readMemoryByAddress address size addrBytes sizeBytes =>
    .bytes <$> Uds.readMemoryByAddress c address size addrBytes sizeBytes
  | readScalingDataByIdentifier did => .bytes <$> Uds.readScalingDataByIdentifier c did
  | securityAccessRequestSeed level => .bytes <$> Uds.securityAccessRequestSeed c level
  | securityAccessSendKey level key => done (Uds.securityAccessSendKey c level key)
  | communicationControl controlType communicationType s =>
    .bytes <$> Uds.communicationControl c controlType communicationType s
  | authentication subfunction data => .bytes <$> Uds.authentication c subfunction data
  | readDataByPeriodicIdentifier mode dids =>
    .bytes <$> Uds.readDataByPeriodicIdentifier c mode dids
  | dynamicallyDefineDataIdentifier subfunction data =>
    .bytes <$> Uds.dynamicallyDefineDataIdentifier c subfunction data
  | writeDataByIdentifier did data => done (Uds.writeDataByIdentifier c did data)
  | ioControlByIdentifier did parameter state =>
    .bytes <$> Uds.ioControlByIdentifier c did parameter state
  | routineControl controlType routineId data =>
    .bytes <$> Uds.routineControl c controlType routineId data
  | startRoutine routineId data => .bytes <$> Uds.startRoutine c routineId data
  | stopRoutine routineId data => .bytes <$> Uds.stopRoutine c routineId data
  | routineResults routineId => .bytes <$> Uds.routineResults c routineId
  | requestDownload address size dataFormat addrBytes sizeBytes =>
    .number <$> Uds.requestDownload c address size dataFormat addrBytes sizeBytes
  | requestUpload address size dataFormat addrBytes sizeBytes =>
    .number <$> Uds.requestUpload c address size dataFormat addrBytes sizeBytes
  | transferData counter data => .bytes <$> Uds.transferData c counter data
  | requestTransferExit data => .bytes <$> Uds.requestTransferExit c data
  | requestFileTransfer mode data => .bytes <$> Uds.requestFileTransfer c mode data
  | writeMemoryByAddress address data addrBytes sizeBytes =>
    .bytes <$> Uds.writeMemoryByAddress c address data addrBytes sizeBytes
  | testerPresent s => done (Uds.testerPresent c s)
  | accessTimingParameter accessType record =>
    .bytes <$> Uds.accessTimingParameter c accessType record
  | securedDataTransmission data => .bytes <$> Uds.securedDataTransmission c data
  | controlDtcSetting settingType data s => done (Uds.controlDtcSetting c settingType data s)
  | responseOnEvent eventType data s => .bytes <$> Uds.responseOnEvent c eventType data s
  | linkControl controlType data s => .bytes <$> Uds.linkControl c controlType data s

/-- A service of `KWP2000Client`, with its answer. -/
def KwpCall.answer (c : Client σ) : KwpCall → Call Exn σ Answer
  | startDiagnosticSession session data =>
    .bytes <$> Kwp2000.startDiagnosticSession c session data
  | stopDiagnosticSession => done (Kwp2000.stopDiagnosticSession c)
  | ecuReset resetType => .bytes <$> Kwp2000.ecuReset c resetType
  | readEcuIdentification option => .bytes <$> Kwp2000.readEcuIdentification c option
  | clearDiagnosticInformation group => done (Kwp2000.clearDiagnosticInformation c group)
  | readDtcsByStatus status group => .kwpDtcs <$> Kwp2000.readDtcsByStatus c status group
  | readStatusOfDtc dtc => .kwpDtcs <$> Kwp2000.readStatusOfDtc c dtc
  | readDataByLocalIdentifier lid => .bytes <$> Kwp2000.readDataByLocalIdentifier c lid
  | readDataByCommonIdentifier did => .bytes <$> Kwp2000.readDataByCommonIdentifier c did
  | readMemoryByAddress address size addrBytes sizeBytes =>
    .bytes <$> Kwp2000.readMemoryByAddress c address size addrBytes sizeBytes
  | securityAccessRequestSeed level => .bytes <$> Kwp2000.securityAccessRequestSeed c level
  | securityAccessSendKey level key => done (Kwp2000.securityAccessSendKey c level key)
  | dynamicallyDefineLocalIdentifier lid definition =>
    .bytes <$> Kwp2000.dynamicallyDefineLocalIdentifier c lid definition
  | writeDataByCommonIdentifier did data => done (Kwp2000.writeDataByCommonIdentifier c did data)
  | writeDataByLocalIdentifier lid data => done (Kwp2000.writeDataByLocalIdentifier c lid data)
  | inputOutputControlByLocalIdentifier lid parameter state =>
    .bytes <$> Kwp2000.inputOutputControlByLocalIdentifier c lid parameter state
  | startRoutineByLocalIdentifier routine data =>
    .bytes <$> Kwp2000.startRoutineByLocalIdentifier c routine data
  | stopRoutineByLocalIdentifier routine data =>
    .bytes <$> Kwp2000.stopRoutineByLocalIdentifier c routine data
  | requestRoutineResultsByLocalIdentifier routine =>
    .bytes <$> Kwp2000.requestRoutineResultsByLocalIdentifier c routine
  | requestDownload address size dataFormat addrBytes sizeBytes =>
    .bytes <$> Kwp2000.requestDownload c address size dataFormat addrBytes sizeBytes
  | requestUpload address size dataFormat addrBytes sizeBytes =>
    .bytes <$> Kwp2000.requestUpload c address size dataFormat addrBytes sizeBytes
  | transferData data => .bytes <$> Kwp2000.transferData c data
  | requestTransferExit data => .bytes <$> Kwp2000.requestTransferExit c data
  | testerPresent responseRequired => done (Kwp2000.testerPresent c responseRequired)

/-- An operation of J1979, with its answer. -/
def J1979Call.answer (t : Transport σ) : J1979Call → Call Exn σ Answer
  | supportedPids => .pids <$> readSupportedPids t
  | readPid pid => .value? <$> Obd2.readPid t pid
  | liveData => .liveData <$> scanLiveData t
  | freezeFrame pid frame => .value? <$> readFreezeFrame t pid frame
  | storedDtcs => .codes <$> readDtcsIndexed t 0x03
  | pendingDtcs => .codes <$> readPendingDtcs t
  | permanentDtcs => .codes <$> readPermanentDtcs t
  | clearDtcs => .flag <$> Obd2.clearDtcs t
  | monitorTestResults obdmid => .testResults <$> readMonitorTestResults t obdmid
  | requestControl tid data => .bytes? <$> Obd2.requestControl t tid data
  | vin => .text? <$> readVin t
  | calibrationIds => .text? <$> readCalibrationIds t
  | cvn => .text? <$> readCvn t

/-- An operation of the program. -/
inductive Operation where
  | uds (call : UdsCall)
  | kwp (call : KwpCall)
  | j1979 (call : J1979Call)
  | unlock (family : Family) (ecuName : String) (accessLevel : Int)

/-- What the clients are made with: `max_pending`, and the library of security algorithms. -/
structure Settings where
  maxPending : Nat
  library : Security.Library

/-- The operation, over a transport. -/
def Operation.answer (settings : Settings) (t : Transport σ) : Operation → Call Exn σ Answer
  | uds call => call.answer (Uds.client t settings.maxPending)
  | kwp call => call.answer (Kwp2000.client t settings.maxPending)
  | j1979 call => call.answer t
  | unlock family ecuName accessLevel =>
    .flag <$> Security.unlock settings.library
      (Security.seedKeyClient ⟨family, t, settings.maxPending⟩) ecuName accessLevel

/-! ## Over two transports -/

/-- Two backends that cannot be told apart from related states. -/
structure SameChannel (R : σ → τ → Prop) (t : Transport σ) (t' : Transport τ) : Prop where
  request : ∀ payload functional,
    Alike R (t.request payload functional) (t'.request payload functional)
  receive : Alike R t.receive t'.receive

section SameChannel

variable {R : σ → τ → Prop} {t : Transport σ} {t' : Transport τ} (h : SameChannel R t t')

include h

/-- By induction on the pendings that are still allowed: both read the same payload. -/
theorem alike_awaitFinal (f : Family) (maxPending left : Nat) (resp : Bytes) :
    Alike R ((⟨f, t, maxPending⟩ : Client σ).awaitFinal left resp)
      ((⟨f, t', maxPending⟩ : Client τ).awaitFinal left resp) := by
  induction left generalizing resp with
  | zero =>
    rw [awaitFinal, awaitFinal]
    split
    · exact alike_raise _
    · exact alike_pure _
  | succ left ih =>
    rw [awaitFinal, awaitFinal]
    split
    · exact h.receive.bind fun more => (alike_ofExcept _).bind fun resp => ih resp
    · exact alike_pure _

/-- Both send the same request, and pick and check the same reply. -/
theorem alike_send (f : Family) (maxPending : Nat) (sid : UInt8) (data : Bytes) (expect : Bool) :
    Alike R ((⟨f, t, maxPending⟩ : Client σ).send sid data expect)
      ((⟨f, t', maxPending⟩ : Client τ).send sid data expect) := by
  refine (h.request _ _).bind fun rs => ?_
  split
  · exact alike_pure _
  · refine (alike_ofExcept _).bind fun resp => ?_
    refine (alike_awaitFinal h f maxPending maxPending resp).bind fun resp => ?_
    exact (alike_ofExcept _).bind fun _ => alike_pure _

/-- A request that is built first. -/
theorem alike_built (f : Family) (maxPending : Nat) {α : Type} (built : Except Exn α) (sid : UInt8)
    (data : α → Bytes) (expect : Bool) :
    Alike R
      (do
        let req ← Call.ofExcept built
        (⟨f, t, maxPending⟩ : Client σ).send sid (data req) expect)
      (do
        let req ← Call.ofExcept built
        (⟨f, t', maxPending⟩ : Client τ).send sid (data req) expect) :=
  (alike_ofExcept built).bind fun _ => alike_send h f maxPending sid _ expect

/-- The block length, in as many bytes as the answer says. -/
theorem alike_transfer (maxPending : Nat) (sid : UInt8)
    (address size dataFormat addrBytes sizeBytes : Int) :
    Alike R (Uds.requestTransfer (Uds.client t maxPending) sid address size dataFormat addrBytes
        sizeBytes)
      (Uds.requestTransfer (Uds.client t' maxPending) sid address size dataFormat addrBytes
        sizeBytes) := by
  refine (alike_ofExcept _).bind fun req => (alike_send h .uds maxPending _ _ _).bind fun resp => ?_
  split
  · exact alike_pure _
  · exact (alike_ofExcept _).bind fun _ => alike_pure _

/-- Each service is one request, built from its arguments. -/
theorem UdsCall.alike (maxPending : Nat) (call : UdsCall) :
    Alike R (call.answer (Uds.client t maxPending)) (call.answer (Uds.client t' maxPending)) := by
  have send := alike_send h .uds maxPending
  cases call with
  | diagnosticSessionControl session s =>
    refine Alike.map (Alike.bind (alike_built h _ _ _ _ _ _) fun data => ?_) _
    -- the timing record is read from the reply alone
    split
    · exact (alike_ofExcept _).bind fun _ => (alike_ofExcept _).bind fun _ =>
        (alike_ofExcept _).bind fun _ => (alike_ofExcept _).bind fun _ => alike_pure _
    · exact alike_pure _
  | ecuReset resetType s => exact (alike_built h _ _ _ _ _ _).map _
  | clearDiagnosticInformation group => exact ((send _ _ _).bind fun _ => alike_pure _).map _
  | readDtcInformation subfunction data => exact (alike_built h _ _ _ _ _ _).map _
  | readDtcsByStatusMask statusMask =>
    exact ((alike_ofExcept _).bind fun _ => (alike_built h _ _ _ _ _ _).bind fun _ =>
      alike_ofExcept _).map _
  | readSupportedDtcs =>
    exact ((alike_built h _ _ _ _ _ _).bind fun _ => alike_ofExcept _).map _
  | readDataByIdentifier did => exact ((send _ _ _).bind fun _ => alike_pure _).map _
  | readMemoryByAddress address size addrBytes sizeBytes =>
    exact (alike_built h _ _ _ _ id _).map _
  | readScalingDataByIdentifier did => exact (send _ _ _).map _
  | securityAccessRequestSeed level =>
    exact ((alike_ofExcept _).bind fun _ => (send _ _ _).bind fun _ => alike_pure _).map _
  | securityAccessSendKey level key =>
    exact ((alike_ofExcept _).bind fun _ => (send _ _ _).bind fun _ => alike_pure _).map _
  | communicationControl controlType communicationType s =>
    exact (alike_built h _ _ _ _ _ _).map _
  | authentication subfunction data => exact (alike_built h _ _ _ _ _ _).map _
  | readDataByPeriodicIdentifier mode dids => exact (alike_built h _ _ _ _ _ _).map _
  | dynamicallyDefineDataIdentifier subfunction data => exact (alike_built h _ _ _ _ _ _).map _
  | writeDataByIdentifier did data => exact ((send _ _ _).bind fun _ => alike_pure _).map _
  | ioControlByIdentifier did parameter state => exact (alike_built h _ _ _ _ _ _).map _
  | routineControl controlType routineId data => exact (alike_built h _ _ _ _ _ _).map _
  | startRoutine routineId data => exact (alike_built h _ _ _ _ _ _).map _
  | stopRoutine routineId data => exact (alike_built h _ _ _ _ _ _).map _
  | routineResults routineId => exact (alike_built h _ _ _ _ _ _).map _
  | requestDownload address size dataFormat addrBytes sizeBytes =>
    exact (alike_transfer h _ _ _ _ _ _ _).map _
  | requestUpload address size dataFormat addrBytes sizeBytes =>
    exact (alike_transfer h _ _ _ _ _ _ _).map _
  | transferData counter data => exact (send _ _ _).map _
  | requestTransferExit data => exact (send _ _ _).map _
  | requestFileTransfer mode data => exact (alike_built h _ _ _ _ _ _).map _
  | writeMemoryByAddress address data addrBytes sizeBytes =>
    exact (alike_built h _ _ _ _ _ _).map _
  | testerPresent s => exact ((alike_built h _ _ _ _ _ _).bind fun _ => alike_pure _).map _
  | accessTimingParameter accessType record => exact (alike_built h _ _ _ _ _ _).map _
  | securedDataTransmission data => exact (send _ _ _).map _
  | controlDtcSetting settingType data s =>
    exact ((alike_built h _ _ _ _ _ _).bind fun _ => alike_pure _).map _
  | responseOnEvent eventType data s => exact (alike_built h _ _ _ _ _ _).map _
  | linkControl controlType data s => exact (alike_built h _ _ _ _ _ _).map _

theorem KwpCall.alike (maxPending : Nat) (call : KwpCall) :
    Alike R (call.answer (Kwp2000.client t maxPending))
      (call.answer (Kwp2000.client t' maxPending)) := by
  have send := alike_send h .kwp maxPending
  cases call with
  | startDiagnosticSession session data => exact (alike_built h _ _ _ _ _ _).map _
  | stopDiagnosticSession => exact ((send _ _ _).bind fun _ => alike_pure _).map _
  | ecuReset resetType => exact (alike_built h _ _ _ _ id _).map _
  | readEcuIdentification option =>
    exact ((alike_ofExcept _).bind fun _ => (send _ _ _).bind fun _ => alike_pure _).map _
  | clearDiagnosticInformation group => exact ((send _ _ _).bind fun _ => alike_pure _).map _
  | readDtcsByStatus status group =>
    exact ((alike_ofExcept _).bind fun _ => (send _ _ _).bind fun _ => alike_ofExcept _).map _
  | readStatusOfDtc dtc => exact ((send _ _ _).bind fun _ => alike_ofExcept _).map _
  | readDataByLocalIdentifier lid => exact ((send _ _ _).bind fun _ => alike_pure _).map _
  | readDataByCommonIdentifier did => exact ((send _ _ _).bind fun _ => alike_pure _).map _
  | readMemoryByAddress address size addrBytes sizeBytes =>
    exact (alike_built h _ _ _ _ id _).map _
  | securityAccessRequestSeed level =>
    exact ((alike_ofExcept _).bind fun _ => (send _ _ _).bind fun _ => alike_pure _).map _
  | securityAccessSendKey level key =>
    exact ((alike_ofExcept _).bind fun _ => (send _ _ _).bind fun _ => alike_pure _).map _
  | dynamicallyDefineLocalIdentifier lid definition => exact (send _ _ _).map _
  | writeDataByCommonIdentifier did data =>
    exact ((send _ _ _).bind fun _ => alike_pure _).map _
  | writeDataByLocalIdentifier lid data => exact ((send _ _ _).bind fun _ => alike_pure _).map _
  | inputOutputControlByLocalIdentifier lid parameter state =>
    exact (alike_built h _ _ _ _ _ _).map _
  | startRoutineByLocalIdentifier routine data =>
    exact ((send _ _ _).bind fun _ => alike_pure _).map _
  | stopRoutineByLocalIdentifier routine data =>
    exact ((send _ _ _).bind fun _ => alike_pure _).map _
  | requestRoutineResultsByLocalIdentifier routine =>
    exact ((send _ _ _).bind fun _ => alike_pure _).map _
  | requestDownload address size dataFormat addrBytes sizeBytes =>
    exact (alike_built h _ _ _ _ id _).map _
  | requestUpload address size dataFormat addrBytes sizeBytes =>
    exact (alike_built h _ _ _ _ id _).map _
  | transferData data => exact (send _ _ _).map _
  | requestTransferExit data => exact (send _ _ _).map _
  | testerPresent responseRequired => exact ((send _ _ _).bind fun _ => alike_pure _).map _

/-! ## J1979 -/

/-- A request that is built first, and a reading of the replies. -/
theorem alike_asked {α β : Type} (built : Except Exn β) (req : β → Bytes)
    (read : List EcuResponse → Except Exn α) :
    Alike R
      (do
        let b ← Call.ofExcept built
        let responses ← t.request (req b) true
        Call.ofExcept (read responses))
      (do
        let b ← Call.ofExcept built
        let responses ← t'.request (req b) true
        Call.ofExcept (read responses)) :=
  (alike_ofExcept built).bind fun _ => (h.request _ _).bind fun _ => alike_ofExcept _

/-- Range by range, by induction: both stop at the same bitmap. -/
theorem alike_supportedFrom (bases : List Nat) :
    Alike R (supportedFrom t bases) (supportedFrom t' bases) := by
  induction bases with
  | nil => exact alike_pure _
  | cons base bases ih =>
    refine (alike_ofExcept _).bind fun req => (h.request _ _).bind fun responses => ?_
    split
    · exact alike_pure _
    · dsimp only
      split
      · exact ih.bind fun _ => alike_pure _
      · exact alike_pure _

theorem alike_readPid (pid : Int) : Alike R (readPid t pid) (readPid t' pid) :=
  alike_asked h _ id _

theorem alike_scanPid (out : List (String × Str)) (pid : Nat) :
    Alike R (scanPid t out pid) (scanPid t' out pid) := by
  unfold scanPid
  split
  · exact alike_pure _
  · refine (alike_readPid h pid).bind fun value => ?_
    split
    · exact alike_pure _
    · exact alike_pure _

theorem alike_readDtcs (mode : UInt8) :
    Alike R (readDtcsIndexed t mode) (readDtcsIndexed t' mode) :=
  (h.request _ _).bind fun _ => (alike_ofExcept _).bind fun _ => alike_pure _

theorem alike_readInfoString (pid : UInt8) :
    Alike R (readInfoString t pid) (readInfoString t' pid) :=
  (h.request _ _).bind fun _ => alike_ofExcept _

/-- Reading the replies uses nothing but them. -/
theorem J1979Call.alike (call : J1979Call) : Alike R (call.answer t) (call.answer t') := by
  cases call with
  | supportedPids => exact (alike_supportedFrom h _).map _
  | readPid pid => exact (alike_readPid h pid).map _
  | liveData =>
    exact ((alike_supportedFrom h _).bind fun ps => Alike.foldlM (alike_scanPid h) [] ps).map _
  | freezeFrame pid frame => exact (alike_asked h _ id _).map _
  | storedDtcs => exact (alike_readDtcs h 0x03).map _
  | pendingDtcs => exact (alike_readDtcs h 0x07).map _
  | permanentDtcs => exact (alike_readDtcs h 0x0A).map _
  | clearDtcs => exact ((h.request _ _).bind fun _ => alike_ofExcept _).map _
  | monitorTestResults obdmid =>
    exact ((alike_ofExcept _).bind fun _ => (h.request _ _).bind fun _ =>
      (alike_ofExcept _).bind fun _ => alike_pure _).map _
  | requestControl tid data => exact (alike_asked h _ (· ++ data) _).map _
  | vin => exact (alike_readInfoString h 0x02).map _
  | calibrationIds => exact (alike_readInfoString h 0x04).map _
  | cvn => exact ((h.request _ _).bind fun _ => alike_ofExcept _).map _

/-! ## Unlocking -/

/-- The seed is what the reply says behind its echo. -/
theorem alike_requestSeed (f : Family) (maxPending : Nat) (level : Int) :
    Alike R ((Security.seedKeyClient ⟨f, t, maxPending⟩).securityAccessRequestSeed level)
      ((Security.seedKeyClient ⟨f, t', maxPending⟩).securityAccessRequestSeed level) := by
  have send := alike_send h f maxPending
  cases f with
  | uds => exact (alike_ofExcept _).bind fun _ => (send _ _ _).bind fun _ => alike_pure _
  | kwp => exact (alike_ofExcept _).bind fun _ => (send _ _ _).bind fun _ => alike_pure _

theorem alike_sendKey (f : Family) (maxPending : Nat) (level : Int) (key : Bytes) :
    Alike R ((Security.seedKeyClient ⟨f, t, maxPending⟩).securityAccessSendKey level key)
      ((Security.seedKeyClient ⟨f, t', maxPending⟩).securityAccessSendKey level key) := by
  have send := alike_send h f maxPending
  cases f with
  | uds => exact (alike_ofExcept _).bind fun _ => (send _ _ _).bind fun _ => alike_pure _
  | kwp => exact (alike_ofExcept _).bind fun _ => (send _ _ _).bind fun _ => alike_pure _

/-- **No operation tells the two backends apart.** -/
theorem Operation.alike (settings : Settings) (op : Operation) :
    Alike R (op.answer settings t) (op.answer settings t') := by
  cases op with
  | uds call => exact UdsCall.alike h settings.maxPending call
  | kwp call => exact KwpCall.alike h settings.maxPending call
  | j1979 call => exact J1979Call.alike h call
  | unlock family ecuName accessLevel =>
    refine Alike.map ((alike_requestSeed h family _ accessLevel).bind fun seed => ?_) _
    split
    · exact alike_pure _
    · refine (alike_ofExcept _).bind fun key => ?_
      exact (alike_sendKey h family _ accessLevel key).bind fun _ => alike_pure _

end SameChannel

end AutoDiag.Proof
