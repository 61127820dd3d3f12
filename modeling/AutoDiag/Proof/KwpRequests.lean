import AutoDiag.Proof.Refusals
import AutoDiag.Protocol.Kwp2000

/-!
# The requests of the KWP2000 services

Every service of `KWP2000Client` builds one request, hands it to `_send` and
takes the answer apart without raising, as those of `UDSClient` do.
-/

namespace AutoDiag.Proof

open Client Raise
open UdsCall (builtRequest)

variable {σ : Type}

/-- A call of a service of `KWP2000Client`, with its arguments. -/
inductive KwpCall where
  | startDiagnosticSession (session : Int) (data : Bytes)
  | stopDiagnosticSession
  | ecuReset (resetType : Int)
  | readEcuIdentification (option : Int)
  | clearDiagnosticInformation (group : Int)
  | readDtcsByStatus (status group : Int)
  | readStatusOfDtc (dtc : Int)
  | readDataByLocalIdentifier (lid : Int)
  | readDataByCommonIdentifier (did : Int)
  | readMemoryByAddress (address size addrBytes sizeBytes : Int)
  | securityAccessRequestSeed (level : Int)
  | securityAccessSendKey (level : Int) (key : Bytes)
  | dynamicallyDefineLocalIdentifier (lid : Int) (definition : Bytes)
  | writeDataByCommonIdentifier (did : Int) (data : Bytes)
  | writeDataByLocalIdentifier (lid : Int) (data : Bytes)
  | inputOutputControlByLocalIdentifier (lid controlParameter : Int) (controlState : Bytes)
  | startRoutineByLocalIdentifier (routine : Int) (data : Bytes)
  | stopRoutineByLocalIdentifier (routine : Int) (data : Bytes)
  | requestRoutineResultsByLocalIdentifier (routine : Int)
  | requestDownload (address size dataFormat addrBytes sizeBytes : Int)
  | requestUpload (address size dataFormat addrBytes sizeBytes : Int)
  | transferData (data : Bytes)
  | requestTransferExit (data : Bytes)
  | testerPresent (responseRequired : Bool)

namespace KwpCall

/-- The call, on a client. -/
def run (c : Client σ) : KwpCall → Call Exn σ Unit
  | startDiagnosticSession session data => ignore (Kwp2000.startDiagnosticSession c session data)
  | stopDiagnosticSession => ignore (Kwp2000.stopDiagnosticSession c)
  | ecuReset resetType => ignore (Kwp2000.ecuReset c resetType)
  | readEcuIdentification option => ignore (Kwp2000.readEcuIdentification c option)
  | clearDiagnosticInformation group => ignore (Kwp2000.clearDiagnosticInformation c group)
  | readDtcsByStatus status group => ignore (Kwp2000.readDtcsByStatus c status group)
  | readStatusOfDtc dtc => ignore (Kwp2000.readStatusOfDtc c dtc)
  | readDataByLocalIdentifier lid => ignore (Kwp2000.readDataByLocalIdentifier c lid)
  | readDataByCommonIdentifier did => ignore (Kwp2000.readDataByCommonIdentifier c did)
  | readMemoryByAddress address size addrBytes sizeBytes =>
    ignore (Kwp2000.readMemoryByAddress c address size addrBytes sizeBytes)
  | securityAccessRequestSeed level => ignore (Kwp2000.securityAccessRequestSeed c level)
  | securityAccessSendKey level key => ignore (Kwp2000.securityAccessSendKey c level key)
  | dynamicallyDefineLocalIdentifier lid definition =>
    ignore (Kwp2000.dynamicallyDefineLocalIdentifier c lid definition)
  | writeDataByCommonIdentifier did data => ignore (Kwp2000.writeDataByCommonIdentifier c did data)
  | writeDataByLocalIdentifier lid data => ignore (Kwp2000.writeDataByLocalIdentifier c lid data)
  | inputOutputControlByLocalIdentifier lid parameter state =>
    ignore (Kwp2000.inputOutputControlByLocalIdentifier c lid parameter state)
  | startRoutineByLocalIdentifier routine data =>
    ignore (Kwp2000.startRoutineByLocalIdentifier c routine data)
  | stopRoutineByLocalIdentifier routine data =>
    ignore (Kwp2000.stopRoutineByLocalIdentifier c routine data)
  | requestRoutineResultsByLocalIdentifier routine =>
    ignore (Kwp2000.requestRoutineResultsByLocalIdentifier c routine)
  | requestDownload address size dataFormat addrBytes sizeBytes =>
    ignore (Kwp2000.requestDownload c address size dataFormat addrBytes sizeBytes)
  | requestUpload address size dataFormat addrBytes sizeBytes =>
    ignore (Kwp2000.requestUpload c address size dataFormat addrBytes sizeBytes)
  | transferData data => ignore (Kwp2000.transferData c data)
  | requestTransferExit data => ignore (Kwp2000.requestTransferExit c data)
  | testerPresent responseRequired => ignore (Kwp2000.testerPresent c responseRequired)

/-- The bytes of an address and of a size. -/
def memoryBytes (address size addrBytes sizeBytes : Int) : Except Exn Bytes := do
  let a ← Py.intToBytesBig address addrBytes
  let s ← Py.intToBytesBig size sizeBytes
  return a ++ s

/-- What the call sends, or what it raises before it sends anything. -/
def request : KwpCall → Except Exn Request
  | startDiagnosticSession session data => builtRequest 0x10 (Py.bytesOf [session]) data
  | stopDiagnosticSession => .ok ⟨0x20, [], true⟩
  | ecuReset resetType => builtRequest 0x11 (Py.bytesOf [resetType]) []
  | readEcuIdentification option => builtRequest 0x1A (Py.bytesOf [option]) []
  | clearDiagnosticInformation group => .ok ⟨0x14, Uds.didBytes group, true⟩
  | readDtcsByStatus status group => builtRequest 0x18 (Py.bytesOf [status]) (Uds.didBytes group)
  | readStatusOfDtc dtc => .ok ⟨0x17, Uds.didBytes dtc, true⟩
  | readDataByLocalIdentifier lid => .ok ⟨0x21, [Py.lowByte lid], true⟩
  | readDataByCommonIdentifier did => .ok ⟨0x22, Uds.didBytes did, true⟩
  | readMemoryByAddress address size addrBytes sizeBytes =>
    builtRequest 0x23 (memoryBytes address size addrBytes sizeBytes) []
  | securityAccessRequestSeed level => builtRequest 0x27 (Py.bytesOf [level]) []
  | securityAccessSendKey level key => builtRequest 0x27 (Py.bytesOf [level + 1]) key
  | dynamicallyDefineLocalIdentifier lid definition =>
    .ok ⟨0x2C, Py.lowByte lid :: definition, true⟩
  | writeDataByCommonIdentifier did data => .ok ⟨0x2E, Uds.didBytes did ++ data, true⟩
  | writeDataByLocalIdentifier lid data => .ok ⟨0x3B, Py.lowByte lid :: data, true⟩
  | inputOutputControlByLocalIdentifier lid parameter state => builtRequest 0x30 (do
      let b ← Py.bytesOf [parameter]
      return Py.lowByte lid :: b) state
  | startRoutineByLocalIdentifier routine data => .ok ⟨0x31, Py.lowByte routine :: data, true⟩
  | stopRoutineByLocalIdentifier routine data => .ok ⟨0x32, Py.lowByte routine :: data, true⟩
  | requestRoutineResultsByLocalIdentifier routine => .ok ⟨0x33, [Py.lowByte routine], true⟩
  | requestDownload address size dataFormat addrBytes sizeBytes =>
    builtRequest 0x34 (Kwp2000.transferBytes address size dataFormat addrBytes sizeBytes) []
  | requestUpload address size dataFormat addrBytes sizeBytes =>
    builtRequest 0x35 (Kwp2000.transferBytes address size dataFormat addrBytes sizeBytes) []
  | transferData data => .ok ⟨0x36, data, true⟩
  | requestTransferExit data => .ok ⟨0x37, data, true⟩
  | testerPresent responseRequired =>
    .ok ⟨0x3E, [if responseRequired then 0x01 else 0x02], responseRequired⟩

end KwpCall

section Shapes

variable {c : Client σ}

/-- Every record of three bytes is there. -/
theorem kwpRecords_returns (records : Bytes) : Returns (Kwp2000.eachRecord records) := by
  refine returns_mapM fun j hj => ?_
  have hj : j < records.length / 3 := List.mem_range.mp hj
  rw [index_of_lt (by omega), index_of_lt (by omega), index_of_lt (by omega)]
  exact ⟨_, rfl⟩

theorem kwpRecords_quiet (records : Bytes) :
    ∃ out, (Call.ofExcept (Kwp2000.eachRecord records) : Call Exn σ _) = pure out := by
  obtain ⟨out, hout⟩ := kwpRecords_returns records
  exact ⟨out, by rw [hout]; rfl⟩

theorem sendsOnce_dtcsByStatus (status group : Int) :
    SendsOnce c (Kwp2000.readDtcsByStatus c status group)
      (KwpCall.request (.readDtcsByStatus status group)) := by
  have h := (sendsOnce_built (c := c) 0x18 (Py.bytesOf [status]) (Uds.didBytes group)).bind
    fun data => kwpRecords_quiet (data.drop 1)
  rw [bind_assoc] at h
  exact h

end Shapes

/-- **Every service sends one request**, and what it makes of the answer raises nothing. -/
theorem sendsOnce_kwp (u : KwpCall) (c : Client σ) : SendsOnce c (u.run c) u.request := by
  cases u with
  | startDiagnosticSession session data => exact (sendsOnce_withByte 0x10 session data).ignore
  | stopDiagnosticSession => exact ((sendsOnce_send 0x20 _).bind fun _ => ⟨(), rfl⟩).ignore
  | ecuReset resetType => exact (sendsOnce_built_nil 0x11 _).ignore
  | readEcuIdentification option => exact (sendsOnce_echoed 0x1A option).ignore
  | clearDiagnosticInformation group =>
    exact ((sendsOnce_send 0x14 _).bind fun _ => ⟨(), rfl⟩).ignore
  | readDtcsByStatus status group => exact (sendsOnce_dtcsByStatus status group).ignore
  | readStatusOfDtc dtc => exact ((sendsOnce_send 0x17 _).bind kwpRecords_quiet).ignore
  | readDataByLocalIdentifier lid =>
    exact ((sendsOnce_send 0x21 _).bind fun _ => ⟨_, rfl⟩).ignore
  | readDataByCommonIdentifier did =>
    exact ((sendsOnce_send 0x22 _).bind fun _ => ⟨_, rfl⟩).ignore
  | readMemoryByAddress address size addrBytes sizeBytes =>
    exact (sendsOnce_built_nil 0x23 _).ignore
  | securityAccessRequestSeed level => exact (sendsOnce_echoed 0x27 level).ignore
  | securityAccessSendKey level key => exact (sendsOnce_key level key).ignore
  | dynamicallyDefineLocalIdentifier lid definition => exact (sendsOnce_send 0x2C _).ignore
  | writeDataByCommonIdentifier did data =>
    exact ((sendsOnce_send 0x2E _).bind fun _ => ⟨(), rfl⟩).ignore
  | writeDataByLocalIdentifier lid data =>
    exact ((sendsOnce_send 0x3B _).bind fun _ => ⟨(), rfl⟩).ignore
  | inputOutputControlByLocalIdentifier lid parameter state =>
    exact (sendsOnce_built 0x30 _ state).ignore
  | startRoutineByLocalIdentifier routine data =>
    exact ((sendsOnce_send 0x31 _).bind fun _ => ⟨_, rfl⟩).ignore
  | stopRoutineByLocalIdentifier routine data =>
    exact ((sendsOnce_send 0x32 _).bind fun _ => ⟨_, rfl⟩).ignore
  | requestRoutineResultsByLocalIdentifier routine =>
    exact ((sendsOnce_send 0x33 _).bind fun _ => ⟨_, rfl⟩).ignore
  | requestDownload address size dataFormat addrBytes sizeBytes =>
    exact (sendsOnce_built_nil 0x34 _).ignore
  | requestUpload address size dataFormat addrBytes sizeBytes =>
    exact (sendsOnce_built_nil 0x35 _).ignore
  | transferData data => exact (sendsOnce_send 0x36 data).ignore
  | requestTransferExit data => exact (sendsOnce_send 0x37 data).ignore
  | testerPresent responseRequired =>
    refine SendsOnce.ignore (SendsOnce.bind ?_ fun _ => ⟨(), rfl⟩)
    exact ⟨id, (Call.bind_pure _).symm⟩

end AutoDiag.Proof
