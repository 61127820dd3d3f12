import AutoDiag.Protocol.J1979
import AutoDiag.Proof.KwpRequests

/-!
# Malformed replies

A transport that raises nothing may still deliver anything: replies that are
empty, cut short, too long or of another service. Every index into one is taken
behind a guard that suffices for it, so the operations of `J1979` return, and the
services of the two clients return or raise their own errors (`replies_contained`).
-/

namespace AutoDiag.Proof

open Call Client Obd2 Raise
open Pids (Pid pids decodePid)

variable {σ : Type}

/-- Requests and further reads go through. -/
structure Quiet (t : Transport σ) : Prop where
  request : ∀ payload functional, Raises (fun _ => False) (t.request payload functional)
  receive : Raises (fun _ => False) t.receive

/-! ## Values -/

/-- The decoder finds the bytes it asks for. -/
def Readable (spec : Pid) : Prop := ∀ d : Bytes, spec.nBytes ≤ d.length → Returns (spec.decode d)

theorem readable_one {pid : Nat} {name unit : String} {decode : Bytes → Except Exn Pids.Value}
    (h : ∀ a rest, Returns (decode (a :: rest))) : Readable ⟨pid, name, 1, unit, decode⟩ := by
  intro d hd
  match d, hd with
  | a :: rest, _ => exact h a rest

theorem readable_two {pid : Nat} {name unit : String} {decode : Bytes → Except Exn Pids.Value}
    (h : ∀ a b rest, Returns (decode (a :: b :: rest))) :
    Readable ⟨pid, name, 2, unit, decode⟩ := by
  intro d hd
  match d, hd with
  | a :: b :: rest, _ => exact h a b rest

section Decoders

open Pids

variable {pid : Nat} {name unit : String}

/-- The decoders of the table read one byte or two. -/
theorem percent_readable : Readable ⟨pid, name, 1, unit, percent⟩ :=
  readable_one fun _ _ => returns_ok _

theorem fuelTrim_readable : Readable ⟨pid, name, 1, unit, fuelTrim⟩ :=
  readable_one fun _ _ => returns_ok _

theorem scaled_readable (factor offset : Int) :
    Readable ⟨pid, name, 1, unit, scaled factor offset⟩ :=
  readable_one fun _ _ => returns_ok _

theorem advance_readable : Readable ⟨pid, name, 1, unit, advance⟩ :=
  readable_one fun _ _ => returns_ok _

theorem quotient_readable (divisor : ℚ) : Readable ⟨pid, name, 2, unit, quotient divisor⟩ :=
  readable_two fun _ _ _ => returns_ok _

theorem wordTimes_readable (factor : Int) : Readable ⟨pid, name, 2, unit, wordTimes factor⟩ :=
  readable_two fun _ _ _ => returns_ok _

theorem wordQuotient_readable (divisor : ℚ) :
    Readable ⟨pid, name, 2, unit, wordQuotient divisor⟩ :=
  readable_two fun _ _ _ => returns_ok _

end Decoders

/-- The table asks for as many bytes as its decoders read. -/
theorem pids_readable : ∀ spec ∈ pids, Readable spec := by
  unfold pids
  simp only [List.forall_mem_cons, percent_readable, fuelTrim_readable, scaled_readable,
    advance_readable, quotient_readable, wordTimes_readable, wordQuotient_readable, true_and,
    List.not_mem_nil, false_imp_iff, implies_true]

/-- A value is decoded only where there are as many bytes as the table says. -/
theorem decodePid_returns (pid : Nat) (data : Bytes) : Returns (decodePid pid data) := by
  unfold decodePid
  cases hfind : Pids.find pid with
  | none => exact returns_pure _
  | some spec =>
    dsimp only
    split
    · exact returns_pure _
    · rename_i hlen
      exact returns_bind (pids_readable spec (List.mem_of_find?_eq_some hfind) data
        (Nat.le_of_not_lt hlen)) fun _ _ => returns_pure _

/-! ## Replies -/

/-- Each index that is compared lies inside the reply. -/
theorem echoes_returns (d : Bytes) {expected : Bytes} {i : Nat}
    (h : i + expected.length ≤ d.length) : Returns (echoes d i expected) := by
  induction expected generalizing i with
  | nil => exact returns_pure _
  | cons b bs ih =>
    rw [List.length_cons] at h
    rw [echoes, index_of_lt (by omega), ok_bind]
    split
    · exact ih (by omega)
    · exact returns_pure _

/-- The length that is asked for covers what is compared. -/
theorem answersTo_returns (d : Bytes) {n : Nat} {expected : Bytes} (h : expected.length ≤ n) :
    Returns (answersTo d n expected) := by
  unfold answersTo
  split
  · exact echoes_returns d (by omega)
  · exact returns_pure _

/-- A loop that looks at each reply and goes on or stops. -/
theorem returns_guarded {α : Type} {r : Bytes} {n : Nat} {expected : Bytes}
    (h : expected.length ≤ n) {x y : Except Exn α} (hx : Returns x) (hy : Returns y) :
    Returns (do if ← answersTo r n expected then x else y) := by
  refine returns_bind (answersTo_returns r h) fun b _ => ?_
  cases b
  · exact hy
  · exact hx

/-- By induction on the payloads that are left. -/
theorem firstValue_returns (pid : Nat) (payloads : List Bytes) :
    Returns (firstValue pid payloads) := by
  induction payloads with
  | nil => exact returns_pure _
  | cons d ds ih =>
    rw [firstValue]
    refine returns_bind (decodePid_returns pid (d.drop 2)) fun value _ => ?_
    cases value with
    | none => exact ih
    | some v => exact returns_pure _

theorem frozenValue_returns (pid frame : UInt8) (rs : List EcuResponse) :
    Returns (frozenValue pid frame rs) := by
  induction rs with
  | nil => exact returns_pure _
  | cons r rs ih => exact returns_guarded (by simp) (decodePid_returns _ _) ih

theorem acknowledged_returns (rs : List EcuResponse) : Returns (acknowledged rs) := by
  induction rs with
  | nil => exact returns_pure _
  | cons r rs ih => exact returns_guarded (by simp) (returns_pure _) ih

theorem controlled_returns (tid : UInt8) (rs : List EcuResponse) :
    Returns (controlled tid rs) := by
  induction rs with
  | nil => exact returns_pure _
  | cons r rs ih => exact returns_guarded (by simp) (returns_pure _) ih

/-- Whatever the bytes behind the echo are, a text is made of them. -/
theorem firstText_returns (pid : UInt8) (rs : List EcuResponse) : Returns (firstText pid rs) := by
  induction rs with
  | nil => exact returns_pure _
  | cons r rs ih =>
    refine returns_guarded (by simp) ?_ ih
    dsimp only
    split
    · exact returns_pure _
    · exact ih

theorem verificationNumber_returns (rs : List EcuResponse) : Returns (verificationNumber rs) := by
  induction rs with
  | nil => exact returns_pure _
  | cons r rs ih => exact returns_guarded (by simp) (returns_pure _) ih

/-- A pair in front shifts the pairs behind it by one. -/
theorem codeAt_cons (hi lo : UInt8) (body : Bytes) (j : Nat) :
    codeAt (hi :: lo :: body) (j + 1) = codeAt body j := rfl

/-- Pair by pair, the loop with indices goes through the body as the recursion does. -/
theorem codeAt_pairs {k : Nat} {body : Bytes} (h : 2 * k ≤ body.length) :
    ∃ codes, (List.range k).mapM (codeAt body) = .ok codes
      ∧ codes.filter (· ≠ Dtc.none) = decodePairs (2 * k) body := by
  induction k generalizing body with
  | zero => exact ⟨[], rfl, by simp [decodePairs]⟩
  | succ k ih =>
    match body, h with
    | hi :: lo :: rest, h =>
      simp only [List.length_cons] at h
      obtain ⟨codes, hcodes, hfilter⟩ := ih (show 2 * k ≤ rest.length by omega)
      refine ⟨Dtc.decodeDtc hi lo :: codes, ?_, ?_⟩
      · -- behind the first pair, each index is that of the rest and one more
        rw [List.range_succ_eq_map, List.mapM_cons, List.mapM_map]
        simp only [Function.comp_def, codeAt_cons, hcodes]
        rfl
      · rw [show 2 * (k + 1) = 2 * k + 2 from rfl, decodePairs, List.filter_cons, hfilter]
        simp

/-- **The indices that the loop takes are all there**, and it reads what the recursion reads. -/
theorem parseDtcPayloadIndexed_eq (data : Bytes) :
    parseDtcPayloadIndexed data = .ok (parseDtcPayload data) := by
  match data with
  | [] | [_] => rfl
  | _ :: count :: body =>
    obtain ⟨n, hn⟩ : ∃ n, min (count.toNat * 2) (body.length - body.length % 2) = 2 * n :=
      ⟨min (count.toNat * 2) (body.length - body.length % 2) / 2, by omega⟩
    obtain ⟨codes, hcodes, hfilter⟩ := codeAt_pairs (show 2 * n ≤ body.length by omega)
    rw [parseDtcPayload, hn, ← hfilter, parseDtcPayloadIndexed, if_neg (by simp)]
    show (do
      let codes ← (List.range (min (count.toNat * 2)
        (body.length - body.length % 2) / 2)).mapM (codeAt body)
      return codes.filter (· ≠ Dtc.none)) = _
    rw [hn, Nat.mul_div_cancel_left n (by decide), hcodes]
    rfl

/-- The reading of trouble codes by indices is the one of the recursion. -/
theorem readDtcsIndexed_eq (t : Transport σ) (mode : UInt8) :
    readDtcsIndexed t mode = readDtcsOf t mode := by
  refine bind_congr fun rs => ?_
  rw [mapM_ok fun d _ => parseDtcPayloadIndexed_eq d, List.flatMap_def]
  rfl

/-- Two bytes of a record. -/
theorem recordWord_returns {rec : Bytes} {i : Nat} (h : i + 1 < rec.length) :
    Returns (recordWord rec i) := by
  rw [recordWord, index_of_lt (by omega), ok_bind, index_of_lt h, ok_bind]
  exact returns_pure _

/-- A record is a slice of nine bytes, which are all that is read. -/
theorem testResult_returns {rec : Bytes} (h : rec.length = 9) : Returns (testResult rec) := by
  rw [testResult, index_of_lt (by omega), ok_bind, index_of_lt (by omega), ok_bind,
    index_of_lt (by omega), ok_bind]
  refine returns_bind (recordWord_returns (by omega)) fun value _ => ?_
  refine returns_bind (recordWord_returns (by omega)) fun low _ => ?_
  exact returns_bind (recordWord_returns (by omega)) fun high _ => returns_pure _

/-- The loop stops where nine bytes are no longer left. -/
theorem testResults_returns (body : Bytes) : Returns (testResults body) := by
  refine returns_mapM fun j hj => ?_
  have hj : j < body.length / 9 := List.mem_range.mp hj
  refine testResult_returns ?_
  rw [Py.slice, List.length_drop, List.length_take]
  omega

/-! ## The operations of J1979 -/

/-- A call of an operation of `J1979`, with its arguments; trouble codes without details. -/
inductive J1979Call where
  | supportedPids
  | readPid (pid : Int)
  | liveData
  | freezeFrame (pid frame : Int)
  | storedDtcs
  | pendingDtcs
  | permanentDtcs
  | clearDtcs
  | monitorTestResults (obdmid : Int)
  | requestControl (tid : Int) (data : Bytes)
  | vin
  | calibrationIds
  | cvn

namespace J1979Call

/-- The call, over a transport. -/
def run (t : Transport σ) : J1979Call → Call Exn σ Unit
  | supportedPids => ignore (readSupportedPids t)
  | readPid pid => ignore (Obd2.readPid t pid)
  | liveData => ignore (scanLiveData t)
  | freezeFrame pid frame => ignore (readFreezeFrame t pid frame)
  | storedDtcs => ignore (readDtcsIndexed t 0x03)
  | pendingDtcs => ignore (readPendingDtcs t)
  | permanentDtcs => ignore (readPermanentDtcs t)
  | clearDtcs => ignore (Obd2.clearDtcs t)
  | monitorTestResults obdmid => ignore (readMonitorTestResults t obdmid)
  | requestControl tid data => ignore (Obd2.requestControl t tid data)
  | vin => ignore (readVin t)
  | calibrationIds => ignore (readCalibrationIds t)
  | cvn => ignore (readCvn t)

/-- The bytes that are built from the arguments. -/
def request : J1979Call → Except Exn Bytes
  | readPid pid => Py.bytesOf [0x01, pid]
  | freezeFrame pid frame => Py.bytesOf [0x02, pid, frame]
  | monitorTestResults obdmid => Py.bytesOf [0x06, obdmid]
  | requestControl tid _ => Py.bytesOf [0x08, tid]
  | _ => .ok []

end J1979Call

theorem bytesOf_returns {xs : List Int} (h : ∀ x ∈ xs, 0 ≤ x ∧ x < 256) :
    Returns (Py.bytesOf xs) :=
  ⟨_, Py.bytesOf_of_range h⟩

/-- The PIDs of the table are bytes. -/
theorem find_lt {pid : Nat} {spec : Pid} (h : Pids.find pid = some spec) : pid < 256 := by
  have hpids : ∀ spec ∈ pids, spec.pid < 256 := by decide
  rw [Pids.find] at h
  have hpid := List.find?_some h
  rw [← beq_iff_eq.mp hpid]
  exact hpids spec (List.mem_of_find?_eq_some h)

theorem raises_ignore {α : Type} {E : Exn → Prop} {x : Call Exn σ α}
    (h : Raises E x) : Raises E (ignore x) :=
  raises_bind h fun _ => raises_pure _

/-- What a client of the family raises. -/
def Own (f : Family) (e : Exn) : Prop := ∃ err, e = f.exn err

theorem raises_pick (f : Family) (rs : List EcuResponse) :
    Raises (Own f) (Call.ofExcept (pick f rs) : Call Exn σ Bytes) := by
  refine raises_ofExcept fun e h => ?_
  unfold pick at h
  split at h
  · cases h
  · exact ⟨_, (Except.error.inj h).symm⟩

theorem raises_check (f : Family) (resp : Bytes) (sid : UInt8) :
    Raises (Own f) (Call.ofExcept (check f resp sid) : Call Exn σ Unit) := by
  refine raises_ofExcept fun e h => ?_
  unfold check at h
  split at h
  · exact ⟨_, (Except.error.inj h).symm⟩
  · split at h
    · exact ⟨_, (Except.error.inj h).symm⟩
    · cases h

section Quiet

variable {t : Transport σ} (hq : Quiet t)

include hq

/-- A request that can be built, and a reading of the replies that raises nothing. -/
theorem raises_asked {α : Type} {E : Exn → Prop} {built : Except Exn Bytes} (hbuilt : Returns built)
    (g : Bytes → Bytes) {f : List EcuResponse → Except Exn α} (hf : ∀ rs, Returns (f rs)) :
    Raises E (do
      let req ← Call.ofExcept built
      let responses ← t.request (g req) true
      Call.ofExcept (f responses)) := by
  refine raises_bind (raises_ofExcept_ok hbuilt) fun req => ?_
  refine raises_bind ((hq.request _ _).mono fun _ h => h.elim) fun rs => ?_
  exact raises_ofExcept_ok (hf rs)

/-- The same for a request that is fixed. -/
theorem raises_fixed {α : Type} {E : Exn → Prop} (req : Bytes) {f : List EcuResponse → Except Exn α}
    (hf : ∀ rs, Returns (f rs)) :
    Raises E (do
      let responses ← t.request req true
      Call.ofExcept (f responses)) :=
  raises_bind ((hq.request _ _).mono fun _ h => h.elim) fun rs => raises_ofExcept_ok (hf rs)

theorem raises_readPid {E : Exn → Prop} {pid : Int} (hbuilt : Returns (Py.bytesOf [0x01, pid])) :
    Raises E (Obd2.readPid t pid) :=
  raises_asked hq hbuilt id fun _ => firstValue_returns _ _

/-- By induction on the ranges that are left. -/
theorem raises_supportedFrom {E : Exn → Prop} {bases : List Nat} (h : ∀ base ∈ bases, base < 256) :
    Raises E (supportedFrom t bases) := by
  induction bases with
  | nil => exact raises_pure _
  | cons base bases ih =>
    have hbase := h base (List.mem_cons_self ..)
    have hbuilt : Returns (Py.bytesOf [0x01, (base : Int)]) := bytesOf_returns (by simp; omega)
    refine raises_bind (raises_ofExcept_ok hbuilt) fun req => ?_
    refine raises_bind ((hq.request _ _).mono fun _ h => h.elim) fun rs => ?_
    split
    · exact raises_pure _
    · dsimp only
      split
      · exact raises_bind (ih fun b hb => h b (List.mem_cons_of_mem _ hb)) fun _ => raises_pure _
      · exact raises_pure _

theorem raises_readSupportedPids {E : Exn → Prop} : Raises E (readSupportedPids t) :=
  raises_supportedFrom hq (by decide)

/-- Whatever is supported, only PIDs of the table are read. -/
theorem raises_scanPid {E : Exn → Prop} (out : List (String × Str)) (pid : Nat) :
    Raises E (scanPid t out pid) := by
  unfold scanPid
  cases hfind : Pids.find pid with
  | none => exact raises_pure _
  | some spec =>
    have hpid := find_lt hfind
    refine raises_bind (raises_readPid hq (bytesOf_returns (by simp; omega))) fun value => ?_
    cases value with
    | none => exact raises_pure _
    | some v => exact raises_pure _

theorem raises_readDtcs {E : Exn → Prop} (mode : UInt8) : Raises E (readDtcsIndexed t mode) := by
  rw [readDtcsIndexed_eq]
  exact raises_bind ((hq.request _ _).mono fun _ h => h.elim) fun _ => raises_pure _

theorem raises_readMonitorTestResults {E : Exn → Prop} {obdmid : Int}
    (hbuilt : Returns (Py.bytesOf [0x06, obdmid])) :
    Raises E (readMonitorTestResults t obdmid) := by
  refine raises_bind (raises_ofExcept_ok hbuilt) fun req => ?_
  refine raises_bind ((hq.request _ _).mono fun _ h => h.elim) fun rs => ?_
  refine raises_bind (raises_ofExcept_ok ?_) fun _ => raises_pure _
  exact returns_mapM fun d _ => testResults_returns (d.drop 1)

/-- **The operations of J1979 return.** -/
theorem J1979Call.raises {E : Exn → Prop} (op : J1979Call) (h : Returns op.request) :
    Raises E (op.run t) := by
  cases op with
  | supportedPids => exact raises_ignore (raises_readSupportedPids hq)
  | readPid pid => exact raises_ignore (raises_readPid hq h)
  | liveData =>
    exact raises_ignore (raises_bind (raises_readSupportedPids hq)
      fun ps => raises_foldlM (raises_scanPid hq) [] ps)
  | freezeFrame pid frame =>
    exact raises_ignore (raises_asked hq h id fun _ => frozenValue_returns _ _ _)
  | storedDtcs => exact raises_ignore (raises_readDtcs hq 0x03)
  | pendingDtcs => exact raises_ignore (raises_readDtcs hq 0x07)
  | permanentDtcs => exact raises_ignore (raises_readDtcs hq 0x0A)
  | clearDtcs => exact raises_ignore (raises_fixed hq _ acknowledged_returns)
  | monitorTestResults obdmid => exact raises_ignore (raises_readMonitorTestResults hq h)
  | requestControl tid data =>
    exact raises_ignore (raises_asked hq h (· ++ data) fun _ => controlled_returns _ _)
  | vin => exact raises_ignore (raises_fixed hq _ (firstText_returns 0x02))
  | calibrationIds => exact raises_ignore (raises_fixed hq _ (firstText_returns 0x04))
  | cvn => exact raises_ignore (raises_fixed hq _ verificationNumber_returns)

/-! ## The services of the clients -/

/-- By induction on the pendings that are still allowed. -/
theorem raises_awaitFinal (f : Family) (maxPending left : Nat) (resp : Bytes) :
    Raises (Own f) ((⟨f, t, maxPending⟩ : Client σ).awaitFinal left resp) := by
  induction left generalizing resp with
  | zero =>
    rw [awaitFinal]
    split
    · exact raises_raise ⟨_, rfl⟩
    · exact raises_pure _
  | succ left ih =>
    rw [awaitFinal]
    split
    · refine raises_bind (hq.receive.mono fun _ h => h.elim) fun rs => ?_
      exact raises_bind (raises_pick f rs) fun resp => ih resp
    · exact raises_pure _

/-- The transport is quiet, so only the client itself raises. -/
theorem raises_send (f : Family) (maxPending : Nat) (sid : UInt8) (data : Bytes) (expect : Bool) :
    Raises (Own f) ((⟨f, t, maxPending⟩ : Client σ).send sid data expect) := by
  refine raises_bind ((hq.request _ _).mono fun _ h => h.elim) fun rs => ?_
  split
  · exact raises_pure _
  · refine raises_bind (raises_pick f rs) fun resp => ?_
    refine raises_bind (raises_awaitFinal hq f maxPending maxPending resp) fun resp => ?_
    exact raises_bind (raises_check f resp sid) fun _ => raises_pure _

/-- **One request that can be built** is answered, or ends in what the client raises. -/
theorem ends_sendsOnce {α : Type} {f : Family} {maxPending : Nat} {x : Call Exn σ α}
    {request : Except Exn Request} (hsends : SendsOnce (⟨f, t, maxPending⟩ : Client σ) x request)
    (hrequest : Returns request) (s : σ) :
    Returns (x s).1 ∨ ∃ err, (x s).1 = .error (f.exn err) := by
  obtain ⟨finish, rfl⟩ := hsends
  have hraises : Raises (Own f) (do
      let r ← Call.ofExcept request
      let data ← (⟨f, t, maxPending⟩ : Client σ).send r.sid r.data r.expectResponse
      return finish data) := by
    refine raises_bind (raises_ofExcept_ok hrequest) fun r => ?_
    exact raises_bind (raises_send hq f maxPending _ _ _) fun _ => raises_pure _
  rcases hraises.ends s with hok | ⟨e, ⟨err, rfl⟩, he⟩
  · exact .inl hok
  · exact .inr ⟨err, he⟩

end Quiet

/--
**Malformed replies are contained.** Over a transport that raises nothing, whatever
it delivers, every operation of `J1979` returns, and every service of the clients
returns or raises an error of its own.
-/
theorem replies_contained {t : Transport σ} (hq : Quiet t) (maxPending : Nat) (s : σ) :
    (∀ op : J1979Call, Returns op.request → Returns (op.run t s).1)
    ∧ (∀ u : UdsCall, Returns u.request → Returns (u.run (Uds.client t maxPending) s).1
        ∨ ∃ err, (u.run (Uds.client t maxPending) s).1 = .error (.udsError err))
    ∧ ∀ u : KwpCall, Returns u.request → Returns (u.run (Kwp2000.client t maxPending) s).1
        ∨ ∃ err, (u.run (Kwp2000.client t maxPending) s).1 = .error (.kwpError err) := by
  refine ⟨fun op h => (J1979Call.raises hq op h).returns s, fun u h => ?_, fun u h => ?_⟩
  · exact ends_sendsOnce hq (sendsOnce u _) h s
  · exact ends_sendsOnce hq (sendsOnce_kwp u _) h s

theorem streamed_quiet (replies : Nat → List EcuResponse) : Quiet (streamed replies) where
  request _ _ _ _ h := by cases h
  receive _ _ h := by cases h

/-- A reply that ends behind its service is passed over. -/
theorem replies_contained_cutShort :
    Returns (J1979Call.liveData.run (streamed fun _ => [⟨0x7E8, [0x41]⟩]) 0).1 :=
  (replies_contained (streamed_quiet fun _ => [⟨0x7E8, [0x41]⟩]) 10 0).1 .liveData (returns_ok [])

end AutoDiag.Proof
