import AutoDiag.Proof.Bench
import AutoDiag.Proof.Simulator

/-!
# What a tool sees of the simulated car

The operations of J1979 over a simulated ECU, from the tool's request through the
sockets and the thread to the reading of the answer: what each of them returns
(`car_readings`), whatever has been read before and however thread and owner take turns,
as long as every wait is long enough for an answer.
-/

namespace AutoDiag.Proof

open Call Obd2 Serve Raise

/-- What the table of the ECU says, as values. -/
def measured : List (Nat × Pids.Value) :=
  [(0x04, .float (Py.fdiv (Py.fmul 127 100) 255)), (0x05, .int 50),
    (0x0C, .float (Py.fdiv 6904 4)), (0x0D, .int 80), (0x0F, .int 30),
    (0x11, .float (Py.fdiv (Py.fmul 51 100) 255))]

/-- The live data that a scan shows. -/
def dashboard : List (String × Str) :=
  [("Calculated Engine Load", "49.8 %".toList), ("Coolant Temperature", "50 degC".toList),
    ("Engine RPM", "1726 rpm".toList), ("Vehicle Speed", "80 km/h".toList),
    ("Intake Air Temperature", "30 degC".toList), ("Throttle Position", "20 %".toList)]

/-- What the tool shows of the identification number: nothing where it is blank. -/
def shownVin (ecu : SimulatedEcu) : Option Str :=
  if Py.strip ecu.vin = [] then none else some (Py.strip ecu.vin)

/-- What the tool returns; only the arguments that are no bytes make it raise. -/
def J1979Call.seen (ecu : SimulatedEcu) : J1979Call → Except Exn Answer
  | supportedPids => .ok (.pids (measured.map Prod.fst))
  | readPid pid => do
    let _ ← Py.bytesOf [0x01, pid]
    return .value? (measured.lookup pid.toNat)
  | liveData => .ok (.liveData dashboard)
  | freezeFrame pid frame => do
    let _ ← Py.bytesOf [0x02, pid, frame]
    return .value? none
  | storedDtcs => .ok (.codes (ecu.dtcs.filter (· ≠ Dtc.none)))
  | pendingDtcs => .ok (.codes [])
  | permanentDtcs => .ok (.codes [])
  | clearDtcs => .ok (.flag false)
  | monitorTestResults obdmid => do
    let _ ← Py.bytesOf [0x06, obdmid]
    return .testResults []
  | requestControl tid _ => do
    let _ ← Py.bytesOf [0x08, tid]
    return .bytes? none
  | vin => .ok (.text? (shownVin ecu))
  | calibrationIds => .ok (.text? none)
  | cvn => .ok (.text? none)

/-! ## Single requests -/

variable {ecu : SimulatedEcu}

/-- A request the ECU can answer. -/
theorem direct_answer {payload resp : Bytes} (h : Answers ecu payload resp) (hne : payload ≠ [])
    (functional : Bool) :
    (direct ecu).request payload functional true = (.ok [⟨0x7E8, resp⟩], true) := by
  rw [direct]
  dsimp only
  rw [if_neg (by simp [hne]), h]

/-- The PIDs of the bitmaps, and those of the table. -/
def answeredPids : List Nat := [0x00, 0x20, 0x40, 0x04, 0x05, 0x0C, 0x0D, 0x0F, 0x11]

set_option maxRecDepth 4000 in
theorem currentData_unknown : ∀ n < 256, n ∉ answeredPids →
    SimulatedEcu.currentData 0x01 (UInt8.ofNat n) = [0x7F, 0x01, 0x12] := by decide

theorem measured_unknown {n : Nat} (h : n ∉ answeredPids) : measured.lookup n = none := by
  refine List.lookup_eq_none_iff.mpr fun e he => ?_
  have hkey : e.1 ∈ answeredPids := by
    have hkeys : ∀ k ∈ measured.map Prod.fst, k ∈ answeredPids := by decide
    exact hkeys e.1 (List.mem_map_of_mem he)
  have hne : n ≠ e.1 := fun heq => h (heq ▸ hkey)
  simpa using hne

/-- Every PID, whether or not the ECU has it. -/
theorem firstValue_current {n : Nat} (h : n < 256) :
    firstValue n (positive [⟨0x7E8, SimulatedEcu.currentData 0x01 (UInt8.ofNat n)⟩] 0x01
      (some (UInt8.ofNat n))) = .ok (measured.lookup n) := by
  by_cases hn : n ∈ answeredPids
  · simp only [answeredPids, List.mem_cons, List.not_mem_nil, or_false] at hn
    rcases hn with rfl | rfl | rfl | rfl | rfl | rfl | rfl | rfl | rfl <;> rfl
  · rw [currentData_unknown n h hn, measured_unknown hn]
    rfl

theorem supported_car : readSupportedPids (direct ecu) true
    = (.ok (measured.map Prod.fst), true) := by rfl

/-- A request that cannot be built is not sent. -/
theorem built_run {α : Type} (x : Except Exn Bytes) (f : Bytes → Call Exn Bool α) (s : Bool) :
    (Call.ofExcept x >>= f) s
      = match x with
        | .ok req => f req s
        | .error e => (.error e, s) := by
  cases x <;> rfl

/-- The first of several bytes is the one that is given. -/
theorem bytesOf_cons {b : Nat} (hb : b < 256) (xs : List Int) :
    (∃ rest, Py.bytesOf ((b : Int) :: xs) = .ok (UInt8.ofNat b :: rest))
      ∨ ∃ e, Py.bytesOf ((b : Int) :: xs) = .error e := by
  rw [Py.bytesOf, List.mapM_cons, Py.toByte_of_range ⟨by omega, by omega⟩, Py.lowByte_natCast,
    ok_bind]
  cases xs.mapM Py.toByte with
  | ok rest => exact .inl ⟨rest, rfl⟩
  | error e => exact .inr ⟨e, rfl⟩

/-- Two bytes, of which the second may not be one. -/
theorem bytesOf_pid (pid : Int) :
    (∃ n : Nat, n < 256 ∧ pid = n ∧ Py.bytesOf [0x01, pid] = .ok [0x01, UInt8.ofNat n])
      ∨ ∃ e, Py.bytesOf [0x01, pid] = .error e := by
  by_cases h : 0 ≤ pid ∧ pid < 256
  · obtain ⟨n, rfl⟩ := Int.eq_ofNat_of_zero_le h.1
    exact .inl ⟨n, by omega, rfl, bytesOf_base (by omega)⟩
  · exact .inr (Py.bytesOf_of_not_range (List.mem_cons_of_mem _ List.mem_cons_self) h)

theorem answers_current {n : Nat} : Answers ecu [0x01, UInt8.ofNat n]
    (SimulatedEcu.currentData 0x01 (UInt8.ofNat n)) := rfl

theorem readPid_car (pid : Int) : readPid (direct ecu) pid true
    = ((do
        let _ ← Py.bytesOf [0x01, pid]
        return measured.lookup pid.toNat), true) := by
  rw [readPid, built_run]
  rcases bytesOf_pid pid with ⟨n, hn, rfl, hbuilt⟩ | ⟨e, hraise⟩
  · rw [hbuilt]
    refine (bind_run_ok (direct_answer answers_current (by simp) true)).trans ?_
    rw [Py.lowByte_natCast]
    exact congrArg (·, true) (firstValue_current hn)
  · rw [hraise]
    rfl

theorem scanPid_car {n : Nat} {value : Pids.Value} {spec : Pids.Pid} (hn : n < 256)
    (hfind : Pids.find n = some spec) (hvalue : measured.lookup n = some value)
    (out : List (String × Str)) : scanPid (direct ecu) out n true
      = (.ok (setItem out spec.name (Py.strip (shown value ++ ' ' :: spec.unit.toList))), true)
    := by
  have hread : readPid (direct ecu) n true = (.ok (some value), true) := by
    rw [readPid_car, bytesOf_base hn, Int.toNat_natCast, hvalue]
    rfl
  rw [scanPid, hfind]
  exact (bind_run_ok hread).trans rfl

theorem live_car : scanLiveData (direct ecu) true = (.ok dashboard, true) := by
  refine (bind_run_ok supported_car).trans ?_
  -- one by one, over the PIDs that the bitmap names
  show List.foldlM (scanPid (direct ecu)) [] [0x04, 0x05, 0x0C, 0x0D, 0x0F, 0x11] true = _
  simp only [List.foldlM_cons, List.foldlM_nil]
  refine (bind_run_ok (scanPid_car (by decide) rfl rfl _)).trans ?_
  refine (bind_run_ok (scanPid_car (by decide) rfl rfl _)).trans ?_
  refine (bind_run_ok (scanPid_car (by decide) rfl rfl _)).trans ?_
  refine (bind_run_ok (scanPid_car (by decide) rfl rfl _)).trans ?_
  refine (bind_run_ok (scanPid_car (by decide) rfl rfl _)).trans ?_
  refine (bind_run_ok (scanPid_car (by decide) rfl rfl _)).trans ?_
  refine congrArg (fun out => (Except.ok out, true)) ?_
  decide +kernel

/-! ## What the ECU refuses -/

theorem answers_refused (mode : UInt8) (h : mode ∉ [0x01, 0x03, 0x09]) (rest : Bytes) :
    Answers ecu (mode :: rest) [0x7F, mode, 0x12] := by
  simp only [List.mem_cons, List.not_mem_nil, or_false, not_or] at h
  obtain ⟨hcurrent, hstored, hinfo⟩ := h
  rw [Answers, SimulatedEcu.handle, Py.index_zero_cons, ok_bind, if_neg (by simp [hinfo]),
    if_neg hstored, decide_eq_false hcurrent]
  rfl

/-- A request of a mode that the ECU refuses, and a reading that makes nothing of the refusal. -/
theorem refused_car (ecu : SimulatedEcu) {α : Type} (mode : Nat) (hmode : mode < 256)
    (h : UInt8.ofNat mode ∉ [0x01, 0x03, 0x09]) (xs : List Int) (data : Bytes)
    {read : List EcuResponse → Call Exn Bool α} {a : α}
    (hread : read [⟨0x7E8, [0x7F, UInt8.ofNat mode, 0x12]⟩] true = (.ok a, true)) :
    (do
      let req ← Call.ofExcept (Py.bytesOf ((mode : Int) :: xs))
      let responses ← (direct ecu).request (req ++ data) true
      read responses : Call Exn Bool α) true
      = ((do
          let _ ← Py.bytesOf ((mode : Int) :: xs)
          return a), true) := by
  rw [built_run]
  -- a request that cannot be built raises before the ECU is asked
  rcases bytesOf_cons hmode xs with ⟨rest, hbuilt⟩ | ⟨e, hraise⟩
  · rw [hbuilt]
    have hanswer : Answers ecu _ _ := answers_refused _ h (rest ++ data)
    refine (bind_run_ok (direct_answer hanswer (by simp) true)).trans ?_
    rw [hread]
    rfl
  · rw [hraise]
    rfl

/-- The same without data. -/
theorem refused_car_nil (ecu : SimulatedEcu) {α : Type} (mode : Nat) (hmode : mode < 256)
    (h : UInt8.ofNat mode ∉ [0x01, 0x03, 0x09]) (xs : List Int)
    {read : List EcuResponse → Call Exn Bool α} {a : α}
    (hread : read [⟨0x7E8, [0x7F, UInt8.ofNat mode, 0x12]⟩] true = (.ok a, true)) :
    (do
      let req ← Call.ofExcept (Py.bytesOf ((mode : Int) :: xs))
      let responses ← (direct ecu).request req true
      read responses : Call Exn Bool α) true
      = ((do
          let _ ← Py.bytesOf ((mode : Int) :: xs)
          return a), true) := by
  have hrun := refused_car ecu mode hmode h xs [] hread
  simp only [List.append_nil] at hrun
  exact hrun

/-- No trouble codes come with a refusal. -/
theorem refusedCodes_car (ecu : SimulatedEcu) (mode : UInt8) (h : mode ∉ [0x01, 0x03, 0x09])
    (hnone : positive [⟨0x7E8, [0x7F, mode, 0x12]⟩] mode none = []) :
    readDtcsIndexed (direct ecu) mode true = (.ok [], true) := by
  refine (bind_run_ok (direct_answer (answers_refused mode h []) (by simp) true)).trans ?_
  rw [hnone]
  rfl

/-! ## The identification number and the codes -/

/-- The identification number is printable ASCII, the codes are codes, and their number is a byte. -/
structure Presentable (ecu : SimulatedEcu) : Prop where
  printable : ∀ c ∈ ecu.vin, 0x20 ≤ c.toNat ∧ c.toNat ≤ 0x7E
  codes : ∀ code ∈ ecu.dtcs, IsCode code
  count : ecu.dtcs.length ≤ 255

/-- Printable text comes back from its bytes. -/
theorem infoText_printable {text : Str} (h : ∀ c ∈ text, 0x20 ≤ c.toNat ∧ c.toNat ≤ 0x7E) :
    infoText (text.map fun c => UInt8.ofNat c.toNat) = Py.strip text := by
  have hbyte : ∀ c ∈ text, (UInt8.ofNat c.toNat).toNat = c.toNat := by
    intro c hc
    rw [UInt8.toNat_ofNat']
    have := h c hc
    omega
  have hshown : ∀ b ∈ text.map (fun c => UInt8.ofNat c.toNat),
      (decide (0x20 ≤ b) && decide (b ≤ 0x7E)) = true := by
    intro b hb
    obtain ⟨c, hc, rfl⟩ := List.mem_map.mp hb
    have hrange := h c hc
    rw [Bool.and_eq_true, decide_eq_true_iff, decide_eq_true_iff, UInt8.le_iff_toNat_le,
      UInt8.le_iff_toNat_le, hbyte c hc]
    exact hrange
  have hascii : ∀ b ∈ text.map (fun c => UInt8.ofNat c.toNat), decide (b < 128) = true := by
    intro b hb
    obtain ⟨c, hc, rfl⟩ := List.mem_map.mp hb
    have hrange := h c hc
    rw [decide_eq_true_iff, UInt8.lt_iff_toNat_lt, hbyte c hc]
    exact Nat.lt_of_le_of_lt hrange.2 (by decide)
  rw [infoText, List.filter_eq_self.mpr hshown, Py.decodeAscii, List.filter_eq_self.mpr hascii,
    List.map_map]
  congr 1
  refine (List.map_congr_left fun c hc => ?_).trans (List.map_id text)
  show Char.ofNat (UInt8.ofNat c.toNat).toNat = c
  rw [hbyte c hc, Char.ofNat_toNat]

/-- The bytes of the identification number. -/
def vinBytes (ecu : SimulatedEcu) : Bytes := ecu.vin.map fun c => UInt8.ofNat c.toNat

theorem answers_vin (h : Presentable ecu) (rest : Bytes) :
    Answers ecu (0x09 :: 0x02 :: rest) ([0x49, 0x02, 0x01] ++ vinBytes ecu) := by
  have hall : ecu.vin.all (·.toNat < 128) = true := by
    refine List.all_eq_true.mpr fun c hc => decide_eq_true ?_
    have := h.printable c hc
    omega
  rw [Answers, SimulatedEcu.handle, Py.index_zero_cons, ok_bind, if_pos ⟨rfl, rfl⟩,
    Py.encodeAscii, if_pos hall]
  rfl

theorem vin_car (h : Presentable ecu) : readVin (direct ecu) true = (.ok (shownVin ecu), true) := by
  refine (bind_run_ok (direct_answer (answers_vin h []) (by simp) true)).trans ?_
  have htext : infoText (vinBytes ecu) = Py.strip ecu.vin := infoText_printable h.printable
  have hfirst : firstText 0x02 [⟨0x7E8, [0x49, 0x02, 0x01] ++ vinBytes ecu⟩]
      = .ok (shownVin ecu) := by
    show (if infoText (vinBytes ecu) ≠ [] then Except.ok (some (infoText (vinBytes ecu)))
      else .ok none) = _
    rw [htext, shownVin, ite_not]
    split <;> rfl
  rw [hfirst]
  rfl

theorem answers_codes (h : Presentable ecu) {body : Bytes}
    (henc : SimulatedEcu.encodeAll ecu.dtcs = .ok body) (rest : Bytes) :
    Answers ecu (0x03 :: rest) (0x43 :: UInt8.ofNat ecu.dtcs.length :: body) := by
  have hcount := h.count
  rw [Answers, SimulatedEcu.handle, Py.index_zero_cons, ok_bind, if_neg (by simp), if_pos rfl,
    Py.toArrayByte_of_range ⟨by omega, by omega⟩, ok_bind, henc, Py.lowByte_natCast]
  rfl

theorem codes_car (h : Presentable ecu) : readDtcsIndexed (direct ecu) 0x03 true
    = (.ok (ecu.dtcs.filter (· ≠ Dtc.none)), true) := by
  obtain ⟨body, henc, hlen, hdec⟩ := decodePairs_encodeAll h.codes
  have hcount := h.count
  have hanswer := answers_codes h henc []
  have hn : (UInt8.ofNat ecu.dtcs.length).toNat * 2 = 2 * ecu.dtcs.length := by
    rw [UInt8.toNat_ofNat']
    omega
  have hparse : parseDtcPayload (0x43 :: UInt8.ofNat ecu.dtcs.length :: body)
      = ecu.dtcs.filter (· ≠ Dtc.none) := by
    rw [parseDtcPayload, hn, hlen, Nat.mul_mod_right, Nat.sub_zero, Nat.min_self, hdec]
  -- the count in the answer is that of the codes, so all of them are read
  rw [readDtcsIndexed_eq, readDtcsOf, bind_run_ok (direct_answer hanswer (by simp) true), pure_run]
  simp [positive, hparse]

/-- What an operation makes of its result. -/
theorem seen_of_run {α : Type} {x : Call Exn Bool α} {r : Except Exn α} (h : x true = (r, true))
    (k : α → Answer) : (k <$> x) true = (k <$> r, true) := by
  refine (map_run h).trans ?_
  cases r <;> rfl

/-- **Every operation sees the car as it is.** -/
theorem J1979Call.answer_car (h : Presentable ecu) (call : J1979Call) :
    call.answer (direct ecu) true = (call.seen ecu, true) := by
  cases call with
  | supportedPids => exact seen_of_run supported_car _
  | readPid pid =>
    refine (seen_of_run (readPid_car pid) _).trans ?_
    rw [seen]
    cases Py.bytesOf [0x01, pid] <;> rfl
  | liveData => exact seen_of_run live_car _
  -- apart from 01, 03 and the VIN, the car refuses every service
  | freezeFrame pid frame =>
    refine (seen_of_run (refused_car_nil ecu 0x02 (by decide) (by decide) [pid, frame]
      (a := none) rfl) _).trans ?_
    rw [seen]
    cases Py.bytesOf [0x02, pid, frame] <;> rfl
  | storedDtcs =>
    rw [answer, seen, seen_of_run (codes_car h) Answer.codes]
    rfl
  | pendingDtcs =>
    have hrun := refusedCodes_car ecu 0x07 (by decide) rfl
    exact seen_of_run hrun _
  | permanentDtcs =>
    have hrun := refusedCodes_car ecu 0x0A (by decide) rfl
    exact seen_of_run hrun _
  | clearDtcs =>
    refine seen_of_run (r := .ok false) ?_ _
    exact bind_run_ok (direct_answer (answers_refused 0x04 (by decide) []) (by simp) true)
  | monitorTestResults obdmid =>
    refine (seen_of_run (refused_car_nil ecu 0x06 (by decide) (by decide) [obdmid]
      (a := []) rfl) _).trans ?_
    rw [seen]
    cases Py.bytesOf [0x06, obdmid] <;> rfl
  | requestControl tid data =>
    refine (seen_of_run (refused_car ecu 0x08 (by decide) (by decide) [tid] data
      (a := none) rfl) _).trans ?_
    rw [seen]
    cases Py.bytesOf [0x08, tid] <;> rfl
  | vin => exact seen_of_run (vin_car h) _
  | calibrationIds =>
    refine seen_of_run (r := .ok none) ?_ _
    have hanswer : Answers ecu [0x09, 0x04] [0x7F, 0x09, 0x12] := rfl
    exact bind_run_ok (direct_answer hanswer (by simp) true)
  | cvn =>
    refine seen_of_run (r := .ok none) ?_ _
    have hanswer : Answers ecu [0x09, 0x06] [0x7F, 0x09, 0x12] := rfl
    exact bind_run_ok (direct_answer hanswer (by simp) true)

/-- **An ECU with presentable data has an answer to everything.** -/
theorem answers_all (h : Presentable ecu) {req : Bytes} (hreq : req ≠ []) :
    ∃ resp, Answers ecu req resp := by
  obtain ⟨mode, rest, rfl⟩ := List.exists_cons_of_ne_nil hreq
  by_cases hmode : mode ∈ [0x01, 0x03, 0x09]
  · simp only [List.mem_cons, List.not_mem_nil, or_false] at hmode
    rcases hmode with rfl | rfl | rfl
    · cases rest with
      | nil => exact ⟨_, rfl⟩
      | cons pid rest => exact ⟨_, rfl⟩
    · obtain ⟨body, henc, -⟩ := decodePairs_encodeAll h.codes
      exact ⟨_, answers_codes h henc rest⟩
    · cases rest with
      | nil => exact ⟨_, rfl⟩
      | cons pid rest =>
        by_cases hpid : pid = 0x02
        · rw [hpid]
          exact ⟨_, answers_vin h rest⟩
        · refine ⟨[0x7F, 0x09, 0x12], ?_⟩
          rw [Answers, SimulatedEcu.handle, Py.index_zero_cons, ok_bind, if_neg (by simp [hpid]),
            if_neg (by decide)]
          rfl
  · exact ⟨_, answers_refused mode hmode rest⟩

/--
**The simulated car, through the tool.** Over the sockets and the thread of the ECU, any series
of operations sees the identification number, the codes and the values that the ECU was made
with, each time it asks, and nothing that the ECU does not have. The thread and the owner may do
what they like while the tool waits, as long as every wait lets the thread answer.
-/
theorem car_readings {ecu : SimulatedEcu} (h : Presentable ecu) {turns : Nat → List Move}
    (hturns : Timely ecu turns) (settings : Settings) (calls : List J1979Call) :
    ends (Operation.answer settings (SocketCan.transport (socket ecu) 0))
        (calls.map Operation.j1979) (some (Bench.started ecu turns))
      = calls.map (J1979Call.seen ecu) := by
  -- J1979 operations are operations of a session
  have hends : ∀ (ops : List J1979Call) (s : Bool),
      ends (Operation.answer settings (direct ecu)) (ops.map Operation.j1979) s
        = ends (fun call => J1979Call.answer (direct ecu) call) ops s := by
    intro ops
    induction ops with
    | nil => exact fun _ => rfl
    | cons op ops ih => exact fun s => congrArg (_ :: ·) (ih _)
  rw [timely_session hturns, hends, ends_of_fixed (J1979Call.answer_car h)]

/-- `SimulatedEcu()`. -/
def defaultEcu : SimulatedEcu := ⟨"1HGCM82633A004352".toList, ["P0301".toList, "P0420".toList]⟩

theorem defaultEcu_presentable : Presentable defaultEcu where
  printable c hc := by
    have hall : "1HGCM82633A004352".toList.all (fun c => 0x20 ≤ c.toNat ∧ c.toNat ≤ 0x7E) = true :=
      by decide +kernel
    exact of_decide_eq_true (List.all_eq_true.mp hall c hc)
  codes := by
    show ∀ code ∈ [['P', '0', '3', '0', '1'], ['P', '0', '4', '2', '0']], IsCode code
    simp [IsCode, Hex.digits]
  count := by decide

def sampleCalls : List J1979Call := [.liveData, .vin, .storedDtcs, .readPid 0x0C, .clearDtcs]

/-- Ever more waits of the thread that time out before its round, and one look at the flag after. -/
def sampleTurns (n : Nat) : List Move :=
  List.replicate n .timeout ++ round ++ [.check]

theorem sampleTurns_rounds : Rounds sampleTurns := by
  intro n
  refine ⟨((List.sublist_append_right _ _).trans (List.sublist_append_left _ _)), ?_⟩
  intro m hm
  rcases List.mem_append.mp hm with hm | hm
  · rcases List.mem_append.mp hm with hm | hm
    · rw [List.eq_of_mem_replicate hm]
      rfl
    · simp only [round, List.mem_cons, List.not_mem_nil, or_false] at hm
      rcases hm with rfl | rfl | rfl | rfl <;> rfl
  · rw [List.mem_singleton.mp hm]
    rfl

theorem car_readings_default :
    ends (Operation.answer noSecurity (SocketCan.transport (socket defaultEcu) 0))
        (sampleCalls.map Operation.j1979) (some (Bench.started defaultEcu sampleTurns))
      = sampleCalls.map (J1979Call.seen defaultEcu) :=
  car_readings defaultEcu_presentable
    (timely_of_rounds sampleTurns_rounds fun _ => answers_all defaultEcu_presentable) noSecurity
    sampleCalls

end AutoDiag.Proof
