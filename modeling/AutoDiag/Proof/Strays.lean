import AutoDiag.Proof.Echo
import AutoDiag.Proof.Malformed

/-!
# Which replies a reader of J1979 takes for an answer

Seven readers look for the replies that echo what they asked for. Six of them check
the mode and the identifier of the reply they read. The reader of monitor test
results checks the mode alone, so it takes the records of any monitor.
-/

namespace AutoDiag.Proof

open Obd2 Raise
open Pids (decodePid)

variable {σ : Type}

/-- One of the seven readers, with its arguments. -/
inductive ObdQuery where
  | pid (pid : Int)
  | freezeFrame (pid frame : Int)
  | control (tid : Int) (data : Bytes)
  | vin
  | calibrationIds
  | cvn
  | monitor (obdmid : Int)

/-- A value or a record that a reader returns. -/
inductive Reading where
  | value (v : Pids.Value)
  | text (s : Str)
  | bytes (b : Bytes)
  | record (r : TestResult)

/-- The records in the replies to mode 06. -/
def monitorRecords (rs : List EcuResponse) : Except Exn (List TestResult) := do
  return (← (positive rs 0x06 .none).mapM fun d => testResults (d.drop 1)).flatten

namespace ObdQuery

/-- The call, with what it returns as a list. -/
def run (t : Transport σ) : ObdQuery → Call Exn σ (List Reading)
  | pid p => do return ((← readPid t p).map Reading.value).toList
  | freezeFrame p frame => do return ((← readFreezeFrame t p frame).map Reading.value).toList
  | control tid data => do return ((← requestControl t tid data).map Reading.bytes).toList
  | vin => do return ((← readVin t).map Reading.text).toList
  | calibrationIds => do return ((← readCalibrationIds t).map Reading.text).toList
  | cvn => do return ((← readCvn t).map Reading.text).toList
  | monitor m => do return (← readMonitorTestResults t m).map Reading.record

/-- The request, or what is raised in its place. -/
def request : ObdQuery → Except Exn Bytes
  | pid p => Py.bytesOf [0x01, p]
  | freezeFrame p frame => Py.bytesOf [0x02, p, frame]
  | control tid data => do return (← Py.bytesOf [0x08, tid]) ++ data
  | vin => .ok [0x09, 0x02]
  | calibrationIds => .ok [0x09, 0x04]
  | cvn => .ok [0x09, 0x06]
  | monitor m => Py.bytesOf [0x06, m]

/-- What is read from the replies. -/
def read (rs : List EcuResponse) : ObdQuery → Except Exn (List Reading)
  | pid p => do
    return ((← firstValue p.toNat (positive rs 0x01 (some (Py.lowByte p)))).map
      Reading.value).toList
  | freezeFrame p frame => do
    return ((← frozenValue (Py.lowByte p) (Py.lowByte frame) rs).map Reading.value).toList
  | control tid _ => do return ((← controlled (Py.lowByte tid) rs).map Reading.bytes).toList
  | vin => do return ((← firstText 0x02 rs).map Reading.text).toList
  | calibrationIds => do return ((← firstText 0x04 rs).map Reading.text).toList
  | cvn => do return ((← verificationNumber rs).map Reading.text).toList
  | monitor _ => do return (← monitorRecords rs).map Reading.record

/-- The mode and the identifiers, as a reply echoes them. -/
def echo : ObdQuery → Bytes
  | pid p => [0x41, Py.lowByte p]
  | freezeFrame p frame => [0x42, Py.lowByte p, Py.lowByte frame]
  | control tid _ => [0x48, Py.lowByte tid]
  | vin => [0x49, 0x02]
  | calibrationIds => [0x49, 0x04]
  | cvn => [0x49, 0x06]
  | monitor m => [0x46, Py.lowByte m]

/-- The record at the place `j` of a reply to mode 06. -/
def recordAt (d : Bytes) (j : Nat) : Except Exn TestResult :=
  testResult (Py.slice (d.drop 1) (9 * j) (9 * j + 9))

/-- A reading is what the bytes of a reply stand for. -/
inductive Holds (d : Bytes) : ObdQuery → Reading → Prop where
  | pid {p : Int} {v : Pids.Value} :
    decodePid p.toNat (d.drop 2) = .ok (some v) → Holds d (.pid p) (.value v)
  | freezeFrame {p frame : Int} {v : Pids.Value} :
    decodePid (Py.lowByte p).toNat (d.drop 3) = .ok (some v) →
    Holds d (.freezeFrame p frame) (.value v)
  | control {tid : Int} {data : Bytes} : Holds d (.control tid data) (.bytes (d.drop 2))
  | vin : Holds d .vin (.text (infoText (d.drop 3)))
  | calibrationIds : Holds d .calibrationIds (.text (infoText (d.drop 3)))
  | cvn : Holds d .cvn (.text (Hex.ofBytes (d.drop 3)))
  | monitor {m : Int} {j : Nat} {r : TestResult} : recordAt d j = .ok r →
    r.obdmid = Py.lowByte m → Holds d (.monitor m) (.record r)

/-- The reading was taken from a reply that echoes the query. -/
def Genuine (rs : List EcuResponse) (q : ObdQuery) (x : Reading) : Prop :=
  ∃ r ∈ rs, q.echo <+: r.data ∧ Holds r.data q x

/-- Every whole record of a reply to mode 06 is one of the monitor that was asked for. -/
def Unmixed (rs : List EcuResponse) : ObdQuery → Prop
  | monitor m => ∀ r ∈ rs, r.data.head? = some 0x46 →
      ∀ j, 9 * j + 10 ≤ r.data.length → r.data[9 * j + 1]? = some (Py.lowByte m)
  | _ => True

/-- A request that is built and answered leaves the reading of the replies. -/
theorem asked_run {α : Type} {t : Transport σ} {built : Except Exn Bytes} {g : Bytes → Bytes}
    {f : List EcuResponse → Except Exn α} {req : Bytes} {rs : List EcuResponse} {s s' : σ}
    (hbuilt : built = .ok req) (h : t.request (g req) true s = (.ok rs, s')) :
    (do
      let req ← Call.ofExcept built
      let responses ← t.request (g req) true
      Call.ofExcept (f responses)) s = (f rs, s') := by
  subst hbuilt
  rw [Call.bind_run_ok (x := Call.ofExcept (.ok req)) rfl, Call.bind_run_ok h]
  rfl

theorem run_eq {t : Transport σ} {q : ObdQuery} {req : Bytes} {rs : List EcuResponse} {s s' : σ}
    (hreq : q.request = .ok req) (h : t.request req true s = (.ok rs, s')) :
    q.run t s = (q.read rs, s') := by
  cases q with
  | pid p => exact Call.map_run (asked_run (g := id) hreq h)
  | freezeFrame p frame => exact Call.map_run (asked_run (g := id) hreq h)
  | control tid data =>
    obtain ⟨built, hbuilt, hreq⟩ := bind_ok hreq
    cases hreq
    exact Call.map_run (asked_run (g := (· ++ data)) hbuilt h)
  | vin =>
    cases hreq
    exact Call.map_run (Call.bind_run_ok h)
  | calibrationIds =>
    cases hreq
    exact Call.map_run (Call.bind_run_ok h)
  | cvn =>
    cases hreq
    exact Call.map_run (Call.bind_run_ok h)
  | monitor m =>
    have hrun : readMonitorTestResults t m s = (monitorRecords rs, s') := by
      have hbuilt : Py.bytesOf [0x06, m] = .ok req := hreq
      exact (Call.bind_run_ok (congrArg (·, s) hbuilt)).trans
        ((Call.bind_run_ok h).trans (Call.map_run rfl))
    exact Call.map_run hrun

end ObdQuery

/-! ## Replies that echo -/

theorem prefix_of_echoes {d expected : Bytes} {i : Nat} (h : echoes d i expected = .ok true) :
    expected <+: d.drop i := by
  induction expected generalizing i with
  | nil => exact List.nil_prefix
  | cons b bs ih =>
    obtain ⟨x, hx, h⟩ := bind_ok h
    split at h
    · rename_i hxb
      obtain ⟨hi, hx⟩ := List.getElem?_eq_some_iff.mp (Py.index_ok_iff.mp hx)
      rw [List.drop_eq_getElem_cons hi, hx, hxb]
      exact (List.prefix_cons_inj b).mpr (ih h)
    · cases h

/-- A reply that is taken begins with what was compared. -/
theorem prefix_of_answersTo {d expected : Bytes} {n : Nat}
    (h : answersTo d n expected = .ok true) : expected <+: d := by
  unfold answersTo at h
  split at h
  · exact prefix_of_echoes h
  · cases h

/-- A loop that looks at each reply: what comes of the reply, if it echoes, and of the rest. -/
theorem yields_answersTo {α : Type} {P : α → Prop} {d expected : Bytes} {n : Nat}
    {x y : Except Exn α} (hx : expected <+: d → Yields P x) (hy : Yields P y) :
    Yields P (do if ← answersTo d n expected then x else y) := by
  intro a h
  obtain ⟨b, hb, h⟩ := bind_ok h
  cases b with
  | false => exact hy a h
  | true => exact hx (prefix_of_answersTo hb) a h

/-! ## The readers that look for one reply -/

namespace ObdQuery

variable {rs : List EcuResponse} {r : EcuResponse} {q : ObdQuery}

/-- A reply in front takes nothing away. -/
theorem Genuine.cons {x : Reading} (h : q.Genuine rs x) : q.Genuine (r :: rs) x := by
  obtain ⟨r', hr', hr⟩ := h
  exact ⟨r', List.mem_cons_of_mem _ hr', hr⟩

/-- What a loop returns, if anything, was taken from a reply that echoes the query. -/
def Finds {α : Type} (q : ObdQuery) (k : α → Reading) (rs : List EcuResponse)
    (x : Except Exn (Option α)) : Prop := Yields (fun o => ∀ v ∈ o, q.Genuine rs (k v)) x

theorem finds_none {α : Type} {k : α → Reading} : q.Finds k rs (.ok none) :=
  yields_ok fun _ hv => absurd hv (by simp)

theorem finds_some {α : Type} {k : α → Reading} {v : α} (h : q.Genuine rs (k v)) :
    q.Finds k rs (.ok (some v)) := by
  refine yields_ok fun v' hv => ?_
  cases hv
  exact h

theorem Finds.cons {α : Type} {k : α → Reading} {x : Except Exn (Option α)} (h : q.Finds k rs x) :
    q.Finds k (r :: rs) x := fun o ho v hv => (h o ho v hv).cons

theorem finds_frozenValue (p frame : Int) (rs : List EcuResponse) :
    (freezeFrame p frame).Finds .value rs
      (frozenValue (Py.lowByte p) (Py.lowByte frame) rs) := by
  induction rs with
  | nil => exact finds_none
  | cons r rs ih =>
    refine yields_answersTo (fun hecho => ?_) ih.cons
    intro o ho v hv
    cases hv
    exact ⟨r, List.mem_cons_self .., hecho, .freezeFrame ho⟩

theorem finds_controlled (tid : Int) (data : Bytes) (rs : List EcuResponse) :
    (control tid data).Finds .bytes rs (controlled (Py.lowByte tid) rs) := by
  induction rs with
  | nil => exact finds_none
  | cons r rs ih =>
    refine yields_answersTo (fun hecho => ?_) ih.cons
    exact finds_some ⟨r, List.mem_cons_self .., hecho, .control⟩

/-- The two queries that are answered with a text. -/
theorem finds_firstText {pid : UInt8} (hecho : q.echo = [0x49, pid])
    (hholds : ∀ d, Holds d q (.text (infoText (d.drop 3)))) (rs : List EcuResponse) :
    q.Finds .text rs (firstText pid rs) := by
  induction rs with
  | nil => exact finds_none
  | cons r rs ih =>
    refine yields_answersTo (fun hprefix => ?_) ih.cons
    refine yields_ite (fun _ => ?_) fun _ => ih.cons
    exact finds_some ⟨r, List.mem_cons_self .., hecho ▸ hprefix, hholds r.data⟩

theorem finds_verificationNumber (rs : List EcuResponse) :
    cvn.Finds .text rs (verificationNumber rs) := by
  induction rs with
  | nil => exact finds_none
  | cons r rs ih =>
    refine yields_answersTo (fun hecho => ?_) ih.cons
    refine yields_ok fun v hv => ?_
    -- a reply without data counts as none
    split at hv
    · cases hv
    · cases hv
      exact ⟨r, List.mem_cons_self .., hecho, .cvn⟩

theorem prefix_pair {a b : UInt8} {d : Bytes} :
    [a, b] <+: d ↔ d[0]? = some a ∧ d[1]? = some b := by
  match d with
  | [] => simp
  | [x] => simp [List.cons_prefix_cons]
  | x :: y :: d => simp [List.cons_prefix_cons, eq_comm]

/-- The replies that `_positive` keeps. -/
theorem mem_positive {d : Bytes} {sid pid : UInt8} (h : d ∈ positive rs sid (some pid)) :
    ∃ r ∈ rs, r.data = d ∧ [sid + 0x40, pid] <+: d := by
  obtain ⟨hmem, hpositive⟩ := List.mem_filter.mp h
  obtain ⟨r, hr, rfl⟩ := List.mem_map.mp hmem
  refine ⟨r, hr, rfl, prefix_pair.mpr ?_⟩
  simpa using hpositive

theorem finds_firstValue {p : Int} {payloads : List Bytes}
    (h : ∀ d ∈ payloads, ∃ r ∈ rs, r.data = d ∧ [0x41, Py.lowByte p] <+: d) :
    (pid p).Finds .value rs (firstValue p.toNat payloads) := by
  induction payloads with
  | nil => exact finds_none
  | cons d ds ih =>
    have ih := ih fun d' hd' => h d' (List.mem_cons_of_mem _ hd')
    intro o ho
    obtain ⟨value, hvalue, hrest⟩ := bind_ok ho
    cases value with
    | none => exact ih o hrest
    | some v =>
      obtain ⟨r, hr, rfl, hecho⟩ := h d (List.mem_cons_self ..)
      exact finds_some (q := pid p) ⟨r, hr, hecho, .pid hvalue⟩ o hrest

/-! ## Monitor test results -/

/-- A record stands behind the service and nine bytes for each one before it. -/
theorem mem_monitorRecords {records : List TestResult} (h : monitorRecords rs = .ok records)
    {x : TestResult} : x ∈ records ↔ ∃ r ∈ rs, r.data.head? = some 0x46
      ∧ ∃ j, 9 * j + 10 ≤ r.data.length ∧ recordAt r.data j = .ok x := by
  obtain ⟨results, hresults, h⟩ := bind_ok h
  cases h
  rw [List.mem_flatten]
  constructor
  · rintro ⟨recs, hrecs, hx⟩
    obtain ⟨d, hd, hrecs⟩ := (mem_of_mapM hresults).mp hrecs
    obtain ⟨hd, hmode⟩ := List.mem_filter.mp hd
    obtain ⟨r, hr, rfl⟩ := List.mem_map.mp hd
    obtain ⟨j, hj, hx⟩ := (mem_of_mapM hrecs).mp hx
    have hj : j < (r.data.drop 1).length / 9 := List.mem_range.mp hj
    rw [List.length_drop] at hj
    rw [Bool.and_true, decide_eq_true_eq, ← List.head?_eq_getElem?] at hmode
    exact ⟨r, hr, hmode, j, by omega, hx⟩
  · rintro ⟨r, hr, hmode, j, hj, hx⟩
    obtain ⟨recs, hrecs⟩ := testResults_returns (r.data.drop 1)
    refine ⟨recs, (mem_of_mapM hresults).mpr ⟨r.data, ?_, hrecs⟩, (mem_of_mapM hrecs).mpr
      ⟨j, List.mem_range.mpr ?_, hx⟩⟩
    · refine List.mem_filter.mpr ⟨List.mem_map_of_mem hr, ?_⟩
      rw [Bool.and_true, decide_eq_true_eq, ← List.head?_eq_getElem?]
      exact hmode
    · rw [List.length_drop]
      omega

/-- A record names its monitor in its first byte. -/
theorem getElem?_of_recordAt {d : Bytes} {j : Nat} {x : TestResult} (h : recordAt d j = .ok x) :
    d[9 * j + 1]? = some x.obdmid := by
  obtain ⟨obdmid, hobdmid, h⟩ := bind_ok h
  obtain ⟨tid, -, h⟩ := bind_ok h
  obtain ⟨unitScaling, -, h⟩ := bind_ok h
  obtain ⟨value, -, h⟩ := bind_ok h
  obtain ⟨low, -, h⟩ := bind_ok h
  obtain ⟨high, -, h⟩ := bind_ok h
  cases h
  have hbyte := Py.index_ok_iff.mp hobdmid
  rwa [Py.slice, List.getElem?_drop, List.getElem?_take_of_lt (by omega), List.getElem?_drop,
    Nat.add_zero, Nat.add_comm] at hbyte

theorem recordAt_returns {d : Bytes} {j : Nat} (h : 9 * j + 10 ≤ d.length) :
    Returns (recordAt d j) := by
  refine testResult_returns ?_
  rw [Py.slice, List.length_drop, List.length_take, List.length_drop]
  omega

theorem monitor_genuine_iff {m : Int} {records : List TestResult}
    (h : monitorRecords rs = .ok records) :
    (∀ x ∈ records.map Reading.record, (monitor m).Genuine rs x) ↔ (monitor m).Unmixed rs := by
  constructor
  · intro hall r hr hmode j hj
    obtain ⟨x, hx⟩ := recordAt_returns hj
    have hmem := (mem_monitorRecords h).mpr ⟨r, hr, hmode, j, hj, hx⟩
    obtain ⟨_, _, _, hholds⟩ := hall _ (List.mem_map_of_mem hmem)
    cases hholds with
    | monitor _ hobdmid => rw [getElem?_of_recordAt hx, hobdmid]
  · intro hunmixed x hx
    obtain ⟨record, hmem, rfl⟩ := List.mem_map.mp hx
    obtain ⟨r, hr, hmode, j, hj, hrecord⟩ := (mem_monitorRecords h).mp hmem
    have hfirst := hunmixed r hr hmode 0 (by omega)
    have hobdmid := hunmixed r hr hmode j hj
    rw [getElem?_of_recordAt hrecord, Option.some.injEq] at hobdmid
    -- the first record stands where another service echoes its identifier
    refine ⟨r, hr, prefix_pair.mpr ⟨?_, hfirst⟩, .monitor hrecord hobdmid⟩
    rwa [← List.head?_eq_getElem?]

/-! ## All of them -/

theorem Finds.list {α : Type} {k : α → Reading} {x : Except Exn (Option α)} (h : q.Finds k rs x)
    (hx : Returns x) : ∃ xs, (do return ((← x).map k).toList) = Except.ok xs
      ∧ ∀ y ∈ xs, q.Genuine rs y := by
  obtain ⟨o, ho⟩ := hx
  refine ⟨(o.map k).toList, by rw [ho]; rfl, fun y hy => ?_⟩
  obtain ⟨v, hv, rfl⟩ := Option.map_eq_some_iff.mp (Option.mem_toList.mp hy)
  exact h o ho v hv

/-- Every reader but the one of monitor test results takes genuine readings only. -/
theorem read_genuine (rs : List EcuResponse) (q : ObdQuery) :
    ∃ xs, q.read rs = .ok xs ∧ ((∀ x ∈ xs, q.Genuine rs x) ↔ q.Unmixed rs) := by
  have hgenuine : ∀ {q : ObdQuery}, q.Unmixed rs →
      (∃ xs, q.read rs = .ok xs ∧ ∀ x ∈ xs, q.Genuine rs x) →
      ∃ xs, q.read rs = .ok xs ∧ ((∀ x ∈ xs, q.Genuine rs x) ↔ q.Unmixed rs) :=
    fun hu ⟨xs, hxs, hall⟩ => ⟨xs, hxs, iff_of_true hall hu⟩
  cases q with
  | pid p =>
    exact hgenuine trivial ((finds_firstValue fun d hd => mem_positive hd).list
      (firstValue_returns _ _))
  | freezeFrame p frame =>
    exact hgenuine trivial ((finds_frozenValue p frame rs).list (frozenValue_returns _ _ _))
  | control tid data =>
    exact hgenuine trivial ((finds_controlled tid data rs).list (controlled_returns _ _))
  | vin =>
    exact hgenuine trivial ((finds_firstText rfl (fun _ => .vin) rs).list
      (firstText_returns _ _))
  | calibrationIds =>
    exact hgenuine trivial ((finds_firstText rfl (fun _ => .calibrationIds) rs).list
      (firstText_returns _ _))
  | cvn =>
    exact hgenuine trivial ((finds_verificationNumber rs).list (verificationNumber_returns _))
  | monitor m =>
    obtain ⟨results, hresults⟩ := returns_mapM (l := positive rs 0x06 none)
      fun d _ => testResults_returns (d.drop 1)
    have hrecords : monitorRecords rs = .ok results.flatten := by
      rw [monitorRecords, hresults]
      rfl
    refine ⟨_, ?_, monitor_genuine_iff hrecords⟩
    rw [read, hrecords]
    rfl

end ObdQuery

/--
**Strays.** Whatever the replies are, what a reader returns was taken from a reply
that echoes what was asked for: always, where one reply is looked for, and for the
monitor test results exactly if no other monitor's record is among the replies.
-/
theorem readers_genuine {t : Transport σ} {q : ObdQuery} {req : Bytes} {rs : List EcuResponse}
    {s s' : σ} (hreq : q.request = .ok req) (h : t.request req true s = (.ok rs, s')) :
    ∃ xs, q.run t s = (.ok xs, s') ∧ ((∀ x ∈ xs, q.Genuine rs x) ↔ q.Unmixed rs) := by
  obtain ⟨xs, hxs, hiff⟩ := q.read_genuine rs
  exact ⟨xs, by rw [ObdQuery.run_eq hreq h, hxs], hiff⟩

/-- A record of the monitor `02` is returned for the monitor `01`. -/
theorem monitor_takes_stray :
    ∃ x, (readMonitorTestResults (answering [0x46, 0x02, 0x80, 0x0A, 0, 1, 0, 0, 0, 2]) 0x01 ()).1
        = .ok [x]
      ∧ x.obdmid = 0x02 :=
  ⟨⟨0x02, 0x80, 0x0A, 1, 0, 2⟩, by decide⟩

/-- With that record among the replies, not every record that is returned is genuine. -/
theorem readers_genuine_stray :
    ∃ xs, (ObdQuery.monitor 0x01).run (answering [0x46, 0x02, 0x80, 0x0A, 0, 1, 0, 0, 0, 2]) ()
        = (.ok xs, ())
      ∧ ¬ ∀ x ∈ xs, (ObdQuery.monitor 0x01).Genuine
          [⟨0x7E8, [0x46, 0x02, 0x80, 0x0A, 0, 1, 0, 0, 0, 2]⟩] x := by
  have hasked : (answering [0x46, 0x02, 0x80, 0x0A, 0, 1, 0, 0, 0, 2]).request [0x06, 0x01] true ()
      = (.ok [⟨0x7E8, [0x46, 0x02, 0x80, 0x0A, 0, 1, 0, 0, 0, 2]⟩], ()) := rfl
  obtain ⟨xs, hrun, hiff⟩ := readers_genuine (q := .monitor 0x01) rfl hasked
  refine ⟨xs, hrun, fun hgenuine => ?_⟩
  have hfirst := hiff.mp hgenuine _ List.mem_cons_self rfl 0 (by decide)
  revert hfirst
  decide

end AutoDiag.Proof
