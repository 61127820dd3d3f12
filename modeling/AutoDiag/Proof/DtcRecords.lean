import AutoDiag.Lib.Records
import AutoDiag.Proof.Echo
import AutoDiag.Proof.Refusals
import AutoDiag.Proof.Simulator

/-!
# Lists of trouble code records

Three services answer with records of one size, and nothing of a record is lost: its
bytes can be read from the code and the status again (`wire_decode`). A fourth one
says how many records there are, which its reader passes over.
-/

namespace AutoDiag.Proof

open Client Raise

variable {σ : Type}

/-! ## Display codes of any two bytes -/

theorem encodeDtc_decodeDtc (hi lo : UInt8) :
    Dtc.encodeDtc (Dtc.decodeDtc hi lo) = .ok [hi, lo] := by
  have hhi := hi.toNat_lt
  have hlo := lo.toNat_lt
  have hsplit : hi = UInt8.ofNat (64 * (hi.toNat / 64) + 16 * (hi.toNat / 16 % 4)
      + hi.toNat % 16) := by
    rw [← UInt8.toNat_inj, UInt8.toNat_ofNat']
    omega
  have hsplit' : lo = UInt8.ofNat (16 * (lo.toNat / 16) + lo.toNat % 16) := by
    rw [← UInt8.toNat_inj, UInt8.toNat_ofNat']
    omega
  have hdecode := decodeDtc_display (k := hi.toNat / 64) (d := hi.toNat / 16 % 4)
    (a := hi.toNat % 16) (b := lo.toNat / 16) (c := lo.toNat % 16) (by omega) (by omega) (by omega)
    (by omega) (by omega)
  rw [← hsplit, ← hsplit'] at hdecode
  rw [hdecode, encodeDtc_display (by omega) (by omega) (by omega) (by omega) (by omega),
    ← hsplit, ← hsplit']

theorem length_decodeDtc (hi lo : UInt8) : (Dtc.decodeDtc hi lo).length = 5 := rfl

/-! ## Records -/

/-- A record as it is returned; one of the services leaves the flags out. -/
structure DecodedDtc where
  code : Str
  status : UInt8
  flags : Option (List (String × Bool))
  deriving DecidableEq

namespace DecodedDtc

def ofUds (r : Uds.DtcRecord) : DecodedDtc := ⟨r.code, r.status, some r.flags⟩

def ofSupported (r : Uds.SupportedDtc) : DecodedDtc := ⟨r.code, r.status, none⟩

def ofKwp (r : Kwp2000.DtcRecord) : DecodedDtc := ⟨r.code, r.status, some r.flags⟩

/-- The bytes of a record, read from its code and its status. -/
def wire (d : DecodedDtc) : Except Exn Bytes := do
  let base ← Dtc.encodeDtc (d.code.take 5)
  match Py.fromHex (d.code.drop 6) with
  | some faultType => return base ++ faultType ++ [d.status]
  | none => .error (.valueError "non-hexadecimal number found in fromhex()")

/-- The flags have each bit of the status under its name. -/
def FlagsTell (d : DecodedDtc) : Prop :=
  ∀ flags, d.flags = some flags → flags.map Prod.fst = Uds.statusBits
    ∧ ∀ i name, Uds.statusBits[i]? = some name →
      flags.lookup name = some (d.status.toNat.testBit i)

end DecodedDtc

/-- Four bytes as a record of 0x19/0x02. -/
def udsRecord : Bytes → Uds.DtcRecord
  | [hi, mid, lo, status] =>
    ⟨Uds.decodeUdsDtc hi mid lo, status, Uds.decodeDtcStatus status⟩
  | _ => ⟨[], 0, []⟩

/-- Four bytes as a record of 0x19/0x0A. -/
def supportedRecord : Bytes → Uds.SupportedDtc
  | [hi, mid, lo, status] => ⟨Uds.decodeUdsDtc hi mid lo, status⟩
  | _ => ⟨[], 0⟩

/-- Three bytes as a record of 0x17 and 0x18. -/
def kwpRecord : Bytes → Kwp2000.DtcRecord
  | [hi, lo, status] => ⟨Dtc.decodeDtc hi lo, status, Kwp2000.decodeDtcStatus status⟩
  | _ => ⟨[], 0, []⟩

/-- The services that answer with records only. -/
inductive DtcService where
  | byStatusMask (statusMask : Int)
  | supported
  | statusOfDtc (dtc : Int)

namespace DtcService

/-- The bytes of a record. -/
def size : DtcService → Nat
  | byStatusMask _ | supported => 4
  | statusOfDtc _ => 3

/-- The bytes before the first record. -/
def header : DtcService → Nat
  | byStatusMask _ | supported => 2
  | statusOfDtc _ => 0

def sid : DtcService → UInt8
  | byStatusMask _ | supported => 0x19
  | statusOfDtc _ => 0x17

/-- What follows the service id in the request, or what is raised in its place. -/
def request : DtcService → Except Exn Bytes
  | byStatusMask statusMask => do
    let mask ← Py.bytesOf [statusMask]
    return 0x02 :: mask
  | supported => .ok [0x0A]
  | statusOfDtc dtc => .ok [Py.lowByte (dtc >>> (8 : Nat)), Py.lowByte dtc]

def client (t : Transport σ) (maxPending : Nat) : DtcService → Client σ
  | byStatusMask _ | supported => Uds.client t maxPending
  | statusOfDtc _ => Kwp2000.client t maxPending

/-- The call, with the records in one form. -/
def run (q : DtcService) (t : Transport σ) (maxPending : Nat) : Call Exn σ (List DecodedDtc) :=
  match q with
  | byStatusMask statusMask => do
    let out ← Uds.readDtcsByStatusMask (q.client t maxPending) statusMask
    return out.map .ofUds
  | supported => do
    let out ← Uds.readSupportedDtcs (q.client t maxPending)
    return out.map .ofSupported
  | statusOfDtc dtc => do
    let out ← Kwp2000.readStatusOfDtc (q.client t maxPending) dtc
    return out.map .ofKwp

/-- A record, decoded. -/
def decode : DtcService → Bytes → DecodedDtc
  | byStatusMask _, record => .ofUds (udsRecord record)
  | supported, record => .ofSupported (supportedRecord record)
  | statusOfDtc _, record => .ofKwp (kwpRecord record)

theorem sid_ne (q : DtcService) : q.sid + 0x40 ≠ 0x7F := by
  cases q <;> simp [sid]

theorem wire_decode (q : DtcService) {record : Bytes} (h : record.length = q.size) :
    (q.decode record).wire = .ok record := by
  have huds : ∀ (hi mid lo status : UInt8) flags,
      (⟨Uds.decodeUdsDtc hi mid lo, status, flags⟩ : DecodedDtc).wire
        = .ok [hi, mid, lo, status] := by
    intro hi mid lo status flags
    have htext : Py.fromHex (Hex.ofByte lo) = some [lo] := Py.fromHex_ofBytes [lo]
    have hdrop : (Dtc.decodeDtc hi mid ++ '-' :: Hex.ofByte lo).drop 6 = Hex.ofByte lo := rfl
    rw [DecodedDtc.wire, Uds.decodeUdsDtc, List.take_left' (length_decodeDtc hi mid),
      encodeDtc_decodeDtc, ok_bind, hdrop, htext]
    rfl
  cases q with
  | byStatusMask mask =>
    match record, h with
    | [hi, mid, lo, status], _ => exact huds hi mid lo status _
  | supported =>
    match record, h with
    | [hi, mid, lo, status], _ => exact huds hi mid lo status _
  | statusOfDtc dtc =>
    match record, h with
    | [hi, lo, status], _ =>
      rw [decode, DecodedDtc.ofKwp, kwpRecord, DecodedDtc.wire,
        List.take_of_length_le (Nat.le_of_eq (length_decodeDtc hi lo)), encodeDtc_decodeDtc]
      rfl

theorem flagsTell_decode (q : DtcService) {record : Bytes} (h : record.length = q.size) :
    (q.decode record).FlagsTell := by
  have hflags : ∀ status : UInt8, (Uds.decodeDtcStatus status).map Prod.fst = Uds.statusBits
      ∧ ∀ i name, Uds.statusBits[i]? = some name →
        (Uds.decodeDtcStatus status).lookup name = some (status.toNat.testBit i) := by
    intro status
    refine ⟨rfl, fun i name hname => ?_⟩
    obtain ⟨hi, rfl⟩ := List.getElem?_eq_some_iff.mp hname
    have hi : i < 8 := hi
    interval_cases i <;> rfl
  cases q with
  | byStatusMask mask =>
    match record, h with
    | [hi, mid, lo, status], _ =>
      intro flags hsome
      cases hsome
      exact hflags status
  | supported =>
    match record, h with
    | [hi, mid, lo, status], _ =>
      intro flags hsome
      cases hsome
  | statusOfDtc dtc =>
    match record, h with
    | [hi, lo, status], _ =>
      intro flags hsome
      cases hsome
      exact hflags status

/-! ## The readers -/

variable {records : List Bytes} {tail : Bytes}

theorem index_records {n j k : Nat} (hsize : ∀ r ∈ records, r.length = n) {r : Bytes} {b : UInt8}
    (hr : records[j]? = some r) (hk : k < n) (hb : r[k]? = some b) :
    Py.index (records.flatten ++ tail) (n * j + k) = .ok b :=
  Py.index_ok_iff.mpr ((Records.getElem?_flatten hsize hr hk).trans hb)

/-- The loop of the UDS client, over whole records. -/
theorem eachRecord_uds {α : Type} {f : UInt8 → UInt8 → UInt8 → UInt8 → α} {g : Bytes → α}
    (hg : ∀ hi mid lo status, g [hi, mid, lo, status] = f hi mid lo status)
    (hsize : ∀ r ∈ records, r.length = 4) (htail : tail.length < 4) :
    Uds.eachRecord (records.flatten ++ tail) f = .ok (records.map g) := by
  rw [Uds.eachRecord, Records.count hsize htail]
  refine Records.mapM_range fun j r hr => ?_
  match r, hsize r (List.mem_of_getElem? hr), hr with
  | [hi, mid, lo, status], _, hr =>
    have h0 : Py.index (records.flatten ++ tail) (4 * j) = .ok hi :=
      index_records (k := 0) hsize hr (by decide) rfl
    dsimp only
    rw [h0, index_records hsize hr (by decide) rfl, index_records hsize hr (by decide) rfl,
      index_records hsize hr (by decide) rfl, hg]
    rfl

/-- The loop of the KWP2000 client. -/
theorem eachRecord_kwp (hsize : ∀ r ∈ records, r.length = 3) (htail : tail.length < 3) :
    Kwp2000.eachRecord (records.flatten ++ tail) = .ok (records.map kwpRecord) := by
  rw [Kwp2000.eachRecord, Records.count hsize htail]
  refine Records.mapM_range fun j r hr => ?_
  match r, hsize r (List.mem_of_getElem? hr), hr with
  | [hi, lo, status], _, hr =>
    have h0 : Py.index (records.flatten ++ tail) (3 * j) = .ok hi :=
      index_records (k := 0) hsize hr (by decide) rfl
    rw [h0, index_records hsize hr (by decide) rfl, index_records hsize hr (by decide) rfl]
    rfl

/-- The service is answered with these records, whole, and less than one more. -/
def Replied (q : DtcService) (t : Transport σ) (maxPending : Nat) (s : σ) (records : List Bytes)
    (s' : σ) : Prop :=
  ∃ req header tail, q.request = .ok req ∧ header.length = q.header
    ∧ (∀ r ∈ records, r.length = q.size) ∧ tail.length < q.size
    ∧ Concludes (q.client t maxPending) (q.sid :: req) s
      ((q.sid + 0x40) :: (header ++ (records.flatten ++ tail))) s'

/-- What the client reads, in one form. -/
theorem run_of_read {α : Type} {read : Call Exn σ (List α)} {g : Bytes → α} {form : α → DecodedDtc}
    {s s' : σ} {records : List Bytes} (h : read s = (.ok (records.map g), s'))
    {decode : Bytes → DecodedDtc} (hdecode : ∀ r, form (g r) = decode r) :
    (do return (← read).map form : Call Exn σ (List DecodedDtc)) s
      = (.ok (records.map decode), s') := by
  refine (Call.map_run h).trans ?_
  rw [ok_bind, List.map_map]
  exact congrArg (fun f => (Except.ok (records.map f), s')) (funext hdecode)

theorem run_replied {q : DtcService} {t : Transport σ} {maxPending : Nat} {s s' : σ}
    {records : List Bytes} (h : q.Replied t maxPending s records s') :
    q.run t maxPending s = (.ok (records.map q.decode), s') := by
  obtain ⟨req, header, tail, hreq, hheader, hsize, htail, hends⟩ := h
  have hbody : (header ++ (records.flatten ++ tail)).drop q.header = records.flatten ++ tail :=
    List.drop_left' hheader
  have hsend := send_of_positive q.sid_ne hends
  cases q with
  | byStatusMask statusMask =>
    obtain ⟨mask, hmask, hreq⟩ := bind_ok hreq
    cases hreq
    have hread : Uds.readDtcsByStatusMask (Uds.client t maxPending) statusMask s
        = (.ok (records.map udsRecord), s') := by
      refine (Call.bind_run_ok (congrArg (·, s) hmask)).trans ((Call.bind_run_ok hsend).trans ?_)
      rw [← eachRecord_uds (fun _ _ _ _ => rfl) hsize htail]
      exact congrArg (fun body => (Uds.eachRecord body _, s')) hbody
    exact run_of_read hread fun _ => rfl
  | supported =>
    cases hreq
    have hread : Uds.readSupportedDtcs (Uds.client t maxPending) s
        = (.ok (records.map supportedRecord), s') := by
      refine (Call.bind_run_ok hsend).trans ?_
      rw [← eachRecord_uds (fun _ _ _ _ => rfl) hsize htail]
      exact congrArg (fun body => (Uds.eachRecord body _, s')) hbody
    exact run_of_read hread fun _ => rfl
  | statusOfDtc dtc =>
    cases hreq
    have hread : Kwp2000.readStatusOfDtc (Kwp2000.client t maxPending) dtc s
        = (.ok (records.map kwpRecord), s') := by
      refine (Call.bind_run_ok hsend).trans ?_
      rw [← eachRecord_kwp hsize htail]
      exact congrArg (fun body => (Kwp2000.eachRecord body, s')) hbody
    exact run_of_read hread fun _ => rfl

end DtcService

/--
**Record lists lose nothing.** A service returns one item for each whole record, in
their order. The bytes of a record can be read from its item, so another list of
records gives another result, and the flags are the bits of the status.
-/
theorem records_lossless {q : DtcService} {t : Transport σ} {maxPending : Nat} {s s' : σ}
    {records : List Bytes} (h : q.Replied t maxPending s records s') :
    ∃ out : List DecodedDtc, q.run t maxPending s = (.ok out, s') ∧ out.length = records.length
      ∧ (∀ (i : Nat) record, records[i]? = some record →
        ∃ d : DecodedDtc, out[i]? = some d ∧ d.wire = .ok record ∧ d.FlagsTell)
      ∧ ∀ (τ : Type) (t' : Transport τ) maxPending' u u' records',
        q.Replied t' maxPending' u records' u' →
          q.run t' maxPending' u = (.ok out, u') → records' = records := by
  have hsize : ∀ {τ : Type} {t : Transport τ} {m u u' records}, q.Replied t m u records u' →
      ∀ r ∈ records, r.length = q.size := by
    rintro _ _ _ _ _ _ ⟨_, _, _, _, _, hsize, _⟩
    exact hsize
  refine ⟨records.map q.decode, DtcService.run_replied h, List.length_map .., ?_, ?_⟩
  · intro i record hrecord
    have hlen := hsize h record (List.mem_of_getElem? hrecord)
    refine ⟨q.decode record, ?_, q.wire_decode hlen, q.flagsTell_decode hlen⟩
    rw [List.getElem?_map, hrecord]
    rfl
  · intro τ t' maxPending' u u' records' h' hrun
    rw [DtcService.run_replied h'] at hrun
    have hmap : records'.map q.decode = records.map q.decode :=
      Except.ok.inj (Prod.mk.inj hrun).1
    -- both lists are what the bytes of the items spell
    have hwire : ∀ {l : List Bytes}, (∀ r ∈ l, r.length = q.size) →
        (l.map q.decode).map DecodedDtc.wire = l.map Except.ok := by
      intro l hl
      rw [List.map_map]
      exact List.map_congr_left fun r hr => q.wire_decode (hl r hr)
    have hok := (hwire (hsize h')).symm.trans ((congrArg _ hmap).trans (hwire (hsize h)))
    exact List.map_injective_iff.mpr (fun _ _ => Except.ok.inj) hok

/-- Two records, as the UDS client reads them. -/
def twoRecords : List Bytes := [[0x03, 0x01, 0x00, 0x2F], [0xC1, 0x23, 0x45, 0x08]]

/-- The reply has the two records and the first byte of a third one. -/
theorem twoRecords_replied : DtcService.supported.Replied
    (answering (0x59 :: 0x0A :: 0xFF :: (twoRecords.flatten ++ [0x01]))) 10 () twoRecords () :=
  ⟨[0x0A], [0x0A, 0xFF], [0x01], rfl, rfl, by decide, by decide, concludes_at_once rfl rfl rfl⟩

theorem records_lossless_instance :
    ∃ out : List DecodedDtc, DtcService.supported.run
        (answering (0x59 :: 0x0A :: 0xFF :: (twoRecords.flatten ++ [0x01]))) 10 () = (.ok out, ())
      ∧ out.length = twoRecords.length
      ∧ (∀ (i : Nat) record, twoRecords[i]? = some record →
        ∃ d : DecodedDtc, out[i]? = some d ∧ d.wire = .ok record ∧ d.FlagsTell)
      ∧ ∀ (τ : Type) (t' : Transport τ) maxPending' u u' records',
        DtcService.supported.Replied t' maxPending' u records' u' →
          DtcService.supported.run t' maxPending' u = (.ok out, u') → records' = twoRecords :=
  records_lossless twoRecords_replied

/-! ## The number of records -/

/-- The record at three bytes of a reply to 0x18. -/
def recordOf (rest : Bytes) (i : Nat) : Kwp2000.DtcRecord :=
  kwpRecord (Py.slice rest (3 * i) (3 * i + 3))

theorem slice_three {rest : Bytes} {i : Nat} (h : 3 * i + 3 ≤ rest.length) :
    Py.slice rest (3 * i) (3 * i + 3)
      = [rest[3 * i], rest[3 * i + 1], rest[3 * i + 2]] := by
  refine List.ext_getElem (by simp [Py.slice]; omega) fun k hk hk' => ?_
  have hk' : k < 3 := hk'
  rw [List.getElem_of_eq (show Py.slice rest (3 * i) (3 * i + 3)
    = (rest.take (3 * i + 3)).drop (3 * i) from rfl), List.getElem_drop, List.getElem_take]
  interval_cases k <;> rfl

theorem eachRecord_all (rest : Bytes) :
    Kwp2000.eachRecord rest = .ok ((List.range (rest.length / 3)).map (recordOf rest)) := by
  refine mapM_ok fun j hj => ?_
  have hj : j < rest.length / 3 := List.mem_range.mp hj
  rw [index_of_lt (by omega), index_of_lt (by omega), index_of_lt (by omega), recordOf,
    slice_three (by omega)]
  rfl

/--
**The number of records in the reply to 0x18.** Every whole record of the reply is
returned, so these are as many as the reply says exactly if it has no more of them.
-/
theorem readDtcsByStatus_count {t : Transport σ} {maxPending : Nat} {status group : Int}
    (hstatus : 0 ≤ status ∧ status < 256) {n : UInt8} {rest : Bytes} {s s' : σ}
    (h : Concludes (Kwp2000.client t maxPending)
      [0x18, Py.lowByte status, Py.lowByte (group >>> (8 : Nat)), Py.lowByte group] s
      (0x58 :: n :: rest) s') :
    ∃ out, Kwp2000.readDtcsByStatus (Kwp2000.client t maxPending) status group s = (.ok out, s')
      ∧ (out = (List.range (min n.toNat (rest.length / 3))).map (recordOf rest)
        ↔ rest.length / 3 ≤ n.toNat) := by
  have hbuilt : Py.bytesOf [status] = .ok [Py.lowByte status] :=
    Py.bytesOf_of_range (by simpa using hstatus)
  have hsend := send_of_positive (by decide : (0x18 : UInt8) + 0x40 ≠ 0x7F) h
  refine ⟨_, (Call.bind_run_ok (congrArg (·, s) hbuilt)).trans ((Call.bind_run_ok hsend).trans
    (congrArg (·, s') (eachRecord_all rest))), ?_⟩
  constructor
  · intro heq
    have hlen := congrArg List.length heq
    rw [List.length_map, List.length_map, List.length_range, List.length_range] at hlen
    omega
  · intro hle
    rw [Nat.min_eq_right hle]

/-- One record, and the padding of the frame. -/
def padded : Bytes := [0x01, 0x34, 0x20, 0x00, 0x00, 0x00]

/-- One code is announced, and the padding is taken for another one. -/
theorem readDtcsByStatus_padding :
    (Kwp2000.readDtcsByStatus (Kwp2000.client (answering (0x58 :: 0x01 :: padded)) 10)
        0x00 0xFF00 ()).1.map (·.map Kwp2000.DtcRecord.code)
      = .ok ["P0134".toList, "P0000".toList] := by
  decide

/-- So more records are returned than the reply says. -/
theorem readDtcsByStatus_count_padded :
    ∃ out, Kwp2000.readDtcsByStatus (Kwp2000.client (answering (0x58 :: 0x01 :: padded)) 10)
        0x00 0xFF00 () = (.ok out, ())
      ∧ out ≠ (List.range (min (0x01 : UInt8).toNat (padded.length / 3))).map (recordOf padded) := by
  obtain ⟨out, hout, hiff⟩ := readDtcsByStatus_count (t := answering (0x58 :: 0x01 :: padded))
    ⟨Int.le_refl 0, by decide⟩ (concludes_at_once rfl rfl rfl)
  exact ⟨out, hout, fun hsame => absurd (hiff.mp hsame) (by decide)⟩

end AutoDiag.Proof
