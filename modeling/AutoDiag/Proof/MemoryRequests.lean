import AutoDiag.Proof.Echo
import AutoDiag.Proof.Exchange
import AutoDiag.Proof.Refusals

/-!
# Requests with a memory address

Four services write an address and a size in as many bytes as the two nibbles of a
format byte say. What does not fit is never cut short: the call raises before it
sends anything. What fits can be read from the request again, by the nibbles alone.
-/

namespace AutoDiag.Proof

open Client Raise

variable {σ : Type}

/-- A call of one of the services, without the widths of its fields. -/
inductive MemoryRequest where
  | read (address size : Int)
  | write (address : Int) (data : Bytes)
  | download (dataFormat address size : Int)
  | upload (dataFormat address size : Int)

namespace MemoryRequest

def call (addrBytes sizeBytes : Nat) : MemoryRequest → UdsCall
  | read address size => .readMemoryByAddress address size addrBytes sizeBytes
  | write address data => .writeMemoryByAddress address data addrBytes sizeBytes
  | download dataFormat address size =>
    .requestDownload address size dataFormat addrBytes sizeBytes
  | upload dataFormat address size => .requestUpload address size dataFormat addrBytes sizeBytes

def sid : MemoryRequest → UInt8
  | read .. => 0x23
  | write .. => 0x3D
  | download .. => 0x34
  | upload .. => 0x35

def dataFormat : MemoryRequest → Option Int
  | read .. | write .. => none
  | download f .. | upload f .. => some f

def address : MemoryRequest → Int
  | read a _ | write a _ | download _ a _ | upload _ a _ => a

/-- The size; of a write, that of its data. -/
def size : MemoryRequest → Int
  | read _ n | download _ _ n | upload _ _ n => n
  | write _ data => data.length

def data : MemoryRequest → Bytes
  | write _ data => data
  | _ => []

/-- Every value fits its field. -/
structure Fits (addrBytes sizeBytes : Nat) (q : MemoryRequest) : Prop where
  address : 0 ≤ q.address ∧ q.address < 256 ^ addrBytes
  size : 0 ≤ q.size ∧ q.size < 256 ^ sizeBytes
  dataFormat : ∀ f ∈ q.dataFormat, 0 ≤ f ∧ f < 256

end MemoryRequest

/-! ## The decoder -/

/-- What a request says. -/
structure DecodedRequest where
  sid : UInt8
  dataFormat : Option Int
  address : Int
  size : Int
  data : Bytes
  deriving DecidableEq

/-- The fields behind the format byte, as wide as its nibbles say. -/
def splitFields (sid : UInt8) (dataFormat : Option Int) : Bytes → Option DecodedRequest
  | [] => none
  | alfid :: body =>
    let addrBytes := (alfid &&& 0x0F).toNat
    let sizeBytes := (alfid >>> 4).toNat
    if addrBytes + sizeBytes ≤ body.length then
      some ⟨sid, dataFormat, Py.ofBytesBig (body.take addrBytes),
        Py.ofBytesBig ((body.drop addrBytes).take sizeBytes), body.drop (addrBytes + sizeBytes)⟩
    else none

/-- A request is split by its service and the two nibbles. -/
def splitRequest : Bytes → Option DecodedRequest
  | 0x23 :: rest => splitFields 0x23 none rest
  | 0x3D :: rest => splitFields 0x3D none rest
  | 0x34 :: f :: rest => splitFields 0x34 (some f.toNat) rest
  | 0x35 :: f :: rest => splitFields 0x35 (some f.toNat) rest
  | _ => none

/-! ## What is built -/

variable {addrBytes sizeBytes : Nat} {first : List Int} {address size : Int}

theorem alfid_eq (ha : addrBytes ≤ 15) :
    Int.lor ((sizeBytes : Int) <<< (4 : Nat)) addrBytes
      = ((16 * sizeBytes + addrBytes : Nat) : Int) := by
  have hnat : sizeBytes <<< 4 ||| addrBytes = 16 * sizeBytes + addrBytes := by
    rw [← Nat.shiftLeft_add_eq_or_of_lt (by omega), Nat.shiftLeft_eq]
    omega
  show ((sizeBytes <<< 4 ||| addrBytes : Nat) : Int) = _
  rw [hnat]

theorem addressed_fits (ha : addrBytes ≤ 15) (hs : sizeBytes ≤ 15)
    (hfirst : ∀ x ∈ first, 0 ≤ x ∧ x < 256) (haddress : 0 ≤ address ∧ address < 256 ^ addrBytes)
    (hsize : 0 ≤ size ∧ size < 256 ^ sizeBytes) :
    Uds.addressed first address size addrBytes sizeBytes
      = .ok (first.map Py.lowByte ++ UInt8.ofNat (16 * sizeBytes + addrBytes)
        :: (Py.toBytesBig addrBytes address.toNat ++ Py.toBytesBig sizeBytes size.toNat)) := by
  have hhead : Py.bytesOf (first ++ [((16 * sizeBytes + addrBytes : Nat) : Int)])
      = .ok (first.map Py.lowByte ++ [UInt8.ofNat (16 * sizeBytes + addrBytes)]) := by
    rw [Py.bytesOf_of_range, List.map_append, List.map_singleton, Py.lowByte_natCast]
    intro x hx
    rcases List.mem_append.mp hx with hx | hx
    · exact hfirst x hx
    · rw [List.mem_singleton.mp hx]
      omega
  rw [Uds.addressed, alfid_eq ha, hhead, ok_bind, Py.intToBytesBig_of_range haddress, ok_bind,
    Py.intToBytesBig_of_range hsize, ok_bind, List.append_assoc, List.append_assoc]
  rfl

/-- A value that does not fit its field is not written. -/
theorem addressed_raises (h : ¬ ((∀ x ∈ first, 0 ≤ x ∧ x < 256)
      ∧ (0 ≤ address ∧ address < 256 ^ addrBytes) ∧ (0 ≤ size ∧ size < 256 ^ sizeBytes))) :
    ∃ e, Uds.addressed first address size addrBytes sizeBytes = .error e := by
  rw [← not_returns]
  intro hok
  obtain ⟨req, hok⟩ := hok
  obtain ⟨head, hhead, hok⟩ := bind_ok hok
  obtain ⟨a, haddress, hok⟩ := bind_ok hok
  obtain ⟨s, hsize, -⟩ := bind_ok hok
  refine h ⟨fun x hx => ?_, ?_, ?_⟩
  · by_contra hx'
    obtain ⟨e, he⟩ := Py.bytesOf_of_not_range (List.mem_append_left _ hx) hx'
    rw [he] at hhead
    cases hhead
  · by_contra ha
    obtain ⟨e, he⟩ := Py.intToBytesBig_of_not_range ha
    rw [he] at haddress
    cases haddress
  · by_contra hs
    obtain ⟨e, he⟩ := Py.intToBytesBig_of_not_range hs
    rw [he] at hsize
    cases hsize

/-- **The two nibbles tell the fields apart.** -/
theorem splitFields_addressed (ha : addrBytes ≤ 15) (hs : sizeBytes ≤ 15)
    (haddress : 0 ≤ address ∧ address < 256 ^ addrBytes)
    (hsize : 0 ≤ size ∧ size < 256 ^ sizeBytes) (sid : UInt8) (dataFormat : Option Int)
    (data : Bytes) :
    splitFields sid dataFormat (UInt8.ofNat (16 * sizeBytes + addrBytes)
        :: (Py.toBytesBig addrBytes address.toNat ++ Py.toBytesBig sizeBytes size.toNat ++ data))
      = some ⟨sid, dataFormat, address, size, data⟩ := by
  have hnibbles : ∀ a ≤ 15, ∀ s ≤ 15, (UInt8.ofNat (16 * s + a) &&& 0x0F).toNat = a
      ∧ (UInt8.ofNat (16 * s + a) >>> 4).toNat = s := by
    decide
  obtain ⟨hlow, hhigh⟩ := hnibbles addrBytes ha sizeBytes hs
  have hfield : ∀ {x : Int} {n : Nat}, 0 ≤ x ∧ x < 256 ^ n →
      ((Py.ofBytesBig (Py.toBytesBig n x.toNat) : Nat) : Int) = x := by
    intro x n hx
    rw [Py.ofBytesBig_toBytesBig, Int.toNat_of_nonneg hx.1]
    rw [← Int.ofNat_lt, Int.toNat_of_nonneg hx.1]
    exact_mod_cast hx.2
  rw [splitFields, hlow, hhigh, if_pos (by simp), List.append_assoc,
    List.take_left' (Py.length_toBytesBig ..), List.drop_left' (Py.length_toBytesBig ..),
    List.take_left' (Py.length_toBytesBig ..), ← List.append_assoc, List.drop_left' (by simp),
    hfield haddress, hfield hsize]

namespace MemoryRequest

variable {q : MemoryRequest}

/-- What follows the service id in the request. -/
def body (addrBytes sizeBytes : Nat) (q : MemoryRequest) : Bytes :=
  q.dataFormat.toList.map Py.lowByte ++ UInt8.ofNat (16 * sizeBytes + addrBytes)
    :: (Py.toBytesBig addrBytes q.address.toNat ++ Py.toBytesBig sizeBytes q.size.toNat ++ q.data)

/-- The four services build their requests alike. -/
theorem request_call (addrBytes sizeBytes : Nat) (q : MemoryRequest) :
    (q.call addrBytes sizeBytes).request = UdsCall.builtRequest q.sid
      (Uds.addressed q.dataFormat.toList q.address q.size addrBytes sizeBytes) q.data := by
  cases q <;> rfl

theorem splitRequest_body (ha : addrBytes ≤ 15) (hs : sizeBytes ≤ 15)
    (h : q.Fits addrBytes sizeBytes) :
    splitRequest (q.sid :: q.body addrBytes sizeBytes)
      = some ⟨q.sid, q.dataFormat, q.address, q.size, q.data⟩ := by
  have hfields := fun sid f => splitFields_addressed ha hs h.address h.size sid f q.data
  have hformat : ∀ {f : Int}, 0 ≤ f ∧ f < 256 → ((Py.lowByte f).toNat : Int) = f := by
    intro f hf
    rw [Py.lowByte, UInt8.toNat_ofNat']
    omega
  cases q with
  | read address size => exact hfields 0x23 none
  | write address data => exact hfields 0x3D none
  | download f address size =>
    refine (hfields 0x34 (some ((Py.lowByte f).toNat : Int))).trans ?_
    rw [hformat (h.dataFormat f rfl)]
    rfl
  | upload f address size =>
    refine (hfields 0x35 (some ((Py.lowByte f).toNat : Int))).trans ?_
    rw [hformat (h.dataFormat f rfl)]
    rfl

theorem request_fits (ha : addrBytes ≤ 15) (hs : sizeBytes ≤ 15) (h : q.Fits addrBytes sizeBytes) :
    (q.call addrBytes sizeBytes).request = .ok ⟨q.sid, q.body addrBytes sizeBytes, true⟩ := by
  have hformat : ∀ x ∈ q.dataFormat.toList, 0 ≤ x ∧ x < 256 :=
    fun x hx => h.dataFormat x (Option.mem_toList.mp hx)
  rw [request_call, UdsCall.builtRequest, addressed_fits ha hs hformat h.address h.size, ok_bind,
    body, List.append_assoc, List.cons_append]
  rfl

theorem request_raises (h : ¬ q.Fits addrBytes sizeBytes) :
    ∃ e, (q.call addrBytes sizeBytes).request = .error e := by
  have hfields : ¬ ((∀ x ∈ q.dataFormat.toList, 0 ≤ x ∧ x < 256)
      ∧ (0 ≤ q.address ∧ q.address < 256 ^ addrBytes) ∧ (0 ≤ q.size ∧ q.size < 256 ^ sizeBytes)) :=
    fun hfits => h ⟨hfits.2.1, hfits.2.2, fun f hf => hfits.1 f (Option.mem_toList.mpr hf)⟩
  obtain ⟨e, he⟩ := addressed_raises hfields
  exact ⟨e, by rw [request_call, UdsCall.builtRequest, he]; rfl⟩

theorem sid_ne (q : MemoryRequest) : q.sid + 0x40 ≠ 0x7F := by
  cases q <;> simp [sid]

end MemoryRequest

/--
**Memory requests.** With fields of 1 to 15 bytes, a call raises before it sends
anything exactly if a value does not fit its field. Otherwise it sends one request,
which the two nibbles of its format byte split into what was asked for.
-/
theorem memoryRequest_decodable (q : MemoryRequest) (ha : 1 ≤ addrBytes ∧ addrBytes ≤ 15)
    (hs : 1 ≤ sizeBytes ∧ sizeBytes ≤ 15) (t : Transport σ) (maxPending : Nat) (u : σ) :
    (¬ q.Fits addrBytes sizeBytes →
      ∃ e, (q.call addrBytes sizeBytes).run (logged (Uds.client t maxPending)) (u, [])
        = (.error e, u, []))
    ∧ (q.Fits addrBytes sizeBytes → ∃ payload, ∃ ds : List (List EcuResponse),
      ((q.call addrBytes sizeBytes).run (logged (Uds.client t maxPending)) (u, [])).2.2
          = .sent payload :: ds.map .delivered
        ∧ splitRequest payload = some ⟨q.sid, q.dataFormat, q.address, q.size, q.data⟩) := by
  obtain ⟨finish, hrun⟩ := sendsOnce (q.call addrBytes sizeBytes)
    (logged (Uds.client t maxPending))
  constructor
  · intro h
    obtain ⟨e, he⟩ := MemoryRequest.request_raises h
    rw [hrun]
    exact ⟨e, Call.bind_run_error (congrArg (·, u, []) he)⟩
  · intro h
    have hreq := MemoryRequest.request_fits ha.2 hs.2 h
    obtain ⟨res, s', ds, hsend, -⟩ := send_logged (Uds.client t maxPending) q.sid_ne
      (q.body addrBytes sizeBytes) u []
    have hbuilt : (Call.ofExcept (q.call addrBytes sizeBytes).request
        : Call Exn (σ × List Exchange) Request) (u, [])
        = (.ok ⟨q.sid, q.body addrBytes sizeBytes, true⟩, u, []) :=
      congrArg (·, u, []) hreq
    -- one message goes out, and it is the body
    have hcall : (q.call addrBytes sizeBytes).run (logged (Uds.client t maxPending)) (u, [])
        = (res >>= fun data => pure (finish data), s',
          .sent (q.sid :: q.body addrBytes sizeBytes) :: ds.map .delivered) := by
      rw [hrun]
      exact (Call.bind_run_ok hbuilt).trans (Call.map_run hsend)
    refine ⟨_, ds, ?_, MemoryRequest.splitRequest_body ha.2 hs.2 h⟩
    rw [hcall]

/-- Two bytes are written at an address of three bytes, and none at one of four. -/
theorem memoryRequest_decodable_write :
    (∃ payload, ∃ ds : List (List EcuResponse),
      (((MemoryRequest.write 0x012345 [0xAB, 0xCD]).call 3 1).run
          (logged (Uds.client (answering [0x7D, 0x13]) 10)) ((), [])).2.2
          = .sent payload :: ds.map .delivered
        ∧ splitRequest payload = some ⟨0x3D, none, 0x012345, 2, [0xAB, 0xCD]⟩)
    ∧ ∃ e, ((MemoryRequest.write 0x01234567 [0xAB, 0xCD]).call 3 1).run
        (logged (Uds.client (answering [0x7D, 0x13]) 10)) ((), []) = (.error e, (), []) := by
  constructor
  · refine (memoryRequest_decodable (.write 0x012345 [0xAB, 0xCD]) (by decide) (by decide) _ 10
      ()).2 ⟨?_, ?_, fun f hf => by cases hf⟩
    · decide
    · decide
  · refine (memoryRequest_decodable (.write 0x01234567 [0xAB, 0xCD]) (by decide) (by decide) _ 10
      ()).1 fun h => absurd h.address ?_
    decide

end AutoDiag.Proof
