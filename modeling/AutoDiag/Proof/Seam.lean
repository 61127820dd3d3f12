import AutoDiag.Proof.AdapterBlock
import AutoDiag.Proof.Operations
import AutoDiag.Transport.Fake
import AutoDiag.Transport.SocketCan

/-!
# One seam, many backends

What a transport stands for is the vehicle behind it: `channel` asks the vehicle and
hands its messages on. Each backend is that channel as long as what it talks to does
its part: the adapter shows the frames of every message (`FaithfulAdapter`), the kernel
hands over whole messages (`KernelSocket`), a responder computes them. A session cannot
tell which of them it runs over.
-/

namespace AutoDiag.Proof

open Call

variable {δ V : Type}

/-- A vehicle: to a request, one message of every ECU that answers it, in the order in which they
start to answer. -/
def Vehicle (V : Type) : Type := V → Bytes → List EcuMessage × V

/-- The transport that is nothing but the vehicle. -/
def channel (vehicle : Vehicle V) : Transport V where
  request payload _ := fun v =>
    (.ok ((vehicle v payload).1.map EcuMessage.response), (vehicle v payload).2)
  receive := fun v => (.ok [], v)

/-! ## The adapter -/

/-- An adapter in front of a vehicle. At its prompt, it answers a request with a block that shows
what the vehicle sends, and without a request with nothing that shows a frame. -/
structure FaithfulAdapter (port : Elm327.SerialPort δ) (vehicle : Vehicle V)
    (prompt : δ → V → Prop) : Prop where
  answers : ∀ {d v}, prompt d v → ∀ payload, ∃ d₁ d₂ block lines,
    port.write ((Hex.ofBytes payload ++ ['\r']).map fun c => UInt8.ofNat c.toNat) d
        = (.ok (), d₁)
      ∧ port.readUntil d₁ = (.ok block, d₂)
      ∧ AdapterBlock (vehicle v payload).1 lines (Py.decodeAscii block)
      ∧ Demux.firstSeen (lines.filterMap Line.toFrame)
        = (vehicle v payload).1.map EcuMessage.id
      ∧ prompt d₂ (vehicle v payload).2
  silent : ∀ {d v}, prompt d v → ∃ r d', port.readUntil d = (r, d') ∧ prompt d' v
    ∧ ∀ block, r = .ok block → ∃ lines, AdapterBlock [] lines (Py.decodeAscii block)

/-- The parser keeps the order in which the ECUs start to answer. -/
theorem parseElmResponse_inOrder {msgs : List EcuMessage} {lines : List Line} {raw : Str}
    (h : AdapterBlock msgs lines raw)
    (horder : Demux.firstSeen (lines.filterMap Line.toFrame) = msgs.map EcuMessage.id) :
    Elm327.parseElmResponse raw = .ok (msgs.map EcuMessage.response) := by
  rw [Elm327.parseElmResponse, frames_of_prints h.shown h.frame_ok, Demux.collect_order, horder]
  refine gatherResponses_messages ?_
  intro m hm
  rw [Demux.collect_lookup, if_pos (h.heard hm), h.own m hm]

/-- A call on an open device. -/
theorem whenOpen_run {α : Type} {x : Call Exn δ α} {r : Except Exn α} {d d' : δ}
    (h : x d = (r, d')) : whenOpen x (some d) = (r, some d') := by
  show ((x d).1, some (x d).2) = _
  rw [h]

/-- The device is open, and related to the vehicle. -/
def Opened (idle : δ → V → Prop) (s : Option δ) (v : V) : Prop := ∃ d, s = some d ∧ idle d v

theorem receive_of_read {port : Elm327.SerialPort δ} {d d' : δ} {block : Bytes}
    (h : port.readUntil d = (.ok block, d')) :
    Elm327.receive port (some d)
      = (Elm327.parseElmResponse (Py.decodeAscii block), some d') := by
  refine whenOpen_run ?_
  simp only [h]

theorem receive_of_failed {port : Elm327.SerialPort δ} {d d' : δ} {e : Exn}
    (h : port.readUntil d = (.error e, d')) :
    Elm327.receive port (some d) = (.ok [], some d') := by
  refine whenOpen_run ?_
  simp only [h]

/-- A block without a sender shows no frame. -/
theorem AdapterBlock.nothing {lines : List Line} {raw : Str} (h : AdapterBlock [] lines raw) :
    Elm327.parseElmResponse raw = .ok [] := by
  refine parseElmResponse_inOrder h ?_
  cases hseen : Demux.firstSeen (lines.filterMap Line.toFrame) with
  | nil => rfl
  | cons i is =>
    have hi : i ∈ Demux.firstSeen (lines.filterMap Line.toFrame) := hseen ▸ .head _
    obtain ⟨x, hx, rfl⟩ := List.mem_map.mp (Demux.mem_firstSeen.mp hi)
    exact absurd (h.senders x hx) List.not_mem_nil

/-- **An adapter that does its part is the channel.** -/
theorem sameChannel_elm327 {port : Elm327.SerialPort δ} {vehicle : Vehicle V}
    {prompt : δ → V → Prop} (h : FaithfulAdapter port vehicle prompt) :
    SameChannel (Opened prompt) (Elm327.transport port) (channel vehicle) where
  request payload functional := by
    refine alike_of_runs ?_
    rintro _ v ⟨d, rfl, hd⟩
    obtain ⟨d₁, d₂, block, lines, hwrite, hread, hblock, horder, hprompt⟩ := h.answers hd payload
    have hline : Elm327.sendLine port (Hex.ofBytes payload) d = (.ok (Py.decodeAscii block), d₂) :=
      (bind_run_ok hwrite).trans (bind_run_ok hread)
    refine ⟨_, _, _, whenOpen_run ((bind_run_ok hline).trans ?_), rfl, d₂, rfl, hprompt⟩
    rw [parseElmResponse_inOrder hblock horder]
    rfl
  receive := by
    refine alike_of_runs ?_
    rintro _ v ⟨d, rfl, hd⟩
    obtain ⟨r, d', hread, hprompt, hnothing⟩ := h.silent hd
    refine ⟨.ok [], some d', v, ?_, rfl, d', rfl, hprompt⟩
    cases r with
    | error e => exact receive_of_failed hread
    | ok block =>
      obtain ⟨lines, hblock⟩ := hnothing block rfl
      exact (receive_of_read hread).trans (congrArg (·, some d') hblock.nothing)

/--
**A session over the adapter is a session with the vehicle.** Whatever operations are
called, in whatever order and with whatever arguments, each returns or raises what it
would over the channel.
-/
theorem elm327_session {port : Elm327.SerialPort δ} {vehicle : Vehicle V} {prompt : δ → V → Prop}
    (h : FaithfulAdapter port vehicle prompt) (settings : Settings) (ops : List Operation) {d : δ}
    {v : V} (hd : prompt d v) :
    ends (Operation.answer settings (Elm327.transport port)) ops (some d)
      = ends (Operation.answer settings (channel vehicle)) ops v :=
  ends_alike (Operation.alike (sameChannel_elm327 h) settings) ops ⟨d, rfl, hd⟩

/-- An adapter that has printed its block, or has nothing to print; the requests are counted. -/
def sampleAdapter : Elm327.SerialPort (Bool × Nat) where
  write _ := fun s => (.ok (), true, s.2 + 1)
  readUntil := fun s =>
    (.ok (if s.1 then sampleText.map fun c => UInt8.ofNat c.toNat else []), false, s.2)

def sampleVehicle : Vehicle Nat := fun n _ => ([longAnswer, shortAnswer], n + 1)

theorem sampleAdapter_faithful :
    FaithfulAdapter sampleAdapter sampleVehicle fun d v => d = (false, v) where
  answers := by
    rintro _ v rfl payload
    refine ⟨_, _, _, sampleLines, rfl, rfl, ?_, rfl, rfl⟩
    rw [if_pos rfl, show Py.decodeAscii (sampleText.map fun c => UInt8.ofNat c.toNat) = sampleText
      by decide]
    exact sample_block
  silent := by
    rintro _ v rfl
    refine ⟨.ok [], (false, v), rfl, rfl, ?_⟩
    intro block hblock
    cases hblock
    exact ⟨[.noise], by decide, by simp, by simp [Line.toFrame],
      [[]], .cons (Or.inl (by simp)) .nil, .ending (by simp)⟩

def noSecurity : Settings := ⟨5, ⟨[], fun _ => none, id, id⟩⟩

theorem elm327_session_sample :
    ends (Operation.answer noSecurity (Elm327.transport sampleAdapter))
        [.j1979 .vin, .uds (.readDataByIdentifier 0xF190), .j1979 .storedDtcs] (some (false, 0))
      = ends (Operation.answer noSecurity (channel sampleVehicle))
        [.j1979 .vin, .uds (.readDataByIdentifier 0xF190), .j1979 .storedDtcs] 0 :=
  elm327_session sampleAdapter_faithful noSecurity _ rfl

/-! ## The kernel's socket -/

/-- A socket to one ECU of a vehicle. When nothing is waiting in it, it is ready after a request as
soon as the ECU has answered, and not otherwise. -/
structure KernelSocket (sock : SocketCan.Socket δ) (ecu : Nat) (vehicle : Vehicle V)
    (empty : δ → V → Prop) : Prop where
  answers : ∀ {d v}, empty d v → ∀ payload, ∃ d₁, sock.send payload d = (.ok (), d₁)
    ∧ (((vehicle v payload).1 = []
        ∧ ∃ d₂, sock.select d₁ = (.ok false, d₂) ∧ empty d₂ (vehicle v payload).2)
      ∨ ∃ m d₂ d₃, (vehicle v payload).1 = [m] ∧ m.id = SocketCan.obdEcuResponseBase + ecu
        ∧ sock.select d₁ = (.ok true, d₂) ∧ sock.recv d₂ = (.ok m.message, d₃)
        ∧ empty d₃ (vehicle v payload).2)
  silent : ∀ {d v}, empty d v → ∃ d', sock.select d = (.ok false, d') ∧ empty d' v

theorem readReply_none {sock : SocketCan.Socket δ} {d d' : δ} (ecu : Nat)
    (h : sock.select d = (.ok false, d')) : SocketCan.readReply sock ecu d = (.ok [], d') :=
  (bind_run_ok h).trans rfl

theorem readReply_message {sock : SocketCan.Socket δ} {d d₁ d₂ : δ} {ecu : Nat} {m : EcuMessage}
    (hid : m.id = SocketCan.obdEcuResponseBase + ecu) (h : sock.select d = (.ok true, d₁))
    (hrecv : sock.recv d₁ = (.ok m.message, d₂)) :
    SocketCan.readReply sock ecu d = (.ok [m.response], d₂) := by
  refine (bind_run_ok h).trans ((bind_run_ok (mapError_run_ok _ hrecv)).trans ?_)
  rw [if_neg m.message_ne, ← hid]
  rfl

/-- **A socket that does its part is the channel.** -/
theorem sameChannel_socketCan {sock : SocketCan.Socket δ} {ecu : Nat} {vehicle : Vehicle V}
    {empty : δ → V → Prop} (h : KernelSocket sock ecu vehicle empty) :
    SameChannel (Opened empty) (SocketCan.transport sock ecu) (channel vehicle) where
  request payload functional := by
    refine alike_of_runs ?_
    rintro _ v ⟨d, rfl, hd⟩
    obtain ⟨d₁, hsend, hreply⟩ := h.answers hd payload
    have hreply : ∃ d', SocketCan.readReply sock ecu d₁
          = (.ok ((vehicle v payload).1.map EcuMessage.response), d')
        ∧ empty d' (vehicle v payload).2 := by
      rcases hreply with ⟨hnone, d₂, hselect, hempty⟩ | ⟨m, d₂, d₃, hm, hid, hselect, hrecv, hempty⟩
      · rw [hnone]
        exact ⟨d₂, readReply_none ecu hselect, hempty⟩
      · rw [hm]
        exact ⟨d₃, readReply_message hid hselect hrecv, hempty⟩
    obtain ⟨d', hrun, hempty⟩ := hreply
    exact ⟨_, _, _, whenOpen_run ((bind_run_ok (mapError_run_ok _ hsend)).trans hrun), rfl, d', rfl,
      hempty⟩
  receive := by
    refine alike_of_runs ?_
    rintro _ v ⟨d, rfl, hd⟩
    obtain ⟨d', hselect, hempty⟩ := h.silent hd
    exact ⟨_, _, _, whenOpen_run (readReply_none ecu hselect), rfl, d', rfl, hempty⟩

/-- **A session over the socket is a session with the vehicle.** -/
theorem socketCan_session {sock : SocketCan.Socket δ} {ecu : Nat} {vehicle : Vehicle V}
    {empty : δ → V → Prop} (h : KernelSocket sock ecu vehicle empty) (settings : Settings)
    (ops : List Operation) {d : δ} {v : V} (hd : empty d v) :
    ends (Operation.answer settings (SocketCan.transport sock ecu)) ops (some d)
      = ends (Operation.answer settings (channel vehicle)) ops v :=
  ends_alike (Operation.alike (sameChannel_socketCan h) settings) ops ⟨d, rfl, hd⟩

/-- A socket in which the same message waits after every request. -/
def sampleSocket : SocketCan.Socket Bool where
  send _ := fun _ => (.ok (), true)
  select := fun waiting => (.ok waiting, waiting)
  recv := fun _ => (.ok longAnswer.message, false)

theorem sampleSocket_kernel :
    KernelSocket sampleSocket 0 (fun n _ => ([longAnswer], n + 1)) fun d (_ : Nat) => d = false
    where
  answers := by
    rintro _ v rfl payload
    exact ⟨true, rfl, .inr ⟨longAnswer, true, false, rfl, rfl, rfl, rfl, rfl⟩⟩
  silent := by
    rintro _ v rfl
    exact ⟨false, rfl, rfl⟩

theorem socketCan_session_sample :
    ends (Operation.answer noSecurity (SocketCan.transport sampleSocket 0))
        [.j1979 .vin, .kwp (.readDataByCommonIdentifier 0xF190), .j1979 .cvn] (some false)
      = ends (Operation.answer noSecurity (channel fun n _ => ([longAnswer], n + 1)))
        [.j1979 .vin, .kwp (.readDataByCommonIdentifier 0xF190), .j1979 .cvn] (0 : Nat) :=
  socketCan_session sampleSocket_kernel noSecurity _ rfl

/-! ## Two backends in front of one vehicle -/

/-- **Changing the backend changes nothing.** -/
theorem backends_agree {ε : Type} {port : Elm327.SerialPort δ} {sock : SocketCan.Socket ε}
    {ecu : Nat} {vehicle : Vehicle V} {prompt : δ → V → Prop} {empty : ε → V → Prop}
    (hadapter : FaithfulAdapter port vehicle prompt) (hsocket : KernelSocket sock ecu vehicle empty)
    (settings : Settings) (ops : List Operation) {d : δ} {d' : ε} {v : V} (hd : prompt d v)
    (hd' : empty d' v) :
    ends (Operation.answer settings (Elm327.transport port)) ops (some d)
      = ends (Operation.answer settings (SocketCan.transport sock ecu)) ops (some d') :=
  (ends_alike (Operation.alike (sameChannel_elm327 hadapter) settings) ops ⟨d, rfl, hd⟩).trans
    (ends_alike (Operation.alike (sameChannel_socketCan hsocket) settings) ops ⟨d', rfl, hd'⟩).symm

/-- The responder of an in-memory transport is a vehicle without a state. -/
theorem sameChannel_fake (respond : Bytes → List EcuMessage) :
    SameChannel (fun s (_ : Unit) => s.isOpen = true ∧ s.followups = [])
      (Fake.transport (.function fun payload => (respond payload).map EcuMessage.response))
      (channel fun v payload => (respond payload, v)) where
  request payload functional := by
    refine alike_of_runs ?_
    rintro s v ⟨hopen, hnone⟩
    refine ⟨_, { s with sent := s.sent ++ [payload], followups := [] }, v, ?_, rfl, hopen, rfl⟩
    exact if_neg (by rw [hopen]; decide)
  receive := by
    refine alike_of_runs ?_
    rintro s v ⟨hopen, hnone⟩
    refine ⟨_, s, v, ?_, rfl, hopen, hnone⟩
    show Fake.receive s = _
    rw [Fake.receive, hnone]

/-- **A session with a car can be tested in memory.** -/
theorem fake_session (respond : Bytes → List EcuMessage) (settings : Settings)
    (ops : List Operation) {s : Fake.State} (hopen : s.isOpen = true) (hnone : s.followups = []) :
    ends (Operation.answer settings
        (Fake.transport (.function fun payload => (respond payload).map EcuMessage.response))) ops s
      = ends (Operation.answer settings (channel fun v payload => (respond payload, v))) ops () :=
  ends_alike (Operation.alike (sameChannel_fake respond) settings) ops ⟨hopen, hnone⟩

end AutoDiag.Proof
