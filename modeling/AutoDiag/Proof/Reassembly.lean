import AutoDiag.Lib.IsoTp
import AutoDiag.Transport.Elm327

/-!
# What reassembly makes of a message's frames

Undamaged frames give the message back. Damaged ones are the other half of the
file: the sequence numbers are not looked at and a missing tail is not noticed,
so what comes out is decided by the data of the consecutive frames alone, in the
order in which they were received.
-/

namespace AutoDiag.Proof

open Elm327 IsoTp

theorem foldl_appendFrame {fs : List Bytes} (h : ∀ f ∈ fs, ∃ n tail, f = sequenceByte n :: tail) :
    ∀ data : Bytes, fs.foldl appendFrame data = data ++ fs.flatMap (List.drop 1) := by
  induction fs with
  | nil => intro data; simp
  | cons f fs ih =>
    intro data
    obtain ⟨n, tail, rfl⟩ := h f (List.mem_cons_self ..)
    have hone : appendFrame data (sequenceByte n :: tail) = data ++ tail :=
      if_pos (sequenceByte_kind n)
    rw [List.foldl_cons, hone, ih (fun g hg => h g (List.mem_cons_of_mem _ hg))]
    simp

/-- A first frame and any consecutive frames after it. -/
theorem reassembleIsotp_first {message : Bytes} {fs : List Bytes} (hmax : message.length ≤ 4095)
    (hfs : ∀ f ∈ fs, ∃ n tail, f = sequenceByte n :: tail) :
    reassembleIsotp (firstFrame message :: fs)
      = .ok ((message.take 6 ++ fs.flatMap (List.drop 1)).take message.length) := by
  have hkind := first_kind hmax
  have hlen := first_length hmax
  simp only [reassembleIsotp, firstFrame, Py.index_zero_cons, Py.index_one_cons]
  show (if _ then _ else if _ then _ else _) = _
  rw [if_neg (by rw [hkind]; decide), if_pos hkind]
  show Except.ok (List.take _ _) = _
  rw [hlen, foldl_appendFrame hfs]
  rfl

/-- A single frame, padded or not, is all that is read of the list it starts. -/
theorem reassembleIsotp_single {message : Bytes} (filler : Bytes) (rest : List Bytes)
    (h : message.length ≤ 7) :
    reassembleIsotp ((singleFrame message ++ filler) :: rest) = .ok message := by
  simp only [reassembleIsotp, singleFrame, List.cons_append, Py.index_zero_cons]
  show (if _ then _ else _) = _
  rw [if_pos (single_kind h)]
  show Except.ok (Py.slice _ _ _) = _
  rw [single_length h, Py.slice, Nat.add_comm, List.take_succ_cons, List.drop_succ_cons,
    List.drop_zero, List.take_left]

/-- **Undamaged frames give the message back, whatever the padding.** -/
theorem reassembleIsotp_segment (filler : Bytes) {message : Bytes}
    (hmax : message.length ≤ 4095) : reassembleIsotp (segment filler message) = .ok message := by
  unfold IsoTp.segment
  split
  · rename_i h
    exact reassembleIsotp_single filler [] h
  · obtain ⟨pad, hpad⟩ := consecutiveFrames_data filler 1 (message.drop 6)
    rw [reassembleIsotp_first hmax (fun f hf => mem_consecutiveFrames hf), hpad,
      ← List.append_assoc, List.take_append_drop, List.take_left]

/-! ## Damage -/

/--
`received` is what is left of the consecutive frames of `message` after losses,
repetitions and reordering: any list of them.
-/
def Remains (filler message : Bytes) (received : List Bytes) : Prop :=
  ∀ f ∈ received, f ∈ consecutiveFrames filler 1 (message.drop 6)

/-- The received frames carry, in the order received, at least what was sent in them. -/
def CarriesRest (message : Bytes) (received : List Bytes) : Prop :=
  message.drop 6 <+: received.flatMap (List.drop 1)

/-- Frames received in full and in order carry the message, whatever follows them. -/
theorem carriesRest_of_prefix {filler message : Bytes} {received : List Bytes}
    (h : consecutiveFrames filler 1 (message.drop 6) <+: received) :
    CarriesRest message received := by
  obtain ⟨more, rfl⟩ := h
  obtain ⟨pad, hpad⟩ := consecutiveFrames_data filler 1 (message.drop 6)
  exact ⟨pad ++ more.flatMap (List.drop 1), by
    rw [List.flatMap_append, hpad, List.append_assoc]⟩

theorem reassembleIsotp_damaged_ne_nil {filler message : Bytes} {received : List Bytes}
    (hlong : 7 < message.length) (hmax : message.length ≤ 4095)
    (hr : Remains filler message received) :
    reassembleIsotp (firstFrame message :: received) ≠ .ok [] := by
  rw [reassembleIsotp_first hmax (fun f hf => mem_consecutiveFrames (hr f hf))]
  intro h
  have hnil := Except.ok.inj h
  have hlen := congrArg List.length hnil
  simp only [List.length_take, List.length_append, List.length_nil] at hlen
  omega

/--
**A damaged message is delivered intact, or not at all, exactly when the frames
that were received still carry the rest of it in order.** Every other damage is
delivered as a different byte string.
-/
theorem reassembleIsotp_intact_iff {filler message : Bytes} {received : List Bytes}
    (hlong : 7 < message.length) (hmax : message.length ≤ 4095)
    (hr : Remains filler message received) :
    (reassembleIsotp (firstFrame message :: received) = .ok message
        ∨ reassembleIsotp (firstFrame message :: received) = .ok [])
      ↔ CarriesRest message received := by
  have hne := reassembleIsotp_damaged_ne_nil hlong hmax hr
  have hfirst := reassembleIsotp_first hmax (fun f hf => mem_consecutiveFrames (hr f hf))
  have hsix : (message.take 6).length = 6 := by rw [List.length_take]; omega
  -- the first frame carries six bytes, so the cut to the length only concerns the rest
  have hcut : ∀ data : Bytes, (message.take 6 ++ data).take message.length
      = message.take 6 ++ data.take (message.drop 6).length := by
    intro data
    have hsplit : message.length = (message.take 6).length + (message.drop 6).length := by
      rw [hsix, List.length_drop]; omega
    rw [hsplit, List.take_length_add_append]
  rw [or_iff_left hne, hfirst, hcut, CarriesRest, List.prefix_iff_eq_take]
  constructor
  · intro h
    have hm := Except.ok.inj h
    rw [← List.take_append_drop 6 message] at hm
    simp only [List.take_append_drop] at hm
    exact (List.append_cancel_left (hm.trans (List.take_append_drop 6 message).symm)).symm
  · intro h
    rw [← h, List.take_append_drop]

/-- A message of twenty bytes: a first frame and two full consecutive frames. -/
def sampleMessage : Bytes :=
  [0, 1, 2, 3, 4, 5, 6, 7, 8, 9, 10, 11, 12, 13, 14, 15, 16, 17, 18, 19]

def sampleTail : Bytes := [0x22, 13, 14, 15, 16, 17, 18, 19]

theorem sample_remains : Remains [] sampleMessage [sampleTail] := by
  intro f hf
  rw [List.mem_singleton.mp hf]
  simp [sampleMessage, sampleTail, consecutiveFrames, sequenceByte]

/-- Without the first of its two consecutive frames the message is neither intact nor nothing. -/
theorem reassembleIsotp_intact_iff_lost_frame :
    ¬ (reassembleIsotp [firstFrame sampleMessage, sampleTail] = .ok sampleMessage
        ∨ reassembleIsotp [firstFrame sampleMessage, sampleTail] = .ok []) := by
  intro h
  have hcarries := (reassembleIsotp_intact_iff (by decide) (by decide) sample_remains).mp h
  rw [CarriesRest] at hcarries
  revert hcarries
  decide

/-- **A lost frame goes unnoticed**: the message comes out with a hole in it. -/
theorem reassembleIsotp_delivers_hole :
    ¬ ∀ (filler message : Bytes) (received : List Bytes), 7 < message.length →
      message.length ≤ 4095 → Remains filler message received →
      reassembleIsotp (firstFrame message :: received) = .ok message
        ∨ reassembleIsotp (firstFrame message :: received) = .ok [] := by
  intro h
  have hole := h [] sampleMessage [sampleTail] (by decide) (by decide) sample_remains
  revert hole
  decide

end AutoDiag.Proof
