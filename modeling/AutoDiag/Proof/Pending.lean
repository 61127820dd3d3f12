import AutoDiag.Proof.AdapterBlock
import AutoDiag.Protocol.Client
import AutoDiag.Transport.Fake

/-!
# Response-pending replies over the adapter

An ECU that needs time answers `7F <sid> 78` any number of times and then gives
its answer. Over a backend that delivers one message at a time the client waits
through these (`awaitFinal_followups`). The adapter prints all of them in one
block, where they are one list of frames of one source: reassembly returns the
first message of that list and nothing else (`reassembleIsotp_frames`), so the
two backends agree on a block with no pending message in it and on no other.
-/

namespace AutoDiag.Proof

open Client Elm327 IsoTp

/-- `7F <sid> 78`. -/
def pendingMessage (sid : UInt8) : Bytes := [0x7F, sid, Nrc.responsePending]

@[simp] theorem isPending_pendingMessage (sid : UInt8) :
    isPending (pendingMessage sid) = true := rfl

/-- What an ECU says to one request: pending messages, then the answer. -/
structure PendingAnswer where
  id : Nat
  sid : UInt8
  /-- The padding of each pending message. -/
  pendings : List Bytes
  final : Bytes
  filler : Bytes
  id_lt : id < 0x800
  final_ne : final ≠ []
  final_le : final.length ≤ 4095
  final_not_pending : isPending final = false

namespace PendingAnswer

def messages (a : PendingAnswer) : List Bytes :=
  List.replicate a.pendings.length (pendingMessage a.sid) ++ [a.final]

def frames (a : PendingAnswer) : List Bytes :=
  a.pendings.flatMap (segment · (pendingMessage a.sid)) ++ segment a.filler a.final

/-- `raw` is an adapter's block with these messages in it and no frame besides. -/
def Block (a : PendingAnswer) (raw : Str) : Prop :=
  ∃ lines, lines.filterMap Line.toFrame = a.frames.map (a.id, ·) ∧ Prints lines raw

def first (a : PendingAnswer) : Bytes :=
  if a.pendings = [] then a.final else pendingMessage a.sid

theorem first_ne (a : PendingAnswer) : a.first ≠ [] := by
  unfold first
  split
  · exact a.final_ne
  · simp [pendingMessage]

theorem ne_nil_of_mem_queue (a : PendingAnswer) {k : Nat} {m : Bytes}
    (h : m ∈ List.replicate k (pendingMessage a.sid) ++ [a.final]) : m ≠ [] := by
  rcases List.mem_append.mp h with h | h
  · rw [List.eq_of_mem_replicate h]
    simp [pendingMessage]
  · rw [List.mem_singleton.mp h]
    exact a.final_ne

theorem ne_nil_of_mem_messages (a : PendingAnswer) {m : Bytes} (h : m ∈ a.messages) : m ≠ [] :=
  a.ne_nil_of_mem_queue h

theorem frames_ne_nil (a : PendingAnswer) : a.frames ≠ [] := by
  simp [frames, segment_ne_nil]

theorem ne_nil_of_mem_frames (a : PendingAnswer) {f : Bytes} (h : f ∈ a.frames) : f ≠ [] := by
  rcases List.mem_append.mp h with h | h
  · obtain ⟨filler, _, hf⟩ := List.mem_flatMap.mp h
    exact ne_nil_of_mem_segment hf
  · exact ne_nil_of_mem_segment h

end PendingAnswer

/-- **Of several messages, reassembly returns the first.** -/
theorem reassembleIsotp_frames (a : PendingAnswer) : reassembleIsotp a.frames = .ok a.first := by
  unfold PendingAnswer.frames PendingAnswer.first
  cases hp : a.pendings with
  | nil => exact reassembleIsotp_segment a.filler a.final_le
  | cons filler pendings =>
      have hseg : segment filler (pendingMessage a.sid)
          = [singleFrame (pendingMessage a.sid) ++ filler] := if_pos (by simp [pendingMessage])
      rw [List.flatMap_cons, hseg]
      exact reassembleIsotp_single filler _ (by simp [pendingMessage])

/-- A block whose frames all come from one source is read as one response. -/
theorem parseElmResponse_source {id : Nat} {frames : List Bytes} {data : Bytes} {lines : List Line}
    {raw : Str} (hframes : lines.filterMap Line.toFrame = frames.map (id, ·))
    (hshown : Prints lines raw) (hid : id < 0x800) (hne : frames ≠ [])
    (hmem : ∀ f ∈ frames, f ≠ []) (hre : reassembleIsotp frames = .ok data) (hdata : data ≠ []) :
    parseElmResponse raw = .ok [⟨id, data⟩] := by
  have hok : ∀ x ∈ lines.filterMap Line.toFrame, x.1 < 4096 ∧ x.2 ≠ [] := by
    rw [hframes]
    intro x hx
    obtain ⟨f, hf, rfl⟩ := List.mem_map.mp hx
    exact ⟨Nat.lt_trans hid (by omega), hmem f hf⟩
  rw [parseElmResponse, frames_of_prints hshown hok, hframes, Demux.collect_order,
    Demux.firstSeen_pairs id hne, gatherResponses, Demux.collect_pairs_lookup id hne]
  simp only [bind, Except.bind, hre, gatherResponses, if_neg hdata]
  rfl

/-! ## One message at a time -/

/-- The client over the in-memory backend, which holds the messages for the request. -/
def clientOverFake (f : Family) (maxPending : Nat) (a : PendingAnswer) : Client Fake.State :=
  ⟨f, Fake.transport (.mapping fun _ => .items (a.messages.map .bytes)), maxPending⟩

theorem receive_followup (f : Family) (maxPending : Nat) (a : PendingAnswer) {s : Fake.State}
    {m : Bytes} {rest : List Bytes} (hs : s.followups = (m :: rest).map (⟨0x7E8, ·⟩)) :
    (clientOverFake f maxPending a).transport.receive s
      = (.ok [⟨0x7E8, m⟩], { s with followups := rest.map (⟨0x7E8, ·⟩) }) := by
  show Fake.receive s = _
  unfold Fake.receive
  rw [hs]
  rfl

/-- **Waiting through queued pending messages ends on the answer.** -/
theorem awaitFinal_followups (f : Family) (maxPending : Nat) (a : PendingAnswer) :
    ∀ (k left : Nat) (m : Bytes) (rest : List Bytes) (s : Fake.State),
      m :: rest = List.replicate k (pendingMessage a.sid) ++ [a.final] →
      s.followups = rest.map (⟨0x7E8, ·⟩) → k ≤ left →
      ∃ s', (clientOverFake f maxPending a).awaitFinal left m s = (.ok a.final, s') := by
  intro k
  -- by induction on the pending messages still in the queue
  induction k with
  | zero =>
    intro left m rest s hm _ _
    have hfinal : m = a.final := (List.cons.inj hm).1
    rw [hfinal]
    exact ⟨s, awaitFinal_final _ _ a.final_not_pending s⟩
  | succ k ih =>
    intro left m rest s hm hs hle
    rw [List.replicate_succ, List.cons_append] at hm
    obtain ⟨rfl, hrest⟩ := List.cons.inj hm
    obtain ⟨left, rfl⟩ := Nat.exists_eq_succ_of_ne_zero (by omega : left ≠ 0)
    -- something still follows: at least the answer
    obtain ⟨m', rest', rfl⟩ := List.exists_cons_of_ne_nil (l := rest) (by rw [hrest]; simp)
    have hne : m' ≠ [] := a.ne_nil_of_mem_queue (hrest ▸ List.mem_cons_self ..)
    obtain ⟨s', hs'⟩ := ih left m' rest' { s with followups := rest'.map (⟨0x7E8, ·⟩) }
      hrest rfl (by omega)
    exact ⟨s', (awaitFinal_next _ left (isPending_pendingMessage a.sid)
      (receive_followup f maxPending a hs) (by simp [firstData, hne])).trans hs'⟩

/-- **Over the in-memory backend the result is the answer, checked.** -/
theorem send_overFake (f : Family) {maxPending : Nat} {a : PendingAnswer}
    (hk : a.pendings.length ≤ maxPending) (data : Bytes) :
    ((clientOverFake f maxPending a).send a.sid data true ⟨true, [], []⟩).1
      = settle f a.sid a.final := by
  obtain ⟨m, rest, hm⟩ : ∃ m rest, a.messages = m :: rest :=
    List.exists_cons_of_ne_nil (by simp [PendingAnswer.messages])
  have hne : m ≠ [] := a.ne_nil_of_mem_messages (hm ▸ List.mem_cons_self ..)
  have hreq : (clientOverFake f maxPending a).transport.request (a.sid :: data) false
      ⟨true, [], []⟩
        = (.ok [⟨0x7E8, m⟩], ⟨true, [a.sid :: data], rest.map (⟨0x7E8, ·⟩)⟩) := by
    have hget : (Fake.Value.items (a.messages.map .bytes)) = .items ((m :: rest).map .bytes) := by
      rw [hm]
    exact @Fake.request_messages (fun _ => .items (a.messages.map .bytes)) (a.sid :: data) m rest
      hget false ⟨true, [], []⟩ rfl
  obtain ⟨s', hawait⟩ := awaitFinal_followups f maxPending a a.pendings.length maxPending m rest
    ⟨true, [a.sid :: data], rest.map (⟨0x7E8, ·⟩)⟩ hm.symm rfl hk
  rw [send_of_final _ hreq (m := m) (by simp [firstData, hne]) hawait]
  rfl

/-! ## All messages in one block -/

/-- A serial object with its reads prepared; when they are used up, a read times out. -/
def prepared : SerialPort (List Bytes) where
  write _ := pure ()
  readUntil := fun blocks =>
    match blocks with
    | [] => (.ok [], [])
    | block :: blocks => (.ok block, blocks)

def clientOverElm (f : Family) (maxPending : Nat) : Client (Option (List Bytes)) :=
  ⟨f, Elm327.transport prepared, maxPending⟩

theorem request_prepared {block : Bytes} {rs : List EcuResponse}
    (h : parseElmResponse (Py.decodeAscii block) = .ok rs) (f : Family) (maxPending : Nat)
    (payload : Bytes) (functional : Bool) (later : List Bytes) :
    (clientOverElm f maxPending).transport.request payload functional (some (block :: later))
      = (.ok rs, some later) := by
  show ((parseElmResponse (Py.decodeAscii block), some later) : Except Exn _ × _) = _
  rw [h]

theorem receive_prepared_nil (f : Family) (maxPending : Nat) :
    (clientOverElm f maxPending).transport.receive (some []) = (.ok [], some []) := by
  show Elm327.receive prepared (some []) = _
  decide

/-- A checked message is no timeout. -/
theorem settle_ne_timeout (f : Family) (sid : UInt8) (m : Bytes) (text : String) :
    settle f sid m ≠ .error (f.exn (.timeout text)) := by
  intro h
  unfold settle at h
  cases hc : check f m sid with
  | ok u => simp [hc] at h
  | error e =>
      simp only [hc, Except.error.injEq] at h
      subst h
      unfold check at hc
      split at hc
      · cases Family.exn_inj.mp (Except.error.inj hc)
      · split at hc
        · cases Family.exn_inj.mp (Except.error.inj hc)
        · simp at hc

theorem parseElmResponse_pending {a : PendingAnswer} {raw : Str} (h : a.Block raw) :
    parseElmResponse raw = .ok [⟨a.id, a.first⟩] := by
  obtain ⟨lines, hframes, hshown⟩ := h
  exact parseElmResponse_source hframes hshown a.id_lt a.frames_ne_nil
    (fun f hf => a.ne_nil_of_mem_frames hf) (reassembleIsotp_frames a) a.first_ne

/-- With no pending message in the block the answer is what the client checks. -/
theorem send_overElm_direct (f : Family) (maxPending : Nat) {a : PendingAnswer} {block : Bytes}
    (hblock : a.Block (Py.decodeAscii block)) (hk : a.pendings = []) (data : Bytes)
    (later : List Bytes) :
    ((clientOverElm f maxPending).send a.sid data true (some (block :: later))).1
      = settle f a.sid a.final := by
  have hfirst : a.first = a.final := if_pos hk
  have hreq := request_prepared (parseElmResponse_pending hblock) f maxPending
    (a.sid :: data) false later
  have hawait := awaitFinal_final (clientOverElm f maxPending) maxPending a.final_not_pending
    (some later)
  rw [hfirst] at hreq
  rw [send_of_final _ hreq (by simp [firstData, a.final_ne]) hawait]
  rfl

/-- With one the client waits for more, and the block has been used up. -/
theorem send_overElm_timeout (f : Family) {maxPending : Nat} {a : PendingAnswer} {block : Bytes}
    (hblock : a.Block (Py.decodeAscii block)) (hk : a.pendings ≠ [])
    (hle : a.pendings.length ≤ maxPending) (data : Bytes) :
    ((clientOverElm f maxPending).send a.sid data true (some [block])).1
      = .error (f.exn (.timeout "no response from ECU")) := by
  have hfirst : a.first = pendingMessage a.sid := if_neg hk
  have hpos := List.length_pos_iff.mpr hk
  -- the block had a pending message, so at least one receive is allowed
  obtain ⟨left, rfl⟩ := Nat.exists_eq_succ_of_ne_zero (by omega : maxPending ≠ 0)
  have hreq := request_prepared (parseElmResponse_pending hblock) f (left + 1)
    (a.sid :: data) false []
  have hsilent := awaitFinal_silent (clientOverElm f (left + 1)) left
    (isPending_pendingMessage a.sid) (receive_prepared_nil f (left + 1)) rfl
  rw [hfirst] at hreq
  rw [send_of_no_final _ hreq rfl hsilent]
  rfl

/--
**The adapter gives the result of a one-message-at-a-time backend exactly when no
pending message precedes the answer in its block.** Otherwise the answer is lost:
unless a later block happens to hold it, the client reports a timeout.
-/
theorem send_overElm_iff (f : Family) {maxPending : Nat} {a : PendingAnswer} {block : Bytes}
    (hblock : a.Block (Py.decodeAscii block)) (hle : a.pendings.length ≤ maxPending)
    (data : Bytes) :
    ((∀ later, ((clientOverElm f maxPending).send a.sid data true (some (block :: later))).1
          = ((clientOverFake f maxPending a).send a.sid data true ⟨true, [], []⟩).1)
        ↔ a.pendings.length = 0)
      ∧ (((clientOverElm f maxPending).send a.sid data true (some [block])).1
          = ((clientOverFake f maxPending a).send a.sid data true ⟨true, [], []⟩).1
        ↔ a.pendings.length = 0) := by
  rw [send_overFake f hle, List.length_eq_zero_iff]
  have honly : ((clientOverElm f maxPending).send a.sid data true (some [block])).1
      = settle f a.sid a.final → a.pendings = [] := by
    intro h
    by_contra hk
    rw [send_overElm_timeout f hblock hk hle] at h
    exact settle_ne_timeout f a.sid a.final _ h.symm
  refine ⟨⟨fun h => honly (h []), ?_⟩, honly, ?_⟩
  · intro hk later
    exact send_overElm_direct f maxPending hblock hk data later
  · intro hk
    exact send_overElm_direct f maxPending hblock hk data []

/-- One pending message, then `62 F1 90 56`. -/
def slowAnswer : PendingAnswer :=
  ⟨0x7E8, 0x22, [[]], [0x62, 0xF1, 0x90, 0x56], [], engine_lt, by decide, by decide, rfl⟩

def slowText : Str := "7E8037F2278".toList ++ '\r' :: ("7E80462F19056".toList ++ '\r' :: ['>'])

def slowBlock : Bytes := slowText.map fun c => UInt8.ofNat c.toNat

theorem slow_block : slowAnswer.Block (Py.decodeAscii slowBlock) := by
  refine ⟨[.frame 0x7E8 [0x03, 0x7F, 0x22, 0x78], .frame 0x7E8 [0x04, 0x62, 0xF1, 0x90, 0x56],
    .noise], ?_, ["7E8037F2278".toList, "7E80462F19056".toList, ['>']], ?_, ?_⟩
  · simp [slowAnswer, PendingAnswer.frames, IsoTp.segment, singleFrame, pendingMessage,
      Line.toFrame, Nrc.responsePending]
  · refine .cons ?_ (.cons ?_ (.cons (Or.inr ⟨'>', by decide, by decide, by decide⟩) .nil))
    all_goals
      show Py.upper _ = _
      decide
  · rw [show Py.decodeAscii slowBlock = slowText by decide]
    exact .line (by decide) rfl (.line (by decide) rfl (.ending (by decide)))

/-- Where one pending message precedes the answer, the two results differ. -/
theorem send_overElm_iff_slow :
    (¬ ∀ later, ((clientOverElm .uds 10).send 0x22 [0xF1, 0x90] true
          (some (slowBlock :: later))).1
        = ((clientOverFake .uds 10 slowAnswer).send 0x22 [0xF1, 0x90] true ⟨true, [], []⟩).1)
      ∧ ((clientOverElm .uds 10).send 0x22 [0xF1, 0x90] true (some [slowBlock])).1
        ≠ ((clientOverFake .uds 10 slowAnswer).send 0x22 [0xF1, 0x90] true ⟨true, [], []⟩).1 := by
  have hle : slowAnswer.pendings.length ≤ 10 := by decide
  obtain ⟨hlater, hlast⟩ := send_overElm_iff .uds slow_block hle [0xF1, 0x90]
  exact ⟨fun h => absurd (hlater.mp h) (by decide), fun h => absurd (hlast.mp h) (by decide)⟩

/-- **An answer behind a pending message is lost over the adapter.** -/
theorem send_overElm_loses_answer :
    ¬ ∀ (f : Family) (maxPending : Nat) (a : PendingAnswer) (block data : Bytes),
      a.Block (Py.decodeAscii block) → a.pendings.length ≤ maxPending →
      ((clientOverElm f maxPending).send a.sid data true (some [block])).1
        = ((clientOverFake f maxPending a).send a.sid data true ⟨true, [], []⟩).1 := by
  intro h
  have hsame := h .uds 10 slowAnswer slowBlock [0xF1, 0x90] slow_block (by decide)
  revert hsame
  decide +kernel

end AutoDiag.Proof
