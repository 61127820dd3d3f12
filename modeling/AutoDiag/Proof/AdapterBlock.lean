import AutoDiag.Lib.Lines
import AutoDiag.Proof.Reassembly

/-!
# What the adapter prints, and that the parser reads it back

An `AdapterBlock` is the text between a command and the next prompt: the frames
of any number of ECUs, one line each, every ECU's frames in their own order but
otherwise interleaved freely, among blank lines, prompts and status texts. The
parser returns one response per ECU holding exactly the message it sent.

The proof has three steps. A line that shows a frame is read as that frame and a
line that shows none is skipped (`lineFrame_shows`); what the demultiplexer
holds for a source is that source's own frames (`Demux.collect_lookup`); and
those are a whole message (`reassembleIsotp_segment`).
-/

namespace AutoDiag.Proof

open Py Elm327 IsoTp

/-! ## Lines -/

/-- What one line of the adapter's output stands for. -/
inductive Line where
  | frame (id : Nat) (bytes : Bytes)
  | noise
  deriving DecidableEq

/-- The frame of a line, with its sender. -/
def Line.toFrame : Line → Option (Nat × Bytes)
  | .frame id bytes => some (id, bytes)
  | .noise => none

/--
`text` shows `line`: a frame as three digits of id and the frame's digits, in
either letter case; noise as a blank line or one with something in it that is
neither blank nor a digit, as in `>`, `NO DATA` or `SEARCHING...`.
-/
def Line.Shows : Line → Str → Prop
  | .frame id bytes, text => upper text = Hex.ofNat3 id ++ Hex.ofBytes bytes
  | .noise, text => (∀ c ∈ text, isSpace c = true)
      ∨ ∃ c ∈ text, isSpace c = false ∧ c.toUpper ∉ Hex.digits

def lineEnd (c : Char) : Bool := decide (c = '\r') || decide (c = '\n')

theorem shows_frame_mem {id : Nat} {bytes : Bytes} {text : Str}
    (h : (Line.frame id bytes).Shows text) {c : Char} (hc : c ∈ upper text) : c ∈ Hex.digits := by
  rw [show upper text = _ from h] at hc
  rcases List.mem_append.mp hc with hc | hc
  · exact Hex.ofNat3_mem hc
  · exact Hex.ofBytes_mem hc

theorem shows_frame_not_space {id : Nat} {bytes : Bytes} {text : Str}
    (h : (Line.frame id bytes).Shows text) {c : Char} (hc : c ∈ text) : isSpace c = false :=
  isSpace_of_toUpper_mem (shows_frame_mem h (mem_upper hc))

theorem cleanLine_frame {id : Nat} {bytes : Bytes} {text : Str}
    (h : (Line.frame id bytes).Shows text) :
    cleanLine text = Hex.ofNat3 id ++ Hex.ofBytes bytes := by
  have hsp : ∀ c ∈ text, isSpace c = false := fun c hc => shows_frame_not_space h hc
  have hblank : ' ' ∉ text := fun hm => Bool.noConfusion ((hsp _ hm).symm.trans rfl)
  rw [cleanLine, strip_eq_self hsp, remove_eq_self hblank]
  exact h

/-- Every status text has a letter that is no digit. -/
theorem statusTokens_not_hex : ∀ tok ∈ statusTokens, ∃ c ∈ tok, c ∉ Hex.digits := by
  simp [statusTokens, Hex.digits]

theorem no_status_of_hex {s : Str} (h : ∀ c ∈ s, c ∈ Hex.digits) :
    statusTokens.any (isIn · s) = false := by
  rw [List.any_eq_false]
  intro tok htok hin
  obtain ⟨c, hc, hno⟩ := statusTokens_not_hex tok htok
  exact hno (h c (mem_of_isIn hin hc))

/-- **A frame line is read as its frame.** -/
theorem lineFrame_frame {id : Nat} {bytes : Bytes} {text : Str}
    (h : (Line.frame id bytes).Shows text) (hid : id < 4096) (hne : bytes ≠ []) :
    lineFrame text = some (id, bytes) := by
  -- the digits pass every test that skips a line: no prompt, no status text, no bad shape
  have hmem : ∀ c ∈ Hex.ofNat3 id ++ Hex.ofBytes bytes, c ∈ Hex.digits := fun c hc =>
    shows_frame_mem h (by rw [show upper text = _ from h]; exact hc)
  have hhex : isHex (Hex.ofNat3 id ++ Hex.ofBytes bytes) = true := by
    rw [isHex, List.all_eq_true]
    exact fun c hc => decide_eq_true (hmem c hc)
  have hlen : 4 ≤ (Hex.ofNat3 id ++ Hex.ofBytes bytes).length := by
    have := List.length_pos_iff.mpr hne
    simp only [List.length_append, Hex.ofNat3_length, Hex.ofBytes_length]
    omega
  have hshape : ¬ ((Hex.ofNat3 id ++ Hex.ofBytes bytes).length < 4
      ∨ isHex (Hex.ofNat3 id ++ Hex.ofBytes bytes) = false) := by
    intro h0
    rcases h0 with h0 | h0
    · omega
    · exact Bool.noConfusion (h0.symm.trans hhex)
  have hprompt : ¬ (Hex.ofNat3 id ++ Hex.ofBytes bytes = []
      ∨ Hex.ofNat3 id ++ Hex.ofBytes bytes = ['>']) := by
    intro h0
    rcases h0 with h0 | h0
    · rw [h0] at hlen
      simp at hlen
    · rw [h0] at hlen
      simp at hlen
  unfold lineFrame
  rw [cleanLine_frame h]
  dsimp only
  rw [if_neg hprompt, no_status_of_hex hmem, if_neg Bool.false_ne_true, if_neg hshape,
    List.take_left' (Hex.ofNat3_length id), List.drop_left' (Hex.ofNat3_length id),
    fromHex_ofBytes, Hex.toNat_ofNat3 hid]
  exact if_neg hne

/-- **A line that shows no frame is skipped.** -/
theorem lineFrame_noise {text : Str} (h : Line.noise.Shows text) : lineFrame text = none := by
  unfold lineFrame
  rcases h with h | ⟨c, hc, hsp, hno⟩
  · have : cleanLine text = [] := by rw [cleanLine, strip_eq_nil h]; rfl
    rw [this]
    rfl
  · -- the offending character survives the cleaning, so the digits test fails
    have hmem : c.toUpper ∈ cleanLine text := by
      refine mem_upper (List.mem_filter.mpr ⟨mem_strip_of_not_space hc (by simp [hsp]), ?_⟩)
      simp only [ne_eq, decide_eq_true_eq]
      rintro rfl
      exact Bool.noConfusion (hsp.symm.trans rfl)
    have hhex : isHex (cleanLine text) = false := by
      rw [Bool.eq_false_iff]
      intro ht
      exact hno (of_decide_eq_true (List.all_eq_true.mp ht _ hmem))
    dsimp only
    split
    · rfl
    · split
      · rfl
      · rw [if_pos (Or.inr hhex)]

theorem filterMap_lineFrame {lines : List Line} {texts : List Str}
    (h : List.Forall₂ Line.Shows lines texts)
    (hok : ∀ x ∈ lines.filterMap Line.toFrame, x.1 < 4096 ∧ x.2 ≠ []) :
    texts.filterMap lineFrame = lines.filterMap Line.toFrame := by
  induction h with
  | nil => rfl
  | @cons line text lines texts hshow _ ih =>
    cases line with
    | noise =>
        rw [List.filterMap_cons_none (lineFrame_noise hshow)]
        exact ih hok
    | frame id bytes =>
        have hthis := hok (id, bytes) (List.mem_cons_self ..)
        rw [List.filterMap_cons_some (lineFrame_frame hshow hthis.1 hthis.2),
          ih (fun x hx => hok x (List.mem_cons_of_mem _ hx))]
        rfl

theorem splitLines_of_joined {texts : List Str} {raw : Str}
    (h : Lines.Joined lineEnd texts raw) : splitLines raw = texts := by
  rw [splitLines, replaceChar, Lines.splitOn_replace]
  exact Lines.splitOnP_of_joined h

/-! ## Blocks -/

/-- `raw` shows the lines, each ended by a carriage return or a line feed. -/
def Prints (lines : List Line) (raw : Str) : Prop :=
  ∃ texts, List.Forall₂ Line.Shows lines texts ∧ Lines.Joined lineEnd texts raw

/-- The parser finds exactly the frames of the lines. -/
theorem frames_of_prints {lines : List Line} {raw : Str} (h : Prints lines raw)
    (hok : ∀ x ∈ lines.filterMap Line.toFrame, x.1 < 4096 ∧ x.2 ≠ []) :
    (splitLines raw).filterMap lineFrame = lines.filterMap Line.toFrame := by
  obtain ⟨texts, hshow, hjoin⟩ := h
  rw [splitLines_of_joined hjoin]
  exact filterMap_lineFrame hshow hok

/-- One ECU's answer: its eleven-bit id, the message, and the padding of its last frame. -/
structure EcuMessage where
  id : Nat
  message : Bytes
  filler : Bytes
  id_lt : id < 0x800
  message_ne : message ≠ []
  message_le : message.length ≤ 4095

def EcuMessage.response (m : EcuMessage) : EcuResponse := ⟨m.id, m.message⟩

def EcuMessage.frames (m : EcuMessage) : List Bytes := segment m.filler m.message

/-- `raw` is an adapter's answer in which exactly `msgs` are sent, line by line as in `lines`. -/
structure AdapterBlock (msgs : List EcuMessage) (lines : List Line) (raw : Str) : Prop where
  distinct : (msgs.map EcuMessage.id).Nodup
  /-- Every ECU's frames appear in their own order, and completely. -/
  own : ∀ m ∈ msgs, Demux.valuesOf m.id (lines.filterMap Line.toFrame) = m.frames
  senders : ∀ x ∈ lines.filterMap Line.toFrame, x.1 ∈ msgs.map EcuMessage.id
  shown : Prints lines raw

/-- Keys that all belong to some elements of a list are the keys of a list of such elements. -/
theorem exists_of_keys {msgs : List EcuMessage} :
    ∀ ids : List Nat, (∀ i ∈ ids, i ∈ msgs.map EcuMessage.id) →
      ∃ order : List EcuMessage, order.map EcuMessage.id = ids ∧ ∀ m ∈ order, m ∈ msgs
  | [], _ => ⟨[], rfl, by simp⟩
  | i :: ids, h => by
      obtain ⟨order, hmap, hsub⟩ := exists_of_keys ids (fun j hj => h j (List.mem_cons_of_mem _ hj))
      obtain ⟨m, hm, rfl⟩ := List.mem_map.mp (h i (List.mem_cons_self ..))
      refine ⟨m :: order, by rw [List.map_cons, hmap], ?_⟩
      intro x hx
      rcases List.mem_cons.mp hx with rfl | hx
      · exact hm
      · exact hsub x hx

namespace AdapterBlock

variable {msgs : List EcuMessage} {lines : List Line} {raw : Str}

theorem frame_ok (h : AdapterBlock msgs lines raw) :
    ∀ x ∈ lines.filterMap Line.toFrame, x.1 < 4096 ∧ x.2 ≠ [] := by
  intro x hx
  obtain ⟨m, hm, hid⟩ := List.mem_map.mp (h.senders x hx)
  have hown : x.2 ∈ m.frames := by
    rw [← h.own m hm]
    exact List.mem_map_of_mem (List.mem_filter.mpr ⟨hx, by simp [hid]⟩)
  exact ⟨hid ▸ Nat.lt_trans m.id_lt (by omega), ne_nil_of_mem_segment hown⟩

theorem heard (h : AdapterBlock msgs lines raw) {m : EcuMessage} (hm : m ∈ msgs) :
    m.id ∈ (lines.filterMap Line.toFrame).map (·.1) := by
  by_contra hno
  have hnil := h.own m hm
  rw [Demux.valuesOf_eq_nil hno] at hnil
  exact segment_ne_nil _ _ hnil.symm

/-- The ECUs in order of first appearance: all of them, once each. -/
theorem exists_order (h : AdapterBlock msgs lines raw) :
    ∃ order : List EcuMessage, order.Perm msgs
      ∧ order.map EcuMessage.id = Demux.firstSeen (lines.filterMap Line.toFrame) := by
  obtain ⟨order, hmap, hsub⟩ := @exists_of_keys msgs
    (Demux.firstSeen (lines.filterMap Line.toFrame)) (fun i hi => by
      obtain ⟨x, hx, rfl⟩ := List.mem_map.mp (Demux.mem_firstSeen.mp hi)
      exact h.senders x hx)
  have hord : order.Nodup := by
    refine List.Nodup.of_map EcuMessage.id ?_
    rw [hmap]
    exact Demux.firstSeen_nodup _
  -- two lists without repetition, with the same elements
  refine ⟨order, (List.perm_ext_iff_of_nodup hord h.distinct.of_map).mpr ?_, hmap⟩
  intro m
  refine ⟨hsub m, ?_⟩
  intro hm
  have hid : m.id ∈ order.map EcuMessage.id := by
    rw [hmap]
    exact Demux.mem_firstSeen.mpr (h.heard hm)
  obtain ⟨m', hm', hid'⟩ := List.mem_map.mp hid
  have : m' = m := List.inj_on_of_nodup_map h.distinct (hsub m' hm') hm hid'
  exact this ▸ hm'

end AdapterBlock

/-- One response per source, when every source's frames are a message. -/
theorem gatherResponses_messages {d : Demux Nat Bytes} {order : List EcuMessage}
    (h : ∀ m ∈ order, d.groups.lookup m.id = some m.frames) :
    gatherResponses d (order.map EcuMessage.id) = .ok (order.map EcuMessage.response) := by
  induction order with
  | nil => rfl
  | cons m order ih =>
    have hre : reassembleIsotp m.frames = .ok m.message :=
      reassembleIsotp_segment m.filler m.message_le
    have hmore := ih (fun x hx => h x (List.mem_cons_of_mem _ hx))
    rw [List.map_cons, gatherResponses, h m (List.mem_cons_self ..)]
    simp only [bind, Except.bind, hre, hmore, if_neg m.message_ne]
    rfl

/--
**The parser reads every adapter block back**: one response per ECU, in order of
first appearance, each holding exactly the message its ECU sent.
-/
theorem parseElmResponse_block {msgs : List EcuMessage} {lines : List Line} {raw : Str}
    (h : AdapterBlock msgs lines raw) :
    ∃ order : List EcuMessage, order.Perm msgs
      ∧ order.map EcuMessage.id = Demux.firstSeen (lines.filterMap Line.toFrame)
      ∧ parseElmResponse raw = .ok (order.map EcuMessage.response) := by
  obtain ⟨order, hperm, hmap⟩ := h.exists_order
  refine ⟨order, hperm, hmap, ?_⟩
  rw [parseElmResponse, frames_of_prints h.shown h.frame_ok, Demux.collect_order, ← hmap]
  refine gatherResponses_messages ?_
  intro m hm
  have hm' := hperm.mem_iff.mp hm
  rw [Demux.collect_lookup, if_pos (h.heard hm'), h.own m hm']

theorem engine_lt : 0x7E8 < 0x800 := by decide

/-- A message of eight bytes, in two frames. -/
def longAnswer : EcuMessage :=
  ⟨0x7E8, [0x49, 0x02, 0x01, 0x31, 0x48, 0x47, 0x43, 0x4D], [0xAA], engine_lt, by decide,
    by decide⟩

def shortAnswer : EcuMessage := ⟨0x7E9, [0x43, 0x00], [], by decide, by decide, by decide⟩

/-- The two of them interleaved, with noise. -/
def sampleLines : List Line :=
  [.noise, .frame 0x7E8 [0x10, 0x08, 0x49, 0x02, 0x01, 0x31, 0x48, 0x47],
    .frame 0x7E9 [0x02, 0x43, 0x00], .noise, .frame 0x7E8 [0x21, 0x43, 0x4D, 0xAA], .noise]

def sampleFirst : Str := "7E81008490201314847".toList

def sampleText : Str :=
  "SEARCHING...".toList ++ '\r' :: (sampleFirst ++ '\r' :: ("7e9024300".toList ++ '\r' ::
    ([] ++ '\n' :: ("7E821434DAA".toList ++ '\r' :: ['>']))))

theorem sample_block : AdapterBlock [longAnswer, shortAnswer] sampleLines sampleText where
  distinct := by decide
  own := by
    have hlong : longAnswer.frames
        = [[0x10, 0x08, 0x49, 0x02, 0x01, 0x31, 0x48, 0x47], [0x21, 0x43, 0x4D, 0xAA]] := by
      simp [longAnswer, EcuMessage.frames, IsoTp.segment, firstFrame, consecutiveFrames,
        sequenceByte]
    have hshort : shortAnswer.frames = [[0x02, 0x43, 0x00]] := by
      simp [shortAnswer, EcuMessage.frames, IsoTp.segment, singleFrame]
    intro m hm
    simp only [List.mem_cons, List.not_mem_nil, or_false] at hm
    rcases hm with rfl | rfl
    · rw [hlong]; decide
    · rw [hshort]; decide
  senders := by decide
  shown := by
    refine ⟨["SEARCHING...".toList, sampleFirst, "7e9024300".toList, [], "7E821434DAA".toList,
      ['>']], ?_, ?_⟩
    · refine .cons (Or.inr ⟨'S', by decide, by decide, by decide⟩) (.cons ?_ (.cons ?_
        (.cons (Or.inl (by simp)) (.cons ?_ (.cons (Or.inr ⟨'>', by decide, by decide,
          by decide⟩) .nil)))))
      all_goals
        show upper _ = _
        decide
    · exact .line (by decide) rfl (.line (by decide) rfl (.line (by decide) rfl
        (.line (by decide) rfl (.line (by decide) rfl (.ending (by decide))))))

/-- The round trip on a text with two ECUs, noise, padding and both letter cases. -/
theorem parseElmResponse_sample :
    ∃ order : List EcuMessage, order.Perm [longAnswer, shortAnswer]
      ∧ order.map EcuMessage.id = Demux.firstSeen (sampleLines.filterMap Line.toFrame)
      ∧ parseElmResponse sampleText = .ok (order.map EcuMessage.response) :=
  parseElmResponse_block sample_block

end AutoDiag.Proof
