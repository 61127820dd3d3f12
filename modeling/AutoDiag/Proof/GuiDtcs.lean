import AutoDiag.Obd.DtcLookup
import AutoDiag.Proof.AdapterBlock
import AutoDiag.Protocol.Obd2

/-!
# Two readings of the same trouble codes

The graphical interface looks for lines that start with `43`. With headers on no
line does: each starts with its sender's id, and the interface, which drops
carriage returns instead of splitting at them, sees several lines as one at most.
So it finds no code in any answer, and it agrees with the core exactly when
there is none to find.
-/

namespace AutoDiag.Proof

open Py Elm327 IsoTp

/-! ## The core finds the reported codes -/

/-- The message reports a stored code: among its counted pairs one is not zero. -/
def ReportsCode (message : Bytes) : Prop :=
  ∃ count body, message = 0x43 :: count :: body
    ∧ ∃ i < count.toNat, ∃ hi lo, body[2 * i]? = some hi ∧ body[2 * i + 1]? = some lo
      ∧ ¬ (hi = 0 ∧ lo = 0)

theorem decodeDtc_hi : ∀ n : Fin 256,
    Dtc.category (((UInt8.ofFin n) &&& 0xC0) >>> 6).toNat = 'P' →
    Hex.digit (((UInt8.ofFin n) &&& 0x30) >>> 4).toNat = '0' →
    Hex.digit ((UInt8.ofFin n) &&& 0x0F).toNat = '0' → UInt8.ofFin n = 0 := by
  decide +kernel

/-- Only two zero bytes make the code of no trouble. -/
theorem decodeDtc_eq_none (hi lo : UInt8) :
    Dtc.decodeDtc hi lo = Dtc.none ↔ hi = 0 ∧ lo = 0 := by
  constructor
  · intro h
    simp only [Dtc.decodeDtc, Dtc.none, Hex.ofByte, List.cons.injEq, and_true] at h
    obtain ⟨hcat, hfirst, hsecond, hthird, hfourth⟩ := h
    -- the high byte is in the first three characters, the low byte in the last two
    refine ⟨decodeDtc_hi hi.toFin hcat hfirst hsecond, ?_⟩
    have hb := lo.toNat_lt
    have h3 : lo.toNat / 16 = 0 := Hex.digit_injective (by omega) (by omega) hthird
    have h4 : lo.toNat % 16 = 0 := Hex.digit_injective (by omega) (by omega) hfourth
    exact UInt8.toNat_inj.mp (by show lo.toNat = 0; omega)
  · rintro ⟨rfl, rfl⟩
    decide

/-- No pair within the usable bytes is a code. -/
def NoPair (usable : Nat) (body : Bytes) : Prop :=
  ∀ i hi lo, 2 * i + 1 < usable → body[2 * i]? = some hi → body[2 * i + 1]? = some lo →
    hi = 0 ∧ lo = 0

/-- The pair in front, and the pairs behind it. -/
theorem noPair_cons (usable : Nat) (hi lo : UInt8) (body : Bytes) :
    NoPair (usable + 2) (hi :: lo :: body) ↔ (hi = 0 ∧ lo = 0) ∧ NoPair usable body := by
  constructor
  · intro h
    refine ⟨h 0 hi lo (by omega) rfl rfl, ?_⟩
    intro i hi' lo' hlt h0 h1
    exact h (i + 1) hi' lo' (by omega) (by simpa [Nat.mul_add] using h0)
      (by simpa [Nat.mul_add] using h1)
  · rintro ⟨hzero, hrest⟩ i hi' lo' hlt h0 h1
    cases i with
    | zero =>
        simp only [Nat.mul_zero, List.getElem?_cons_zero, Option.some.injEq, Nat.zero_add,
          List.getElem?_cons_succ] at h0 h1
        rw [← h0, ← h1]
        exact hzero
    | succ i =>
        exact hrest i hi' lo' (by omega) (by simpa [Nat.mul_add] using h0)
          (by simpa [Nat.mul_add] using h1)

/-- By the recursion over the pairs: nothing is left exactly where all are zero. -/
theorem decodePairs_eq_nil_iff : ∀ (usable : Nat) (body : Bytes),
    Obd2.decodePairs usable body = [] ↔ NoPair usable body := by
  intro usable body
  induction usable, body using Obd2.decodePairs.induct with
  | case1 usable hi lo body code hne ih =>
      rw [Obd2.decodePairs, if_pos hne, noPair_cons]
      refine iff_of_false (by simp) (fun h => hne ((decodeDtc_eq_none hi lo).mpr h.1))
  | case2 usable hi lo body code hne ih =>
      rw [Obd2.decodePairs, if_neg hne, noPair_cons, ih]
      exact ⟨fun h => ⟨(decodeDtc_eq_none hi lo).mp (not_not.mp hne), h⟩, And.right⟩
  | case3 usable body h =>
      -- fewer than two usable bytes, or fewer than two in the body
      have hnil : Obd2.decodePairs usable body = [] := by
        unfold Obd2.decodePairs
        split
        · rename_i usable' hi lo body'
          exact (h usable' hi lo body' rfl rfl).elim
        · rfl
      refine iff_of_true hnil ?_
      intro i hi lo hlt h0 h1
      match usable, body, h with
      | 0, _, _ => omega
      | 1, _, _ => omega
      | _ + 2, [], _ => simp at h0
      | _ + 2, [_], _ => simp at h1
      | _ + 2, _ :: _ :: _, h => exact (h _ _ _ _ rfl rfl).elim

/-- What the core reads out of one ECU's message. -/
def codesOf (message : Bytes) : List Str :=
  if message[0]? = some 0x43 then Obd2.parseDtcPayload message else []

/-- **The core finds no code in a message exactly when the message reports none.** -/
theorem codesOf_eq_nil_iff (message : Bytes) : codesOf message = [] ↔ ¬ ReportsCode message := by
  unfold codesOf ReportsCode
  split
  · rename_i hpos
    match message with
    | [] => simp at hpos
    | [b] => exact iff_of_true rfl (by simp)
    | b :: count :: body =>
        simp only [List.getElem?_cons_zero, Option.some.injEq] at hpos
        subst hpos
        rw [Obd2.parseDtcPayload, decodePairs_eq_nil_iff]
        constructor
        · intro h hreports
          obtain ⟨count', body', heq, i, hi_lt, hi, lo, h0, h1, hne⟩ := hreports
          obtain ⟨rfl, rfl⟩ : count = count' ∧ body = body' := by simpa using heq
          have hlen := (List.getElem?_eq_some_iff.mp h1).1
          exact hne (h i hi lo (by omega) h0 h1)
        · intro h i hi lo hlt h0 h1
          by_contra hne
          exact h ⟨count, body, rfl, i, by omega, hi, lo, h0, h1, hne⟩
  · rename_i hpos
    refine iff_of_true rfl ?_
    intro hreports
    obtain ⟨count, body, rfl, _⟩ := hreports
    exact hpos rfl

/-! ## The interface finds no line to read -/

/-- A line the interface would read, or one that could become the start of such a line. -/
def Scraped (text : Str) : Prop := ['4', '3'] <+: text ∨ text = ['4']

/-- Text without a line end goes to the front of the first line. -/
theorem splitOn_join {l : Str} (hl : ∀ c ∈ l, c ≠ '\n') (s : Str) :
    (l ++ s).splitOn '\n' = (s.splitOn '\n').modifyHead (l ++ ·) := by
  induction l with
  | nil => exact (congrFun List.modifyHead_id _).symm
  | cons c l ih =>
    have hc : c ≠ '\n' := hl c (List.mem_cons_self ..)
    rw [List.cons_append, List.splitOn_eq_splitOnP, List.splitOnP_cons_eq_if_modifyHead,
      if_neg (by simpa using hc), ← List.splitOn_eq_splitOnP,
      ih (fun x hx => hl x (List.mem_cons_of_mem _ hx)), List.modifyHead_modifyHead]
    rfl

/-- What the interface makes of the text after one line of the adapter. -/
theorem textLines_line {l : Str} (hl : ∀ c ∈ l, lineEnd c = false) (s : Str) :
    DtcLookup.textLines (l ++ s) = (DtcLookup.textLines s).modifyHead (l ++ ·) := by
  have hcr : '\r' ∉ l := fun h => absurd (hl _ h) (by decide)
  have hlf : ∀ c ∈ l, c ≠ '\n' := by
    rintro c hc rfl
    exact absurd (hl _ hc) (by decide)
  unfold DtcLookup.textLines
  rw [show remove '\r' (l ++ s) = remove '\r' l ++ remove '\r' s from List.filter_append ..,
    remove_eq_self hcr, splitOn_join hlf]

theorem textLines_cr (s : Str) : DtcLookup.textLines ('\r' :: s) = DtcLookup.textLines s := rfl

theorem textLines_lf (s : Str) : DtcLookup.textLines ('\n' :: s) = [] :: DtcLookup.textLines s := by
  unfold DtcLookup.textLines
  rw [show remove '\r' ('\n' :: s) = '\n' :: remove '\r' s from rfl, List.splitOn_eq_splitOnP,
    List.splitOnP_cons_eq_if_modifyHead]
  rfl

theorem not_prefix_join {l ln : Str} (hl : ¬ Scraped l) (hln : ¬ ['4', '3'] <+: ln) :
    ¬ ['4', '3'] <+: l ++ ln := by
  match l with
  | [] => exact hln
  | [c] =>
      rintro ⟨more, hmore⟩
      simp only [List.cons_append, List.nil_append, List.cons.injEq] at hmore
      exact hl (Or.inr (by rw [← hmore.1]))
  | c :: d :: l =>
      rintro ⟨more, hmore⟩
      simp only [List.cons_append, List.nil_append, List.cons.injEq] at hmore
      exact hl (Or.inl ⟨l, by rw [← hmore.1, ← hmore.2.1]; rfl⟩)

/-- Nor does a first line that runs on into it become one to read. -/
theorem unread_modifyHead {l : Str} {lns : List Str} (hl : ¬ Scraped l)
    (h : ∀ ln ∈ lns, ¬ ['4', '3'] <+: ln) :
    ∀ ln ∈ lns.modifyHead (l ++ ·), ¬ ['4', '3'] <+: ln := by
  cases lns with
  | nil => exact h
  | cons ln lns =>
    intro x hx
    rw [List.modifyHead_cons] at hx
    rcases List.mem_cons.mp hx with rfl | hx
    · exact not_prefix_join hl (h ln (List.mem_cons_self ..))
    · exact h x (List.mem_cons_of_mem _ hx)

/-- A line end adds an empty line at the most, which is not read. -/
theorem unread_sep {sep : Char} {text : Str} (hsep : lineEnd sep)
    (h : ∀ ln ∈ DtcLookup.textLines text, ¬ ['4', '3'] <+: ln) :
    ∀ ln ∈ DtcLookup.textLines (sep :: text), ¬ ['4', '3'] <+: ln := by
  simp only [lineEnd, Bool.or_eq_true, decide_eq_true_eq] at hsep
  rcases hsep with rfl | rfl
  · -- a dropped carriage return: the lines are those of the text behind it
    rw [textLines_cr]
    exact h
  · rw [textLines_lf]
    intro x hx
    rcases List.mem_cons.mp hx with rfl | hx
    · simp
    · exact h x hx

/-- **No line of the interface starts with `43` when no line of the adapter does.** -/
theorem not_scraped_textLines {texts : List Str} {raw : Str}
    (h : Lines.Joined lineEnd texts raw) (hno : ∀ t ∈ texts, ¬ Scraped t) :
    ∀ ln ∈ DtcLookup.textLines raw, ¬ ['4', '3'] <+: ln := by
  induction h with
  | @last l hl =>
    have hempty : ∀ ln ∈ DtcLookup.textLines [], ¬ ['4', '3'] <+: ln := by decide
    have hunread := unread_modifyHead (hno l (List.mem_cons_self ..)) hempty
    rw [← textLines_line hl, List.append_nil] at hunread
    exact hunread
  | @cons l sep ls text hl hsep _ ih =>
    rw [textLines_line hl]
    refine unread_modifyHead (hno l (List.mem_cons_self ..)) (unread_sep hsep ?_)
    exact ih (fun t ht => hno t (List.mem_cons_of_mem _ ht))

theorem parseDtcs_of_no_line {db : Str → Option String} {raw : Str}
    (h : ∀ ln ∈ DtcLookup.textLines raw, ¬ ['4', '3'] <+: ln) :
    DtcLookup.parseDtcs db raw = .ok [] := by
  have hnone : (DtcLookup.textLines raw).filter (fun ln => ['4', '3'].isPrefixOf ln) = [] :=
    List.filter_eq_nil_iff.mpr (fun ln hln hp => h ln hln (List.isPrefixOf_iff_prefix.mp hp))
  unfold DtcLookup.parseDtcs
  rw [hnone]
  rfl

/-! ## Agreement -/

/-- An adapter's answer to a mode 03 request, with the ECUs' messages. -/
structure Mode03Answer (msgs : List EcuMessage) (lines : List Line) (raw : Str) : Prop
    extends AdapterBlock msgs lines raw where
  /-- No ECU answers from an id `43x`: the ids of OBD responders are `7E8` to `7EF`. -/
  responders : ∀ m ∈ msgs, m.id / 16 ≠ 0x43
  /-- No status text starts with `43`. -/
  status : ∀ l ∈ splitLines raw, ['4', '3'] <+: l → (lineFrame l).isSome

namespace Mode03Answer

variable {msgs : List EcuMessage} {lines : List Line} {raw : Str}

theorem upper_prefix {t : Str} (h : ['4', '3'] <+: t) : ['4', '3'] <+: upper t := by
  obtain ⟨more, rfl⟩ := h
  exact ⟨upper more, rfl⟩

/-- A frame begins with the id of its sender, and no such id begins with `43`. -/
theorem not_scraped_frame {id : Nat} {bytes : Bytes} {t : Str} (h : (Line.frame id bytes).Shows t)
    (hid : id < 0x800) (hne : id / 16 ≠ 0x43) : ¬ Scraped t := by
  intro hs
  rcases hs with hp | rfl
  · obtain ⟨more, hmore⟩ := upper_prefix hp
    rw [show upper t = _ from h, Hex.ofNat3] at hmore
    simp only [List.cons_append, List.nil_append, List.cons.injEq] at hmore
    have h4 : 4 = id / 256 % 16 := Hex.digit_injective (by omega) (by omega) hmore.1
    have h3 : 3 = id / 16 % 16 := Hex.digit_injective (by omega) (by omega) hmore.2.1
    omega
  · have hlen := congrArg List.length (show upper ['4'] = _ from h)
    simp only [List.length_append, Hex.ofNat3_length] at hlen
    simp [upper] at hlen
    omega

theorem exists_shown {lines : List Line} {texts : List Str}
    (h : List.Forall₂ Line.Shows lines texts) {t : Str} (ht : t ∈ texts) :
    ∃ line ∈ lines, line.Shows t := by
  induction h with
  | nil => simp at ht
  | @cons line text lines texts hshow _ ih =>
      rcases List.mem_cons.mp ht with rfl | ht
      · exact ⟨line, List.mem_cons_self .., hshow⟩
      · obtain ⟨line', hmem, hshow'⟩ := ih ht
        exact ⟨line', List.mem_cons_of_mem _ hmem, hshow'⟩

theorem not_scraped (h : Mode03Answer msgs lines raw) :
    ∀ ln ∈ DtcLookup.textLines raw, ¬ ['4', '3'] <+: ln := by
  obtain ⟨texts, hshow, hjoin⟩ := h.shown
  refine not_scraped_textLines hjoin ?_
  intro t ht
  have hstatus := h.status t (by rw [splitLines_of_joined hjoin]; exact ht)
  obtain ⟨line, hline, hshows⟩ := exists_shown hshow ht
  cases line with
  | frame id bytes =>
      have hframe : (id, bytes) ∈ lines.filterMap Line.toFrame :=
        List.mem_filterMap.mpr ⟨_, hline, rfl⟩
      obtain ⟨m, hm, rfl⟩ := List.mem_map.mp (h.senders _ hframe)
      exact not_scraped_frame hshows m.id_lt (h.responders m hm)
  | noise =>
      intro hs
      rcases hs with hp | rfl
      · have hread := hstatus hp
        rw [lineFrame_noise hshows] at hread
        exact absurd hread (by simp)
      · rcases hshows with hblank | ⟨c, hc, _, hno⟩
        · exact absurd (hblank '4' (List.mem_singleton.mpr rfl)) (by decide)
        · rw [List.mem_singleton.mp hc] at hno
          exact hno (by decide)

end Mode03Answer

/-- The core's reading of a text: the adapter's parser below `read_dtcs`. -/
def coreDtcs (raw : Str) : Except Exn (List Str) :=
  let transport : Transport Unit :=
    ⟨fun _ _ => Call.ofExcept (parseElmResponse raw), Call.ofExcept (parseElmResponse raw)⟩
  (Obd2.readDtcs transport ()).1

/-- What the core makes of the messages that its parser gives it. -/
theorem coreDtcs_of_parse {raw : Str} {order : List EcuMessage}
    (h : parseElmResponse raw = .ok (order.map EcuMessage.response)) :
    coreDtcs raw = .ok (order.flatMap fun m => codesOf m.message) := by
  have hpos : (Obd2.positive (order.map EcuMessage.response) 0x03 none).flatMap
      Obd2.parseDtcPayload = order.flatMap fun m => codesOf m.message := by
    clear h
    induction order with
    | nil => rfl
    | cons m order ih =>
      rw [List.flatMap_cons, ← ih, codesOf, Obd2.positive, Obd2.positive]
      simp only [List.map_cons, EcuMessage.response, Bool.and_true]
      by_cases hm : m.message[0]? = some 0x43
      · rw [if_pos hm, List.filter_cons_of_pos (by simpa using hm), List.flatMap_cons]
      · rw [if_neg hm, List.filter_cons_of_neg (by simpa using hm)]
        rfl
  unfold coreDtcs Obd2.readDtcs Obd2.readDtcsOf
  rw [h, ← hpos]
  rfl

/--
**The interface agrees with the core exactly when no ECU reports a stored code.**
Any code that is reported is one the interface does not show.
-/
theorem parseDtcs_agrees_iff (db : Str → Option String) {msgs : List EcuMessage}
    {lines : List Line} {raw : Str} (h : Mode03Answer msgs lines raw) :
    (DtcLookup.parseDtcs db raw).map (List.map DtcLookup.Entry.code) = coreDtcs raw
      ↔ ∀ m ∈ msgs, ¬ ReportsCode m.message := by
  obtain ⟨order, hperm, _, hparse⟩ := parseElmResponse_block h.toAdapterBlock
  rw [parseDtcs_of_no_line h.not_scraped, coreDtcs_of_parse hparse]
  have hcodes : (order.flatMap fun m => codesOf m.message) = []
      ↔ ∀ m ∈ msgs, ¬ ReportsCode m.message := by
    rw [List.flatMap_eq_nil_iff]
    constructor
    · intro hall m hm
      exact (codesOf_eq_nil_iff m.message).mp (hall m (hperm.mem_iff.mpr hm))
    · intro hall m hm
      exact (codesOf_eq_nil_iff m.message).mpr (hall m (hperm.mem_iff.mp hm))
  rw [← hcodes]
  constructor
  · intro heq
    exact (Except.ok.inj heq).symm
  · intro heq
    rw [heq]
    rfl

/-- An engine with the codes P0301 and P0420 stored. -/
def faultyEngine : EcuMessage :=
  ⟨0x7E8, [0x43, 0x02, 0x03, 0x01, 0x04, 0x20], [], engine_lt, by decide, by decide⟩

def faultyText : Str := "7E806430203010420".toList ++ '\r' :: ([] ++ '\r' :: ['>'])

theorem faulty_answer : Mode03Answer [faultyEngine]
    [.frame 0x7E8 [0x06, 0x43, 0x02, 0x03, 0x01, 0x04, 0x20], .noise, .noise] faultyText where
  distinct := by decide
  own := by
    intro m hm
    rw [List.mem_singleton.mp hm]
    have hframes : faultyEngine.frames = [[0x06, 0x43, 0x02, 0x03, 0x01, 0x04, 0x20]] := by
      simp [faultyEngine, EcuMessage.frames, IsoTp.segment, singleFrame]
    rw [hframes]
    decide
  senders := by decide
  shown := by
    refine ⟨["7E806430203010420".toList, [], ['>']], .cons ?_ (.cons (Or.inl (by simp))
      (.cons (Or.inr ⟨'>', by decide, by decide, by decide⟩) .nil)), ?_⟩
    · show upper _ = _
      decide
    · exact .line (by decide) rfl (.line (by decide) rfl (.ending (by decide)))
  responders := by decide
  status := by decide

/-- Where the engine reports two codes, the interface and the core differ. -/
theorem parseDtcs_agrees_iff_faulty :
    (DtcLookup.parseDtcs (fun _ => none) faultyText).map (List.map DtcLookup.Entry.code)
      ≠ coreDtcs faultyText := by
  intro hsame
  have hnone := (parseDtcs_agrees_iff (fun _ => none) faulty_answer).mp hsame _ List.mem_cons_self
  exact hnone ⟨0x02, [0x03, 0x01, 0x04, 0x20], rfl, 0, by decide, 0x03, 0x01, rfl, rfl, by decide⟩

/-- **The interface shows no fault of an engine that reports two.** -/
theorem parseDtcs_misses_codes :
    ¬ ∀ (db : Str → Option String) (msgs : List EcuMessage) (lines : List Line) (raw : Str),
      Mode03Answer msgs lines raw →
      (DtcLookup.parseDtcs db raw).map (List.map DtcLookup.Entry.code) = coreDtcs raw := by
  intro h
  have hsame := h (fun _ => none) _ _ _ faulty_answer
  revert hsame
  decide +kernel

end AutoDiag.Proof
