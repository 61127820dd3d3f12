import AutoDiag.Lib.Raise
import AutoDiag.Transport.Elm327

/-!
# Texts the adapter's parser cannot read

Every line is filtered, and every index into a frame but one is guarded: a first
frame is asked for its second byte without a look at its length. So the parser
raises on exactly the texts in which a source's first frame is a first frame cut
off after one byte (`parseElmResponse_total_iff`). On all others each response has
data, and a source of three hex digits.
-/

namespace AutoDiag.Proof

open Elm327 Raise

/-- A source begins with a frame of one byte, and that byte says more is to come. -/
def CutShort (raw : Str) : Prop :=
  ∃ (front back : List (Nat × Bytes)) (src : Nat) (b : UInt8),
    (splitLines raw).filterMap lineFrame = front ++ (src, [b]) :: back ∧
    src ∉ front.map (·.1) ∧ b >>> 4 = 0x1

/-- The parser returns, and what it returns is well formed. -/
def ParsesWell (raw : Str) : Prop :=
  ∃ rs, parseElmResponse raw = .ok rs ∧ ∀ r ∈ rs, r.data ≠ [] ∧ r.source < 0x1000

/-- A frame that a line carries has a source of three digits, and data. -/
theorem lineFrame_some {line : Str} {frame : Nat × Bytes} (h : lineFrame line = some frame) :
    frame.1 < 0x1000 ∧ frame.2 ≠ [] := by
  unfold lineFrame at h
  dsimp only at h
  split at h
  · cases h
  split at h
  · cases h
  split at h
  · cases h
  rename_i hlen
  split at h
  · cases h
  split at h
  · cases h
  rename_i hne
  obtain rfl := Option.some.inj h
  refine ⟨?_, hne⟩
  have hlt := Hex.toNat_lt ((cleanLine line).take 3)
  have hthree : ((cleanLine line).take 3).length = 3 := by
    rw [List.length_take]
    omega
  rw [hthree] at hlt
  exact hlt

/-- Reassembly indexes past the end of a lone first-frame byte, and of nothing else. -/
theorem returns_reassembleIsotp {first : Bytes} (rest : List Bytes) (hne : first ≠ []) :
    Returns (reassembleIsotp (first :: rest)) ↔ ∀ b, first = [b] → b >>> 4 ≠ 0x1 := by
  match first with
  | [b] =>
    have hbyte : (∀ b', [b] = [b'] → b' >>> 4 ≠ 0x1) ↔ b >>> 4 ≠ 0x1 := by simp
    rw [hbyte, reassembleIsotp, Py.index_zero_cons, ok_bind]
    dsimp only
    split
    · rename_i hkind
      exact iff_of_true (returns_pure _) (by rw [hkind]; decide)
    · split
      · rename_i hkind
        exact iff_of_false (not_returns_error _) (not_not.mpr hkind)
      · rename_i hkind
        exact iff_of_true (returns_pure _) hkind
  | b :: b' :: tail =>
    refine iff_of_true ?_ (by simp)
    rw [reassembleIsotp, Py.index_zero_cons, ok_bind]
    dsimp only
    split
    · exact returns_pure _
    · split
      · exact returns_pure _
      · exact returns_pure _

/-- One step of the second loop: it goes on exactly if the source's frames can be put together. -/
theorem returns_gather_cons {d : Demux Nat Bytes} {src : Nat} {frames : List Bytes}
    (h : d.groups.lookup src = some frames) (order : List Nat) :
    Returns (gatherResponses d (src :: order)) ↔
      Returns (reassembleIsotp frames) ∧ Returns (gatherResponses d order) := by
  rw [gatherResponses, h]
  constructor
  · rintro ⟨rs, hrs⟩
    obtain ⟨_, hframes, hrs⟩ := bind_ok hrs
    cases hframes
    obtain ⟨data, hdata, hrs⟩ := bind_ok hrs
    obtain ⟨more, hmore, _⟩ := bind_ok hrs
    exact ⟨⟨data, hdata⟩, more, hmore⟩
  · rintro ⟨⟨data, hdata⟩, more, hmore⟩
    exact returns_bind (returns_ok frames) fun _ hf => by
      cases hf
      exact returns_bind ⟨data, hdata⟩ fun _ _ => returns_bind ⟨more, hmore⟩ fun _ _ =>
        returns_pure _

theorem returns_gather {d : Demux Nat Bytes} {groups : Nat → List Bytes} {order : List Nat}
    (h : ∀ src ∈ order, d.groups.lookup src = some (groups src)) :
    Returns (gatherResponses d order) ↔ ∀ src ∈ order, Returns (reassembleIsotp (groups src)) := by
  induction order with
  | nil => exact iff_of_true ⟨[], rfl⟩ (by simp)
  | cons src order ih =>
    rw [returns_gather_cons (h src (List.mem_cons_self ..)),
      ih fun s hs => h s (List.mem_cons_of_mem _ hs)]
    simp only [List.forall_mem_cons]

/-- Responses without data are left out, and the sources are those of the frames. -/
theorem gather_wellFormed {d : Demux Nat Bytes} {order : List Nat}
    (h : ∀ src ∈ order, src < 0x1000) :
    Yields (fun rs => ∀ r ∈ rs, r.data ≠ [] ∧ r.source < 0x1000) (gatherResponses d order) := by
  induction order with
  | nil => exact yields_ok (by simp)
  | cons src order ih =>
    have hrest : Yields (fun rs => ∀ r ∈ rs, r.data ≠ [] ∧ r.source < 0x1000)
        (gatherResponses d order) := ih fun s hs => h s (List.mem_cons_of_mem _ hs)
    rw [gatherResponses]
    split
    · refine yields_bind fun _ => yields_bind fun data => yields_bind_of hrest fun more hmore => ?_
      refine yields_pure ?_
      split
      · exact hmore
      · rename_i hdata
        exact List.forall_mem_cons.mpr ⟨⟨hdata, h src (List.mem_cons_self ..)⟩, hmore⟩
    · exact yields_error _

/-! ## A whole text -/

/-- The frames that the lines of a text carry, with their senders. -/
def textFrames (raw : Str) : List (Nat × Bytes) := (splitLines raw).filterMap lineFrame

theorem textFrames_some {raw : Str} {x : Nat × Bytes} (h : x ∈ textFrames raw) :
    x.1 < 0x1000 ∧ x.2 ≠ [] := by
  obtain ⟨line, _, hline⟩ := List.mem_filterMap.mp h
  exact lineFrame_some hline

/-- The parser returns if every source's frames can be put together. -/
theorem returns_parse (raw : Str) : Returns (parseElmResponse raw) ↔
    ∀ src ∈ Demux.firstSeen (textFrames raw),
      Returns (reassembleIsotp (Demux.valuesOf src (textFrames raw))) := by
  change Returns (gatherResponses (Demux.collect (textFrames raw))
    (Demux.collect (textFrames raw)).order) ↔ _
  rw [Demux.collect_order]
  refine returns_gather fun src hsrc => ?_
  rw [Demux.collect_lookup, if_pos (Demux.mem_firstSeen.mp hsrc)]

/-- What the parser returns is well formed. -/
theorem parsesWell_iff (raw : Str) : ParsesWell raw ↔ Returns (parseElmResponse raw) := by
  constructor
  · rintro ⟨rs, hrs, _⟩
    exact ⟨rs, hrs⟩
  · rintro ⟨rs, hrs⟩
    have horder : ∀ src ∈ (Demux.collect (textFrames raw)).order, src < 0x1000 := by
      intro src hsrc
      rw [Demux.collect_order, Demux.mem_firstSeen] at hsrc
      obtain ⟨x, hx, rfl⟩ := List.mem_map.mp hsrc
      exact (textFrames_some hx).1
    exact ⟨rs, hrs, gather_wellFormed horder rs hrs⟩

/-- A text is cut short at a source whose frames cannot be put together. -/
theorem cutShort_iff (raw : Str) : CutShort raw ↔ ∃ src ∈ Demux.firstSeen (textFrames raw),
    ¬ Returns (reassembleIsotp (Demux.valuesOf src (textFrames raw))) := by
  constructor
  · rintro ⟨front, back, src, b, hxs, hfront, hkind⟩
    have hframes : textFrames raw = front ++ (src, [b]) :: back := hxs
    refine ⟨src, by rw [Demux.mem_firstSeen, hframes]; simp, ?_⟩
    rw [hframes, Demux.valuesOf_first _ hfront,
      returns_reassembleIsotp _ (List.cons_ne_nil b [])]
    exact fun hall => hall b rfl hkind
  · rintro ⟨src, hsrc, hraises⟩
    cases hv : Demux.valuesOf src (textFrames raw) with
    | nil =>
      rw [hv] at hraises
      exact absurd (returns_ok []) hraises
    | cons first rest =>
      -- the source's first frame, at its place among all frames
      obtain ⟨front, back, hframes, hfront⟩ := Demux.valuesOf_eq_cons hv
      have hmem : (src, first) ∈ textFrames raw := by
        rw [hframes]
        simp
      rw [hv, returns_reassembleIsotp rest (textFrames_some hmem).2] at hraises
      simp only [not_forall, not_not] at hraises
      obtain ⟨b, rfl, hkind⟩ := hraises
      exact ⟨front, back, src, b, hframes, hfront, hkind⟩

/-- **The parser is total exactly on the texts in which no source begins with a cut-off first
frame.** -/
theorem parseElmResponse_total_iff (raw : Str) : ParsesWell raw ↔ ¬ CutShort raw := by
  rw [parsesWell_iff, returns_parse, cutShort_iff]
  simp only [not_exists, not_and, not_not]

/-- A clone that stops printing after the length nibble. -/
def stubLine : Str := ['7', 'E', '8', '1', '0', '\r', '\r', '>']

theorem stubLine_raises : ¬ ParsesWell stubLine := by
  rintro ⟨rs, hrs, _⟩
  have herror : parseElmResponse stubLine = .error (.indexError "index out of range") := by
    decide
  rw [herror] at hrs
  cases hrs

end AutoDiag.Proof
