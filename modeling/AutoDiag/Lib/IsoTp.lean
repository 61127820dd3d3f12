import Mathlib.Data.List.Basic
import Mathlib.Tactic.IntervalCases

/-!
# ISO 15765-2 segmentation

How a sender cuts a message into CAN frames. A message of at most seven bytes
travels in a **single frame** `0L data`. A longer one starts with a **first
frame** `1LLL` carrying the twelve-bit length and six bytes, and goes on in
**consecutive frames** `2N` of seven bytes each, `N` counting modulo sixteen from
one. The last frame may be padded to its full size with any filler.

The receiver's side rests on two facts: the high nibble of a frame's first byte
tells the three kinds apart, and the data of the consecutive frames, in order,
is the message after its first six bytes.
-/

namespace AutoDiag.IsoTp

/-- The only frame of a short message. -/
def singleFrame (message : List UInt8) : List UInt8 :=
  UInt8.ofNat message.length :: message

/-- The first of several frames. -/
def firstFrame (message : List UInt8) : List UInt8 :=
  UInt8.ofNat (0x10 + message.length / 256) :: UInt8.ofNat (message.length % 256)
    :: message.take 6

/-- The first byte of a consecutive frame. -/
def sequenceByte (sn : Nat) : UInt8 := UInt8.ofNat (0x20 + sn % 16)

/-- The consecutive frames for the rest of a message, the next one numbered `sn`. -/
def consecutiveFrames (filler : List UInt8) (sn : Nat) : List UInt8 → List (List UInt8)
  | [] => []
  | b :: rest =>
    if rest.length < 7 then [sequenceByte sn :: (b :: rest) ++ filler]
    else (sequenceByte sn :: (b :: rest).take 7)
      :: consecutiveFrames filler (sn + 1) ((b :: rest).drop 7)
termination_by data => data.length
decreasing_by
  rw [List.length_drop, List.length_cons]
  omega

/-- All frames of a message, the last one padded with `filler`. -/
def segment (filler message : List UInt8) : List (List UInt8) :=
  if message.length ≤ 7 then [singleFrame message ++ filler]
  else firstFrame message :: consecutiveFrames filler 1 (message.drop 6)

/-! ## The three kinds of frame -/

@[simp] theorem sequenceByte_kind (sn : Nat) : sequenceByte sn >>> 4 = 0x2 := by
  have h : sn % 16 < 16 := Nat.mod_lt _ (by omega)
  unfold sequenceByte
  interval_cases sn % 16 <;> rfl

theorem single_kind {n : Nat} (h : n ≤ 7) : UInt8.ofNat n >>> 4 = 0x0 := by
  interval_cases n <;> rfl

/-- The low nibble of a single frame is its length. -/
theorem single_length {n : Nat} (h : n ≤ 7) : (UInt8.ofNat n &&& 0x0F).toNat = n := by
  interval_cases n <;> rfl

theorem first_kind {n : Nat} (h : n ≤ 4095) : UInt8.ofNat (0x10 + n / 256) >>> 4 = 0x1 := by
  have hk : n / 256 ≤ 15 := by omega
  interval_cases n / 256 <;> rfl

/-- The twelve-bit length is read back from the first two bytes. -/
theorem first_length {n : Nat} (h : n ≤ 4095) :
    ((UInt8.ofNat (0x10 + n / 256) &&& 0x0F).toNat <<< 8) ||| (UInt8.ofNat (n % 256)).toNat
      = n := by
  have hk : n / 256 ≤ 15 := by omega
  have hnib : (UInt8.ofNat (0x10 + n / 256) &&& 0x0F).toNat = n / 256 := by
    interval_cases n / 256 <;> rfl
  have hlow : (UInt8.ofNat (n % 256)).toNat = n % 256 := by
    simp
  -- the two parts do not overlap, so joining them is adding them
  rw [hnib, hlow, ← Nat.shiftLeft_add_eq_or_of_lt (by omega : n % 256 < 2 ^ 8),
    Nat.shiftLeft_eq]
  omega

/-! ## What the frames carry -/

/-- Every consecutive frame begins with a sequence byte. -/
theorem mem_consecutiveFrames {filler f : List UInt8} :
    ∀ {sn : Nat} {data : List UInt8}, f ∈ consecutiveFrames filler sn data →
      ∃ n tail, f = sequenceByte n :: tail := by
  intro sn data
  induction sn, data using consecutiveFrames.induct with
  | case1 sn => intro h; simp [consecutiveFrames] at h
  | case2 sn b rest hlt =>
      intro h
      rw [consecutiveFrames, if_pos hlt, List.mem_singleton] at h
      exact ⟨sn, _, h⟩
  | case3 sn b rest hge ih =>
      intro h
      rw [consecutiveFrames, if_neg hge] at h
      rcases List.mem_cons.mp h with h | h
      · exact ⟨sn, _, h⟩
      · exact ih h

/-- **The consecutive frames carry the data, in order, and then only filler.** -/
theorem consecutiveFrames_data (filler : List UInt8) :
    ∀ (sn : Nat) (data : List UInt8), ∃ pad,
      (consecutiveFrames filler sn data).flatMap (List.drop 1) = data ++ pad := by
  intro sn data
  induction sn, data using consecutiveFrames.induct with
  | case1 sn => exact ⟨[], by simp [consecutiveFrames]⟩
  | case2 sn b rest hlt =>
      exact ⟨filler, by rw [consecutiveFrames, if_pos hlt]; simp⟩
  | case3 sn b rest hge ih =>
      obtain ⟨pad, hpad⟩ := ih
      refine ⟨pad, ?_⟩
      rw [consecutiveFrames, if_neg hge, List.flatMap_cons, hpad]
      show (b :: rest).take 7 ++ ((b :: rest).drop 7 ++ pad) = _
      rw [← List.append_assoc, List.take_append_drop]

theorem segment_ne_nil (filler message : List UInt8) : segment filler message ≠ [] := by
  unfold segment
  split <;> simp

/-- No frame is empty. -/
theorem ne_nil_of_mem_segment {filler message f : List UInt8} (h : f ∈ segment filler message) :
    f ≠ [] := by
  unfold segment at h
  split at h
  · simp only [List.mem_singleton] at h
    subst h
    simp [singleFrame]
  · rcases List.mem_cons.mp h with h | h
    · subst h; simp [firstFrame]
    · obtain ⟨n, tail, rfl⟩ := mem_consecutiveFrames h
      simp

end AutoDiag.IsoTp
