import Mathlib.Logic.Equiv.Defs
import Mathlib.Logic.Function.Iterate

/-!
# Words of 32 bits

A word as four bytes, most significant first, and the rotation of a word by one
place as a shift followed by putting back the bit that was shifted out.
-/

namespace AutoDiag.Word

/-! ## Bytes of a word -/

/-- The four bytes of a word, most significant first. -/
def toBytes (c : UInt32) : List UInt8 :=
  [(c >>> 24).toUInt8, (c >>> 16).toUInt8, (c >>> 8).toUInt8, c.toUInt8]

/-- The word of four bytes. -/
def ofBytes (b0 b1 b2 b3 : UInt8) : UInt32 :=
  (b0.toUInt32 <<< 24) ||| (b1.toUInt32 <<< 16) ||| (b2.toUInt32 <<< 8) ||| b3.toUInt32

/-- Every bit of a word is in one of its bytes. -/
theorem bytes_bits (b : BitVec 32) :
    (((b >>> 24).setWidth 8).setWidth 32 <<< 24) ||| (((b >>> 16).setWidth 8).setWidth 32 <<< 16)
      ||| (((b >>> 8).setWidth 8).setWidth 32 <<< 8) ||| ((b.setWidth 8).setWidth 32) = b := by
  ext i hi
  simp only [BitVec.getElem_or, BitVec.getElem_shiftLeft, BitVec.getElem_setWidth,
    BitVec.getLsbD_setWidth, BitVec.getLsbD_ushiftRight]
  rw [← BitVec.getLsbD_eq_getElem hi]
  -- by the byte the bit is in
  rcases (by omega : i < 8 ∨ (8 ≤ i ∧ i < 16) ∨ (16 ≤ i ∧ i < 24) ∨ 24 ≤ i) with h | h | h | h
  · have h1 : i < 16 := by omega
    have h2 : i < 24 := by omega
    simp [h, h1, h2]
  · have h0 : ¬ i < 8 := by omega
    have h1 : i < 24 := by omega
    have h2 : i - 8 < 8 := by omega
    simp [h0, h.2, h1, h2, Nat.add_sub_of_le h.1]
  · have h0 : ¬ i < 8 := by omega
    have h1 : ¬ i < 16 := by omega
    have h2 : i - 16 < 8 := by omega
    have h3 : ¬ i - 8 < 8 := by omega
    simp [h0, h1, h.2, h2, h3, Nat.add_sub_of_le h.1]
  · have h0 : ¬ i < 8 := by omega
    have h1 : ¬ i < 16 := by omega
    have h2 : ¬ i < 24 := by omega
    have h3 : i - 24 < 8 := by omega
    have h4 : ¬ i - 16 < 8 := by omega
    have h5 : ¬ i - 8 < 8 := by omega
    simp [h0, h1, h2, h3, h4, h5, Nat.add_sub_of_le h]

/-- **A word is the word of its bytes.** -/
theorem ofBytes_toBytes (c : UInt32) :
    ofBytes (c >>> 24).toUInt8 (c >>> 16).toUInt8 (c >>> 8).toUInt8 c.toUInt8 = c := by
  rw [← UInt32.toBitVec_inj]
  exact bytes_bits c.toBitVec

/-! ## Rotation by one place -/

def topBit (x : UInt32) : Bool := x.toBitVec.msb

def lowBit (x : UInt32) : Bool := x.toBitVec[0]

def rotateLeft1 (x : UInt32) : UInt32 := ⟨x.toBitVec.rotateLeft 1⟩

def rotateRight1 (x : UInt32) : UInt32 := ⟨x.toBitVec.rotateRight 1⟩

theorem topBit_eq_twoPow : (0x80000000#32 : BitVec 32) = BitVec.twoPow 32 31 := by decide

theorem and_topBit (x : UInt32) :
    x &&& 0x80000000 = if topBit x then 0x80000000 else 0 := by
  have h : ∀ b : BitVec 32, b &&& 0x80000000#32 = if b.msb then 0x80000000#32 else 0#32 := by
    intro b
    rw [topBit_eq_twoPow, BitVec.and_twoPow, BitVec.msb_eq_getLsbD_last]
  rw [← UInt32.toBitVec_inj]
  unfold topBit
  rw [show (x &&& 0x80000000).toBitVec = x.toBitVec &&& 0x80000000#32 from rfl, h]
  split <;> rfl

theorem and_lowBit (x : UInt32) : x &&& 1 = if lowBit x then 1 else 0 := by
  have h : ∀ b : BitVec 32, b &&& 1#32 = if b[0] then 1#32 else 0#32 := by
    intro b
    rw [show (1#32 : BitVec 32) = BitVec.twoPow 32 0 by decide, BitVec.and_twoPow]
    rfl
  rw [← UInt32.toBitVec_inj]
  unfold lowBit
  rw [show (x &&& 1).toBitVec = x.toBitVec &&& 1#32 from rfl, h]
  split <;> rfl

/-- **Shifting left and putting the top bit back is a rotation.** -/
theorem shiftLeft_topBit (x : UInt32) :
    (if topBit x then x <<< 1 ||| 1 else x <<< 1) = rotateLeft1 x := by
  have h : ∀ b : BitVec 32, (if b.msb then b <<< 1 ||| 1#32 else b <<< 1) = b.rotateLeft 1 := by
    intro b
    ext i hi
    cases i with
    | zero =>
        cases hm : b.msb <;> simp_all [BitVec.getElem_rotateLeft, BitVec.msb_eq_getLsbD_last]
    | succ i => cases hm : b.msb <;> simp_all [BitVec.getElem_rotateLeft]
  rw [← UInt32.toBitVec_inj]
  refine Eq.trans ?_ (h x.toBitVec)
  unfold topBit
  split <;> rfl

/-- **Shifting right and putting the lowest bit back is a rotation.** -/
theorem shiftRight_lowBit (x : UInt32) :
    (if lowBit x then x >>> 1 ||| 0x80000000 else x >>> 1) = rotateRight1 x := by
  have h : ∀ b : BitVec 32,
      (if b[0] then b >>> 1 ||| 0x80000000#32 else b >>> 1) = b.rotateRight 1 := by
    intro b
    rw [topBit_eq_twoPow]
    ext i hi
    rw [BitVec.getElem_rotateRight]
    by_cases h : i = 31
    · subst h
      cases hm : b[0] <;> simp [hm]
    · have hlt : i < 32 - 1 % 32 := by omega
      rw [dif_pos hlt]
      cases hm : b[0] <;> simp [h, Nat.add_comm] <;> exact BitVec.getLsbD_eq_getElem (by omega)
  rw [← UInt32.toBitVec_inj]
  refine Eq.trans ?_ (h x.toBitVec)
  unfold lowBit
  split <;> rfl

/-! ## Rotations undo each other -/

theorem rotateRight_rotateLeft (b : BitVec 32) (r : Nat) : (b.rotateLeft r).rotateRight r = b := by
  ext i hi
  rw [BitVec.getElem_rotateRight]
  split
  · rw [BitVec.getElem_rotateLeft, dif_neg (by omega)]
    congr 1
    omega
  · rw [BitVec.getElem_rotateLeft, dif_pos (by omega)]
    congr 1
    omega

theorem rotateLeft_rotateRight (b : BitVec 32) (r : Nat) : (b.rotateRight r).rotateLeft r = b := by
  ext i hi
  rw [BitVec.getElem_rotateLeft]
  split
  · rw [BitVec.getElem_rotateRight, dif_neg (by omega)]
    congr 1
    omega
  · rw [BitVec.getElem_rotateRight, dif_pos (by omega)]
    congr 1
    omega

/-- A rotation, with the one that undoes it. -/
def rotation (r : Nat) : Equiv.Perm UInt32 where
  toFun x := ⟨x.toBitVec.rotateLeft r⟩
  invFun x := ⟨x.toBitVec.rotateRight r⟩
  left_inv x := UInt32.toBitVec_inj.mp (rotateRight_rotateLeft x.toBitVec r)
  right_inv x := UInt32.toBitVec_inj.mp (rotateLeft_rotateRight x.toBitVec r)

/-! ## Rotations one place at a time -/

theorem rotateLeft_zero (b : BitVec 32) : b.rotateLeft 0 = b := by
  ext i hi
  rw [BitVec.getElem_rotateLeft, dif_neg (by omega)]
  congr 1

/-- Rotations add up, also beyond the width. -/
theorem rotateLeft_rotateLeft (b : BitVec 32) (m n : Nat) :
    (b.rotateLeft m).rotateLeft n = b.rotateLeft (m + n) := by
  ext i hi
  simp only [BitVec.getElem_rotateLeft]
  -- by the side of each of the three seams the bit is on
  split <;> split <;> split <;> (congr 1; omega)

/-- **One place at a time is a rotation by the number of turns.** -/
theorem rotateLeft1_iterate (n : Nat) (x : UInt32) : rotateLeft1^[n] x = rotation n x := by
  induction n with
  | zero => exact UInt32.toBitVec_inj.mp (rotateLeft_zero x.toBitVec).symm
  | succ n ih =>
    rw [Function.iterate_succ_apply', ih]
    exact UInt32.toBitVec_inj.mp (rotateLeft_rotateLeft x.toBitVec n 1)

theorem rotateRight1_iterate (n : Nat) (x : UInt32) :
    rotateRight1^[n] x = (rotation n).symm x := by
  have hone : Function.LeftInverse rotateLeft1 rotateRight1 := (rotation 1).right_inv
  rw [Equiv.eq_symm_apply, ← rotateLeft1_iterate]
  exact hone.iterate n x

end AutoDiag.Word
