import AutoDiag.Lib.Word
import Mathlib.Data.Int.Bitwise

/-!
# Integers and the words they wrap to

`Int64.ofInt` and `UInt32.ofInt` cut an integer to a word. Sums, products and
bitwise operations commute with the cut, so an expression of words is the cut of
the same expression of integers, however large those get. A remainder does not:
it needs its operands in range.
-/

namespace AutoDiag.Wrap

/-! ## Bitwise operations -/

/-- Reducing to a word and exclusive or commute, also for negative numbers. -/
theorem bitVec_ofInt_xor (w : Nat) (a b : Int) :
    BitVec.ofInt w (Int.xor a b) = BitVec.ofInt w a ^^^ BitVec.ofInt w b := by
  -- an integer is a number or the complement of one; the complements cancel or are left over
  have hnot : ∀ x y : BitVec w, ~~~(x ^^^ y) = x ^^^ ~~~y ∧ ~~~(x ^^^ y) = ~~~x ^^^ y
      ∧ x ^^^ y = ~~~x ^^^ ~~~y := by
    intro x y
    refine ⟨?_, ?_, ?_⟩ <;> ext i hi <;> simp
  have hpos : ∀ m n : Nat, BitVec.ofInt w ((m ^^^ n : Nat) : Int)
      = BitVec.ofNat w m ^^^ BitVec.ofNat w n := by
    intro m n
    rw [BitVec.ofInt_natCast, BitVec.ofNat_xor]
  have hneg : ∀ m n : Nat, BitVec.ofInt w (Int.negSucc (m ^^^ n))
      = ~~~(BitVec.ofNat w m ^^^ BitVec.ofNat w n) := by
    intro m n
    rw [BitVec.ofInt_negSucc_eq_not_ofNat, BitVec.ofNat_xor]
  cases a with
  | ofNat m =>
    rw [Int.ofNat_eq_natCast, BitVec.ofInt_natCast]
    cases b with
    | ofNat n =>
      rw [Int.ofNat_eq_natCast, BitVec.ofInt_natCast]
      exact hpos m n
    | negSucc n =>
      rw [BitVec.ofInt_negSucc_eq_not_ofNat, ← (hnot _ _).1]
      exact hneg m n
  | negSucc m =>
    rw [BitVec.ofInt_negSucc_eq_not_ofNat]
    cases b with
    | ofNat n =>
      rw [Int.ofNat_eq_natCast, BitVec.ofInt_natCast, ← (hnot _ _).2.1]
      exact hneg m n
    | negSucc n =>
      rw [BitVec.ofInt_negSucc_eq_not_ofNat, ← (hnot _ _).2.2]
      exact hpos m n

theorem ofInt_xor (a b : Int) : Int64.ofInt (Int.xor a b) = Int64.ofInt a ^^^ Int64.ofInt b :=
  congrArg Int64.ofBitVec (bitVec_ofInt_xor 64 a b)

theorem ofNat_xor (m n : Nat) : Int64.ofNat (m ^^^ n) = Int64.ofNat m ^^^ Int64.ofNat n :=
  congrArg Int64.ofBitVec BitVec.ofNat_xor

theorem ofNat_or (m n : Nat) : Int64.ofNat (m ||| n) = Int64.ofNat m ||| Int64.ofNat n :=
  congrArg Int64.ofBitVec BitVec.ofNat_or

theorem ofNat_and (m n : Nat) : Int64.ofNat (m &&& n) = Int64.ofNat m &&& Int64.ofNat n :=
  congrArg Int64.ofBitVec BitVec.ofNat_and

/-! ## Between the sizes -/

/-- Two reductions, to 64 and then to 32 bits, are the one to 32. -/
theorem toUInt32_ofNat (n : Nat) : (Int64.ofNat n).toUInt64.toUInt32 = UInt32.ofNat n := by
  rw [← UInt32.toNat_inj]
  simp

/-- Reducing a number before it is made a word changes nothing. -/
theorem ofNat_emod (z : Int) : Int64.ofNat (z % 2 ^ 64).toNat = Int64.ofInt z := by
  rw [← Int64.toBitVec_inj, ← BitVec.toNat_inj]
  simp [BitVec.toNat_ofInt]
  omega

/-- **The last word of a long is the last word of the integer it was cut from.** -/
theorem toUInt32_ofInt (z : Int) : (Int64.ofInt z).toUInt64.toUInt32 = UInt32.ofInt z := by
  rw [← ofNat_emod, toUInt32_ofNat, ← UInt32.toNat_inj]
  simp [UInt32.ofInt]
  omega

theorem ofInt_toNat (w : UInt32) : Int64.ofInt (w.toNat : Int) = w.toUInt64.toInt64 := by
  rw [Int64.ofInt_eq_ofNat, ← UInt64.toInt64_ofNat', ← UInt32.toNat_toUInt64,
    UInt64.ofNat_toNat]

theorem ofNat_toNat (w : UInt32) : Int64.ofNat w.toNat = w.toUInt64.toInt64 := by
  rw [← Int64.ofInt_eq_ofNat, ofInt_toNat]

/-- The mask of 32 bits is the remainder by `2 ^ 32`. -/
theorem ofInt_and_mask (z : Int) :
    Int64.ofInt z &&& 0xFFFFFFFF = Int64.ofInt (z % 0x100000000) := by
  rw [← Int64.toBitVec_inj, ← BitVec.toNat_inj]
  simp only [Int64.toBitVec_and, Int64.toBitVec_ofInt, BitVec.toNat_and, BitVec.toNat_ofInt]
  rw [show (Int64.toBitVec 0xFFFFFFFF).toNat = 2 ^ 32 - 1 from rfl,
    Nat.and_two_pow_sub_one_eq_mod]
  omega

end AutoDiag.Wrap
