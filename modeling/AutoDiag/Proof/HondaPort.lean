import AutoDiag.CSharp.ShortProviders
import AutoDiag.Proof.Words
import AutoDiag.Security.ShortProviders

/-!
# How far the port of `HondaAlgo1` agrees

Both multiply the seed by a word of the parameter and, unless the modulus is zero,
take the remainder. The original's product is an `int`: from 2^31 on it is
negative, and so is its remainder. Only the last sixteen bits of what follows are
kept, so `hondaAlgo1_iff` asks when the two remainders agree in those.
-/

namespace AutoDiag.Proof

open Security

/-- The last two bytes of an `int`. -/
def lowWord (x : Int32) : Nat := x.toBitVec.toNat % 0x10000

theorem joinBytes_lt (hi lo : UInt8) : Security.joinBytes hi lo < 0x10000 := by
  have h : (hi.toNat <<< 8 ||| lo.toNat) < 2 ^ 16 :=
    Nat.or_lt_two_pow (by have := hi.toNat_lt; rw [Nat.shiftLeft_eq]; omega)
      (by have := lo.toNat_lt; omega)
  exact h

theorem joinBytes_toNat (hi lo : UInt8) :
    (CSharp.joinBytes hi lo).toNat = Security.joinBytes hi lo := by
  have hword : (CSharp.intOfByte hi <<< 8 ||| CSharp.intOfByte lo).toUInt32
      = hi.toUInt32 <<< 8 ||| lo.toUInt32 := rfl
  have hhi : hi.toNat <<< 8 % 2 ^ 32 = hi.toNat <<< 8 :=
    Nat.mod_eq_of_lt (by have := hi.toNat_lt; rw [Nat.shiftLeft_eq]; omega)
  rw [CSharp.joinBytes, CSharp.ushortOfInt, hword, UInt32.toNat_toUInt16, UInt32.toNat_or,
    UInt32.toNat_shiftLeft, UInt8.toNat_toUInt32, UInt8.toNat_toUInt32]
  exact (congrArg (fun x => (x ||| lo.toNat) % 2 ^ 16) hhi).trans
    (Nat.mod_eq_of_lt (joinBytes_lt hi lo))

theorem intOfUshort_toInt (x : UInt16) : (CSharp.intOfUshort x).toInt = x.toNat := by
  have hlt := x.toNat_lt
  rw [CSharp.intOfUshort, ← Int32.toInt_toBitVec, BitVec.toInt_eq_toNat_bmod]
  simp [Int.bmod]
  omega

theorem lowWord_xor (x y : Int32) : lowWord (x ^^^ y) = lowWord x ^^^ lowWord y := by
  simp only [lowWord, Int32.toBitVec_xor, BitVec.toNat_xor]
  exact Nat.xor_mod_two_pow (n := 16)

theorem lowWord_toInt (x : Int32) : (lowWord x : Int) = x.toInt % 0x10000 := by
  rw [← Int32.toInt_toBitVec, lowWord, BitVec.toInt_eq_toNat_bmod, Int.bmod]
  split <;> omega

/-- The two bytes that are stored are those of the last sixteen bits. -/
theorem byteOfInt_lowWord (x : Int32) :
    [CSharp.byteOfInt ((x &&& 0xFFFF) >>> 8), CSharp.byteOfInt (x &&& 0xFFFF)]
      = twoBytes (lowWord x) := by
  have hlt : lowWord x < 0x10000 := Nat.mod_lt _ (by decide)
  have hmask : (x &&& 0xFFFF).toBitVec = BitVec.ofNat 32 (lowWord x) := by
    rw [← BitVec.toNat_inj, Int32.toBitVec_and, BitVec.toNat_and, BitVec.toNat_ofNat]
    exact (Nat.and_two_pow_sub_one_eq_mod _ 16).trans
      (Nat.mod_eq_of_lt (by omega : lowWord x < 2 ^ 32)).symm
  have hmsb : (BitVec.ofNat 32 (lowWord x)).msb = false := by
    rw [BitVec.msb_eq_false_iff_two_mul_lt, BitVec.toNat_ofNat]
    omega
  have hshift : ((x &&& 0xFFFF) >>> 8).toBitVec = BitVec.ofNat 32 (lowWord x) >>> 8 := by
    rw [Int32.toBitVec_shiftRight, hmask]
    exact BitVec.sshiftRight_eq_of_msb_false hmsb
  have hbyte : ∀ y : Int32, CSharp.byteOfInt y = UInt8.ofNat y.toBitVec.toNat := fun y => rfl
  rw [hbyte, hbyte, hshift, hmask, BitVec.toNat_ushiftRight, BitVec.toNat_ofNat,
    Nat.mod_eq_of_lt (by omega : lowWord x < 2 ^ 32)]
  rfl

theorem twoBytes_inj {a b : Nat} : twoBytes a = twoBytes b ↔ a % 0x10000 = b % 0x10000 := by
  simp [twoBytes, BitUtility.toItem, ← UInt8.toNat_inj, Nat.shiftRight_eq_div_pow]
  omega

/-! ## The two remainders -/

/-- The product that the port goes on with. -/
def reduced (p modulus : Nat) : Nat := if modulus ≠ 0 then p % modulus else p

/-- The product that the original goes on with. -/
def wrapped (s mul modulus : UInt16) : Int32 :=
  let key := CSharp.intOfUshort s * CSharp.intOfUshort mul
  if modulus ≠ 0 then key % CSharp.intOfUshort modulus else key

/-- The product fits an `int`, or nothing is divided, or the remainders of what it is and of what it
lacks to 2^32 make up sixteen bits. -/
def NoWrap (p modulus : Nat) : Prop :=
  p < 2 ^ 31 ∨ modulus = 0 ∨ p % modulus + (2 ^ 32 - p) % modulus = 0
    ∨ p % modulus + (2 ^ 32 - p) % modulus = 2 ^ 16

theorem intOfUshort_ne {modulus : UInt16} (h : modulus ≠ 0) :
    CSharp.intOfUshort modulus ≠ 0 ∧ CSharp.intOfUshort modulus ≠ -1 := by
  have hpos : 0 < modulus.toNat := Nat.pos_of_ne_zero fun h0 => h (UInt16.toNat_inj.mp h0)
  have hint := intOfUshort_toInt modulus
  refine ⟨fun h0 => ?_, fun h0 => ?_⟩
  · rw [h0] at hint
    simp at hint
    omega
  · rw [h0] at hint
    simp at hint

theorem remInt_ushort (x : Int32) {modulus : UInt16} (h : modulus ≠ 0) :
    CSharp.remInt x (CSharp.intOfUshort modulus) = .ok (x % CSharp.intOfUshort modulus) := by
  obtain ⟨hzero, hneg⟩ := intOfUshort_ne h
  rw [CSharp.remInt, if_neg hzero, if_neg fun h => hneg h.2]

theorem product_lt (s mul : UInt16) : s.toNat * mul.toNat < 2 ^ 32 := by
  have hs := s.toNat_lt
  have hmul := mul.toNat_lt
  calc s.toNat * mul.toNat ≤ 65535 * 65535 := Nat.mul_le_mul (by omega) (by omega)
    _ < 2 ^ 32 := by decide

/-- An `int` product of two `ushort`s is the product, or that less 2^32. -/
theorem product_toInt (s mul : UInt16) :
    (CSharp.intOfUshort s * CSharp.intOfUshort mul).toInt =
      if s.toNat * mul.toNat < 2 ^ 31 then ((s.toNat * mul.toNat : Nat) : Int)
      else ((s.toNat * mul.toNat : Nat) : Int) - 2 ^ 32 := by
  have hlt := product_lt s mul
  rw [Int32.toInt_mul, intOfUshort_toInt, intOfUshort_toInt, ← Int.natCast_mul]
  generalize s.toNat * mul.toNat = p at hlt
  rw [Int.bmod]
  split <;> split <;> omega

/-- A negative dividend leaves the negated remainder of its amount. -/
theorem tmod_wrapped {p : Nat} (hp : p < 2 ^ 32) (modulus : Nat) :
    ((p : Int) - 2 ^ 32).tmod modulus = -(((2 ^ 32 - p) % modulus : Nat) : Int) := by
  have hneg : (p : Int) - 2 ^ 32 = -((2 ^ 32 - p : Nat) : Int) := by omega
  rw [hneg, Int.neg_tmod, Int.tmod_eq_emod_of_nonneg (by omega), Int.natCast_emod]

/-- **The two remainders agree in their last sixteen bits exactly without a wrap that counts.** -/
theorem lowWord_wrapped_iff (s mul modulus : UInt16) :
    lowWord (wrapped s mul modulus) = reduced (s.toNat * mul.toNat) modulus.toNat % 0x10000
      ↔ NoWrap (s.toNat * mul.toNat) modulus.toNat := by
  have hp := product_lt s mul
  have hint := product_toInt s mul
  have hmod := modulus.toNat_lt
  have hlow := lowWord_toInt (wrapped s mul modulus)
  unfold wrapped at hlow ⊢
  unfold reduced NoWrap
  generalize s.toNat * mul.toNat = p at hp hint ⊢
  by_cases hzero : modulus = 0
  · -- nothing is divided, and a wrap keeps the last sixteen bits
    subst hzero
    simp only [ne_eq, not_true_eq_false, if_false] at hlow ⊢
    refine iff_of_true ?_ (Or.inr (Or.inl rfl))
    rw [hint] at hlow
    simp only [UInt16.toNat_zero, not_true_eq_false, if_false]
    split at hlow <;> omega
  · have hpos : 0 < modulus.toNat := Nat.pos_of_ne_zero fun h0 => hzero (UInt16.toNat_inj.mp h0)
    simp only [ne_eq, hzero, not_false_eq_true, if_true, Int32.toInt_mod, intOfUshort_toInt, hint]
      at hlow ⊢
    rw [if_pos (by omega : ¬ modulus.toNat = 0)]
    have hr : p % modulus.toNat < modulus.toNat := Nat.mod_lt _ hpos
    have hr' : (2 ^ 32 - p) % modulus.toNat < modulus.toNat := Nat.mod_lt _ hpos
    by_cases hfits : p < 2 ^ 31
    · -- without a wrap both sides divide the product
      rw [if_pos hfits, Int.tmod_eq_emod_of_nonneg (by omega), ← Int.natCast_emod] at hlow
      exact iff_of_true (by omega) (Or.inl hfits)
    · rw [if_neg hfits, tmod_wrapped hp] at hlow
      omega

/-! ## The two keys -/

theorem xor_left_inj {a b c : Nat} : a ^^^ c = b ^^^ c ↔ a = b := by
  constructor
  · intro h
    have := congrArg (· ^^^ c) h
    simpa [Nat.xor_assoc] using this
  · rintro rfl
    rfl

/-- The key of the port, by the words it computes with. -/
theorem hondaAlgo1_port {parameters : List Parameter} {k0 k1 k2 k3 k4 k5 : UInt8} {k : Bytes}
    (hk : paramBytes parameters "K" = .ok (k0 :: k1 :: k2 :: k3 :: k4 :: k5 :: k)) (s0 s1 : UInt8)
    (level : Int) :
    Security.HondaAlgo1.generateKey [s0, s1] 2 level parameters =
      .ok (some (twoBytes (reduced (Security.joinBytes s0 s1 * Security.joinBytes k2 k3)
        (Security.joinBytes k4 k5) ^^^ (Security.joinBytes k0 k1 + Security.joinBytes s0 s1)))) := by
  have hword : ∀ hi lo, Security.joinBytes hi lo &&& 0xFFFF = Security.joinBytes hi lo :=
    fun hi lo => (Nat.and_two_pow_sub_one_eq_mod _ 16).trans
      (Nat.mod_eq_of_lt (joinBytes_lt hi lo))
  have hlow : ∀ n, twoBytes (n &&& 0xFFFF) = twoBytes n := by
    intro n
    rw [twoBytes_inj, Nat.and_two_pow_sub_one_eq_mod n 16, Nat.mod_mod]
  unfold Security.HondaAlgo1.generateKey
  rw [if_neg (by simp), hk]
  simp only [Raise.ok_bind, Raise.pure_eq_ok, Py.index, List.getElem?_cons_zero,
    List.getElem?_cons_succ, hword, hlow]
  rfl

/-- The key of the original. -/
theorem hondaAlgo1_original {parameters : List Parameter} {k0 k1 k2 k3 k4 k5 : UInt8} {k : Bytes}
    (hk : CSharp.getParameterBytearray parameters "K"
      = .ok (k0 :: k1 :: k2 :: k3 :: k4 :: k5 :: k)) (s0 s1 o0 o1 : UInt8) (level : Int) :
    CSharp.HondaAlgo1.generateKey [s0, s1] [o0, o1] level parameters =
      .ok (some (twoBytes (lowWord (wrapped (CSharp.joinBytes s0 s1) (CSharp.joinBytes k2 k3)
        (CSharp.joinBytes k4 k5) ^^^ (CSharp.intOfUshort (CSharp.joinBytes k0 k1) +
          CSharp.intOfUshort (CSharp.joinBytes s0 s1)))))) := by
  have hstore : ∀ x y : UInt8, (do
      let outKey ← CSharp.store [o0, o1] 0 x
      let outKey ← CSharp.store outKey 1 y
      return some outKey : Except CSharp.Exception (Option Bytes)) = .ok (some [x, y]) :=
    fun _ _ => rfl
  have h0 : CSharp.item (k0 :: k1 :: k2 :: k3 :: k4 :: k5 :: k) 0 = .ok k0 := item_ofNat rfl
  have h1 : CSharp.item (k0 :: k1 :: k2 :: k3 :: k4 :: k5 :: k) 1 = .ok k1 := item_ofNat rfl
  have h2 : CSharp.item (k0 :: k1 :: k2 :: k3 :: k4 :: k5 :: k) 2 = .ok k2 := item_ofNat rfl
  have h3 : CSharp.item (k0 :: k1 :: k2 :: k3 :: k4 :: k5 :: k) 3 = .ok k3 := item_ofNat rfl
  have h4 : CSharp.item (k0 :: k1 :: k2 :: k3 :: k4 :: k5 :: k) 4 = .ok k4 := item_ofNat rfl
  have h5 : CSharp.item (k0 :: k1 :: k2 :: k3 :: k4 :: k5 :: k) 5 = .ok k5 := item_ofNat rfl
  have hs0 : CSharp.item [s0, s1] 0 = .ok s0 := item_ofNat rfl
  have hs1 : CSharp.item [s0, s1] 1 = .ok s1 := item_ofNat rfl
  rw [← byteOfInt_lowWord]
  unfold CSharp.HondaAlgo1.generateKey wrapped
  -- the values are put in one at a time, so that the kernel never compares two whole programs
  rw [if_neg (by simp), hk, Raise.ok_bind, h0, Raise.ok_bind, h1, Raise.ok_bind, h2, Raise.ok_bind,
    h3, Raise.ok_bind, h4, Raise.ok_bind, h5, Raise.ok_bind, hs0, Raise.ok_bind, hs1, Raise.ok_bind]
  by_cases hzero : CSharp.joinBytes k4 k5 = 0
  · rw [if_neg (not_not.mpr hzero), if_neg (not_not.mpr hzero)]
    exact hstore _ _
  · rw [if_pos hzero, if_pos hzero, remInt_ushort _ hzero, Raise.ok_bind]
    exact hstore _ _

/-- **The port gives the original's key exactly where no wrap counts**: for every seed of two bytes
and every parameter `K` of six bytes or more. -/
theorem hondaAlgo1_iff {parameters : List Parameter} {k0 k1 k2 k3 k4 k5 : UInt8} {k : Bytes}
    (hport : paramBytes parameters "K" = .ok (k0 :: k1 :: k2 :: k3 :: k4 :: k5 :: k))
    (horiginal : CSharp.getParameterBytearray parameters "K"
      = .ok (k0 :: k1 :: k2 :: k3 :: k4 :: k5 :: k))
    (s0 s1 o0 o1 : UInt8) (level : Int) :
    (∃ key, Security.HondaAlgo1.generateKey [s0, s1] 2 level parameters = .ok (some key) ∧
        CSharp.HondaAlgo1.generateKey [s0, s1] [o0, o1] level parameters = .ok (some key)) ↔
      NoWrap (Security.joinBytes s0 s1 * Security.joinBytes k2 k3)
        (Security.joinBytes k4 k5) := by
  rw [hondaAlgo1_port hport, hondaAlgo1_original horiginal]
  have hsum : lowWord (CSharp.intOfUshort (CSharp.joinBytes k0 k1) +
      CSharp.intOfUshort (CSharp.joinBytes s0 s1))
      = (Security.joinBytes k0 k1 + Security.joinBytes s0 s1) % 0x10000 := by
    have hlow := lowWord_toInt (CSharp.intOfUshort (CSharp.joinBytes k0 k1) +
      CSharp.intOfUshort (CSharp.joinBytes s0 s1))
    rw [Int32.toInt_add, intOfUshort_toInt, intOfUshort_toInt, joinBytes_toNat, joinBytes_toNat,
      Int.bmod] at hlow
    split at hlow <;> omega
  have hwrapped := lowWord_wrapped_iff (CSharp.joinBytes s0 s1) (CSharp.joinBytes k2 k3)
    (CSharp.joinBytes k4 k5)
  simp only [joinBytes_toNat] at hwrapped
  rw [← hwrapped]
  simp only [Except.ok.injEq, Option.some.injEq, exists_eq_left', twoBytes_inj]
  rw [Nat.mod_eq_of_lt (by exact Nat.mod_lt _ (by decide)), lowWord_xor, hsum,
    show (0x10000 : Nat) = 2 ^ 16 from rfl, Nat.xor_mod_two_pow, xor_left_inj]

/-- Nothing is xored, the seed is multiplied by 65535 and divided by 7. -/
def wrapParameters : List Parameter := [⟨"K", "0000FFFF0007", "ByteArray"⟩]

theorem hondaAlgo1_iff_small :
    ∃ key, Security.HondaAlgo1.generateKey [0x12, 0x34] 2 1 wrapParameters = .ok (some key) ∧
      CSharp.HondaAlgo1.generateKey [0x12, 0x34] [0, 0] 1 wrapParameters = .ok (some key) := by
  have hport : paramBytes wrapParameters "K" = .ok [0, 0, 0xFF, 0xFF, 0, 7] := by decide +kernel
  have horiginal :
      CSharp.getParameterBytearray wrapParameters "K" = .ok [0, 0, 0xFF, 0xFF, 0, 7] := by
    decide
  exact (hondaAlgo1_iff hport horiginal 0x12 0x34 0 0 1).mpr (Or.inl (by decide))

/-- The largest seed: here the wrap counts. -/
theorem hondaAlgo1_differs :
    ¬ ∃ key, Security.HondaAlgo1.generateKey [0xFF, 0xFF] 2 1 wrapParameters = .ok (some key) ∧
      CSharp.HondaAlgo1.generateKey [0xFF, 0xFF] [0, 0] 1 wrapParameters = .ok (some key) := by
  rw [show Security.HondaAlgo1.generateKey [0xFF, 0xFF] 2 1 wrapParameters
      = .ok (some [0xFF, 0xFE]) by decide +kernel,
    show CSharp.HondaAlgo1.generateKey [0xFF, 0xFF] [0, 0] 1 wrapParameters
      = .ok (some [0, 2]) by decide]
  simp

end AutoDiag.Proof
