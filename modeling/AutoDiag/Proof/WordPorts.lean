import AutoDiag.Lib.BitField
import AutoDiag.Proof.Words
import AutoDiag.Security.WordProviders

/-!
# The word providers are the C# originals

Python computes with integers that have no bound and cuts the result to 32 bits;
C# wraps at every step. Sums, products and bitwise operations do not notice, and
a remainder is only taken of what is already in range.
-/

namespace AutoDiag.Proof

open Raise Security BitUtility

variable {parameters : List Parameter}

/-- The last word of an integer, of the long that was computed in its place. -/
theorem ofInt_eq_uintOfLong {z : Int} {x : Int64} (h : Int64.ofInt z = x) :
    UInt32.ofInt z = CSharp.uintOfLong x := by
  rw [← Wrap.toUInt32_ofInt, h]
  rfl

/-! ## Products and sums -/

/-- Four constants that are the same numbers on both sides. -/
def SameConstants (a : Int × Int × Int × Int) (b : Int64 × Int64 × Int64 × Int64) : Prop :=
  a = (b.1.toInt, b.2.1.toInt, b.2.2.1.toInt, b.2.2.2.toInt)

/-- Two products and a sum of words: wrapping at every step or at the end is the same. -/
theorem affine_related (h : Written parameters) (key : String)
    {constants : List Parameter → Except Exn (Int × Int × Int × Int)}
    {constants' : List Parameter → Except CSharp.Exception (Int64 × Int64 × Int64 × Int64)}
    (hc : Related SameConstants (constants parameters) (constants' parameters))
    (seed outKey : Bytes) (level : Int) :
    Related Eq (affine key constants seed outKey.length level parameters)
      (CSharp.affine key constants' seed outKey level parameters) := by
  refine related_bind (paramWord_related h key .big) ?_
  rintro _ cryptoKey rfl
  refine related_bind hc ?_
  rintro _ ⟨kA, kC, kA', kC'⟩ rfl
  refine related_guard fun hseed hkey => ?_
  obtain ⟨seedA, ha, ha'⟩ := @bytesToInt_agree seed 0 (by omega) .big
  obtain ⟨seedB, hb, hb'⟩ := @bytesToInt_agree seed 4 (by omega) .big
  rw [ha', hb', show CSharp.BitUtility.bytesToInt seed .big 0 = .ok seedA from ha,
    show CSharp.BitUtility.bytesToInt seed .big 4 = .ok seedB from hb]
  refine related_key hkey (ofInt_eq_uintOfLong ?_)
  simp only [Wrap.ofInt_xor, Int64.ofInt_add, Int64.ofInt_mul, Int64.ofInt_toInt, Wrap.ofInt_toNat]
  rfl

theorem DaimlerStandardSecurityAlgo_related (h : Written parameters) (seed outKey : Bytes)
    (level : Int) :
    Related Eq (DaimlerStandardSecurityAlgo.generateKey seed outKey.length level parameters)
      (CSharp.DaimlerStandardSecurityAlgo.generateKey seed outKey level parameters) := by
  unfold DaimlerStandardSecurityAlgo.generateKey CSharp.DaimlerStandardSecurityAlgo.generateKey
  refine affine_related h "K" ?_ seed outKey level
  exact related_ok rfl

theorem DaimlerStandardSecurityAlgoMod_related (h : Written parameters) (seed outKey : Bytes)
    (level : Int) :
    Related Eq (DaimlerStandardSecurityAlgoMod.generateKey seed outKey.length level parameters)
      (CSharp.DaimlerStandardSecurityAlgoMod.generateKey seed outKey level parameters) := by
  unfold DaimlerStandardSecurityAlgoMod.generateKey
    CSharp.DaimlerStandardSecurityAlgoMod.generateKey
  refine affine_related h "K" ?_ seed outKey level
  refine related_bind (paramLong_related h.wellFormed "kA") ?_
  rintro _ kA rfl
  refine related_bind (paramLong_related h.wellFormed "kC") ?_
  rintro _ kC rfl
  exact related_pure rfl

theorem DaimlerStandardSecurityAlgoRefG_related (h : Written parameters) (seed outKey : Bytes)
    (level : Int) :
    Related Eq (DaimlerStandardSecurityAlgoRefG.generateKey seed outKey.length level parameters)
      (CSharp.DaimlerStandardSecurityAlgoRefG.generateKey seed outKey level parameters) := by
  unfold DaimlerStandardSecurityAlgoRefG.generateKey
    CSharp.DaimlerStandardSecurityAlgoRefG.generateKey
  refine affine_related h "K_refG" ?_ seed outKey level
  exact related_ok rfl

/-- A remainder of what a long holds, by a word. -/
theorem mod_related {n : Nat} (h : n < 2 ^ 63) (c : UInt32) :
    Related (fun (r : Nat) (x : Int64) => Int64.ofInt r = x)
      (Py.mod n c.toNat) (CSharp.remLong (Int64.ofInt n) (CSharp.longOfUint c)) := by
  have hc := c.toNat_lt
  have hn : (Int64.ofInt n).toInt = n := Int64.toInt_ofInt_of_le (by omega) (by omega)
  have hcl : CSharp.longOfUint c = Int64.ofInt c.toNat := (Wrap.ofInt_toNat c).symm
  have hci : (Int64.ofInt c.toNat).toInt = c.toNat := Int64.toInt_ofInt_of_le (by omega) (by omega)
  unfold Py.mod CSharp.remLong
  rw [hcl]
  -- a remainder by zero fails on both sides
  refine related_ite ?_ (fun _ => related_error _ _) fun _ => ?_
  · rw [← Int64.toInt_inj, hci]
    exact Int.natCast_eq_zero.symm
  · rw [if_neg]
    · refine related_ok ?_
      have hle := Nat.mod_le n c.toNat
      rw [← Int64.toInt_inj, Int64.toInt_mod, hn, hci, ← Int.ofNat_tmod]
      generalize n % c.toNat = r at hle
      exact Int64.toInt_ofInt_of_le (by omega) (by omega)
    · rintro ⟨hmin, -⟩
      have hmin := congrArg Int64.toInt hmin
      rw [hn] at hmin
      have hneg : Int64.minValue.toInt < 0 := by decide
      omega

/-- Python cuts the dividend to 32 bits as well, so the remainders are the same. -/
theorem EDIFF290_related (h : Written parameters) (seed outKey : Bytes) (level : Int) :
    Related Eq (EDIFF290.generateKey seed outKey.length level parameters)
      (CSharp.EDIFF290.generateKey seed outKey level parameters) := by
  refine related_bind (paramWord_related h "KeyK" .big) ?_
  rintro _ cryptoKey rfl
  refine related_bind (paramInt_related h.wellFormed "kA") ?_
  rintro _ kA rfl
  refine related_bind (paramInt_related h.wellFormed "kC") ?_
  rintro _ kC rfl
  refine related_guard fun hseed hkey => ?_
  obtain ⟨seedA, ha, ha'⟩ := @bytesToInt_agree seed 0 (by omega) .big
  rw [ha', show CSharp.BitUtility.bytesToInt seed .big 0 = .ok seedA from ha, ok_bind]
  -- both hold the two steps to 32 bits, which makes the operand of the remainder the same
  dsimp only
  have hstep : (kA.toInt64 * CSharp.longOfUint seedA &&& 0xFFFFFFFF) + kC.toInt64 &&& 0xFFFFFFFF
      = Int64.ofInt ((kA.toInt * seedA.toNat % 0x100000000 + kC.toInt) % 0x100000000) := by
    rw [CSharp.longOfUint, ← Wrap.ofInt_toNat, ← Int64.ofInt_int32ToInt, ← Int64.ofInt_int32ToInt,
      ← Int64.ofInt_mul, Wrap.ofInt_and_mask, ← Int64.ofInt_add, Wrap.ofInt_and_mask]
  rw [hstep]
  generalize (kA.toInt * seedA.toNat % 0x100000000 + kC.toInt) = i
  rw [← Int.toNat_of_nonneg (by omega : 0 ≤ i % 0x100000000), Int.toNat_natCast]
  refine related_bind (mod_related (by omega) cryptoKey) ?_
  rintro r _ rfl
  exact related_key hkey (ofInt_eq_uintOfLong rfl)

theorem DRVU_PROF_related (h : Written parameters) (seed outKey : Bytes) (level : Int) :
    Related Eq (DRVU_PROF.generateKey seed outKey.length level parameters)
      (CSharp.DRVU_PROF.generateKey seed outKey level parameters) := by
  refine related_bind (paramWord_related h "KeyConst" .big) ?_
  rintro _ cryptoKey rfl
  refine related_guard fun hseed hkey => ?_
  obtain ⟨seedA, ha, ha'⟩ := @bytesToInt_agree seed 0 (by omega) .big
  rw [ha', show CSharp.BitUtility.bytesToInt seed .big 0 = .ok seedA from ha, ok_bind]
  have hlt := seedA.toNat_lt
  have hlong : (258028488 : Int64) * CSharp.longOfUint seedA + 1583629211
      = Int64.ofInt ((258028488 * seedA.toNat + 1583629211 : Nat) : Int) := by
    rw [CSharp.longOfUint, ← Wrap.ofInt_toNat]
    push_cast
    rw [Int64.ofInt_add, Int64.ofInt_mul]
    rfl
  dsimp only
  rw [hlong]
  -- the product stays below 2 ^ 63: nothing has wrapped before the remainder is taken
  refine related_bind (mod_related (by omega) cryptoKey) ?_
  rintro r _ rfl
  exact related_key hkey (ofInt_eq_uintOfLong rfl)

/-- The last word of a number, of the long that was computed in its place. -/
theorem ofInt_masked {n : Nat} {x : Int64} (h : Int64.ofNat n = x) :
    UInt32.ofInt (n &&& u32 : Nat) = CSharp.uintOfLong x := by
  rw [← h, CSharp.uintOfLong, Wrap.toUInt32_ofNat, and_u32, ← UInt32.toNat_inj]
  simp [UInt32.ofInt]
  omega

/-- Only the seed and one constant, mixed as words. -/
theorem VGSSecurityAlgo_related (h : Written parameters) (seed outKey : Bytes) (level : Int) :
    Related Eq (VGSSecurityAlgo.generateKey seed outKey.length level parameters)
      (CSharp.VGSSecurityAlgo.generateKey seed outKey level parameters) := by
  refine related_bind (paramWord_related h "K" .big) ?_
  rintro _ cryptoKey rfl
  refine related_guard fun hseed hkey => ?_
  obtain ⟨seedVal, ha, ha'⟩ := @bytesToInt_agree seed 0 (by omega) .big
  rw [ha', show CSharp.BitUtility.bytesToInt seed .big 0 = .ok seedVal from ha]
  refine related_key hkey (ofInt_masked ?_)
  rw [Int64.ofNat_mul, Wrap.ofNat_xor, Wrap.ofNat_toNat, Wrap.ofNat_toNat]
  rfl

theorem VGSSecurityAlgoExt_related (h : Written parameters) (seed outKey : Bytes) (level : Int) :
    Related Eq (VGSSecurityAlgoExt.generateKey seed outKey.length level parameters)
      (CSharp.VGSSecurityAlgoExt.generateKey seed outKey level parameters) := by
  refine related_bind (paramWord_related h "M" .big) ?_
  rintro _ cryptoKeyMult rfl
  refine related_bind (paramWord_related h "X" .big) ?_
  rintro _ cryptoKeyXor rfl
  refine related_guard fun hseed hkey => ?_
  obtain ⟨seedVal, ha, ha'⟩ := @bytesToInt_agree seed 0 (by omega) .big
  rw [ha', show CSharp.BitUtility.bytesToInt seed .big 0 = .ok seedVal from ha]
  refine related_key hkey (ofInt_masked ?_)
  rw [Int64.ofNat_mul, Wrap.ofNat_xor, Wrap.ofNat_toNat, Wrap.ofNat_toNat, Wrap.ofNat_toNat]
  rfl

/-! ## Bitwise operations and sums -/

/-- It is enough that the two ways to finish a word are the same. -/
theorem maskXorAdd_related (h : Written parameters) (a b c : String) {finish : Nat → Nat}
    {finish' : Int64 → Int64} (hf : ∀ n, Int64.ofNat (finish n) = finish' (Int64.ofNat n))
    (seed outKey : Bytes) (level : Int) :
    Related Eq (maskXorAdd a b c finish seed outKey.length level parameters)
      (CSharp.maskXorAdd a b c finish' seed outKey level parameters) := by
  refine related_bind (paramWord_related h a .big) ?_
  rintro _ paramA rfl
  refine related_bind (paramWord_related h b .big) ?_
  rintro _ paramB rfl
  refine related_bind (paramWord_related h c .big) ?_
  rintro _ paramC rfl
  refine related_guard fun hseed hkey => ?_
  obtain ⟨seedVal, ha, ha'⟩ := @bytesToInt_agree seed 0 (by omega) .big
  rw [ha', show CSharp.BitUtility.bytesToInt seed .big 0 = .ok seedVal from ha]
  refine related_key hkey (ofInt_masked ?_)
  rw [hf, Int64.ofNat_add, Wrap.ofNat_xor, Wrap.ofNat_or, Wrap.ofNat_toNat, Wrap.ofNat_toNat,
    Wrap.ofNat_toNat, Wrap.ofNat_toNat]
  rfl

theorem RDU222_related (h : Written parameters) (seed outKey : Bytes) (level : Int) :
    Related Eq (RDU222.generateKey seed outKey.length level parameters)
      (CSharp.RDU222.generateKey seed outKey level parameters) := by
  unfold RDU222.generateKey CSharp.RDU222.generateKey
  exact maskXorAdd_related h "a" "b" "c" (fun _ => rfl) seed outKey level

theorem RVC222_MPC222_FCW246_LRR3_related (h : Written parameters)
    (seed outKey : Bytes) (level : Int) :
    Related Eq (RVC222_MPC222_FCW246_LRR3.generateKey seed outKey.length level parameters)
      (CSharp.RVC222_MPC222_FCW246_LRR3.generateKey seed outKey level parameters) := by
  unfold RVC222_MPC222_FCW246_LRR3.generateKey CSharp.RVC222_MPC222_FCW246_LRR3.generateKey
  exact maskXorAdd_related h "A" "B" "C" (fun n => Wrap.ofNat_xor n _) seed outKey level

/-- The shifts of the sums, as numbers and as `int`s. -/
theorem shift_byte : ∀ b : UInt8, CSharp.intOfByte b >>> 1 = Int32.ofNat (b.toNat >>> 1)
    ∧ CSharp.intOfByte b >>> 2 = Int32.ofNat (b.toNat >>> 2)
    ∧ CSharp.intOfByte b <<< 1 = Int32.ofNat (b.toNat <<< 1)
    ∧ CSharp.intOfByte b <<< 2 = Int32.ofNat (b.toNat <<< 2) :=
  BitField.forall_byte (by decide +kernel)

/-- The places of the four bytes in a `long`. -/
theorem shift_long : ∀ b : UInt8, Int64.ofNat b.toNat <<< 24 = Int64.ofNat (b.toNat <<< 24)
    ∧ Int64.ofNat b.toNat <<< 16 = Int64.ofNat (b.toNat <<< 16)
    ∧ Int64.ofNat b.toNat <<< 8 = Int64.ofNat (b.toNat <<< 8)
    ∧ Int64.ofNat b.toNat <<< 0 = Int64.ofNat (b.toNat <<< 0) :=
  BitField.forall_byte (by decide +kernel)

/-- The sums of `ORC166` are far from the bounds of an `int`. -/
theorem sums_related (s0 s1 s2 s3 : UInt8) :
    ∃ a b c d, a < 2 ^ 31 ∧ b < 2 ^ 31 ∧ c < 2 ^ 31 ∧ d < 2 ^ 31
      ∧ ORC166.sums s0.toNat s1.toNat s2.toNat s3.toNat = (a, b, c, d)
      ∧ CSharp.ORC166.sums (CSharp.intOfByte s0) (CSharp.intOfByte s1) (CSharp.intOfByte s2)
          (CSharp.intOfByte s3) = (Int32.ofNat a, Int32.ofNat b, Int32.ofNat c, Int32.ofNat d) := by
  have hlow : ∀ s : UInt8, s.toNat >>> 1 < 256 ∧ s.toNat >>> 2 < 256 ∧ s.toNat <<< 1 < 1024
      ∧ s.toNat <<< 2 < 1024 := by
    intro s
    have hlt := s.toNat_lt
    simp only [Nat.shiftRight_eq_div_pow, Nat.shiftLeft_eq]
    omega
  have h0 := hlow s0
  have h1 := hlow s1
  have h2 := hlow s2
  have h3 := hlow s3
  refine ⟨_, _, _, _, ?_, ?_, ?_, ?_, rfl, ?_⟩
  · omega
  · omega
  · omega
  · omega
  · simp only [CSharp.ORC166.sums, Int32.ofNat_add, shift_byte]

/-- The last byte of a sum. -/
theorem lowByte_related {n : Nat} (h : n < 2 ^ 31) :
    (Int32.ofNat n).toInt64 &&& 0xFF = Int64.ofNat (UInt8.ofNat n).toNat
      ∧ n &&& 0xFF = (UInt8.ofNat n).toNat := by
  have hmask : n &&& 0xFF = (UInt8.ofNat n).toNat := by
    rw [show (0xFF : Nat) = 2 ^ 8 - 1 from rfl, Nat.and_two_pow_sub_one_eq_mod, UInt8.toNat_ofNat']
  refine ⟨?_, hmask⟩
  rw [Int32.toInt64_ofNat' (by simp [Int32.maxValue]; omega), ← hmask, Wrap.ofNat_and]
  rfl

/-- Python checks the length of the key first, as the original does. -/
theorem ORC166_related (h : Written parameters) (seed outKey : Bytes) (level : Int) :
    Related Eq (ORC166.generateKey seed outKey.length level parameters)
      (CSharp.ORC166.generateKey seed outKey level parameters) := by
  refine related_bind (paramWord_related h "staticKey" .big) ?_
  rintro _ cryptoKey rfl
  refine related_ite (by omega) (fun _ => related_pure rfl) fun hkey => ?_
  refine related_ite Iff.rfl (fun _ => related_pure rfl) fun hseed => ?_
  obtain ⟨s0, s1, s2, s3, -, h0, h1, h2, h3⟩ := @slice_four seed 0 (by omega)
  rw [Py.index_ok_iff.mpr h0, Py.index_ok_iff.mpr h1, Py.index_ok_iff.mpr h2, Py.index_ok_iff.mpr h3,
    show CSharp.item seed 0 = .ok s0 from item_ofNat h0,
    show CSharp.item seed 1 = .ok s1 from item_ofNat h1,
    show CSharp.item seed 2 = .ok s2 from item_ofNat h2,
    show CSharp.item seed 3 = .ok s3 from item_ofNat h3]
  -- the four sums are the same numbers, and each is cut to a byte
  obtain ⟨a, b, c, d, ha, hb, hc, hd, hsums, hsums'⟩ := sums_related s0 s1 s2 s3
  simp only [ok_bind]
  rw [hsums, hsums']
  dsimp only
  rw [(lowByte_related ha).1, (lowByte_related hb).1, (lowByte_related hc).1,
    (lowByte_related hd).1, (lowByte_related ha).2, (lowByte_related hb).2, (lowByte_related hc).2,
    (lowByte_related hd).2, (shift_long _).1, (shift_long _).2.1, (shift_long _).2.2.1,
    (shift_long _).2.2.2]
  refine related_key (not_not.mp (by omega)) (ofInt_masked ?_)
  rw [Int64.ofNat_add, Int64.ofNat_add, Int64.ofNat_add, Int64.ofNat_add, Wrap.ofNat_toNat]
  rfl

/-! ## Rotations -/

/-- One turn to the right through a word, held in 64 bits. -/
theorem turn_toNat (cryptoKey : UInt32) (x : UInt64) :
    (CSharp.SWSP177.turn cryptoKey x).toNat = SWSP177.turn cryptoKey.toNat x.toNat := by
  have hor := (x >>> 1 ||| (x &&& 1) * 0x80000000).toNat_lt
  have hcarry : (x.toNat &&& 1) * 0x80000000 < 2 ^ 64 := by
    have hbit : x.toNat &&& 1 ≤ 1 := Nat.and_le_right
    omega
  have hval : (x >>> 1 ||| (x &&& 1) * 0x80000000).toNat
      = x.toNat >>> 1 ||| (x.toNat &&& 1) * 0x80000000 := by
    simp only [UInt64.toNat_or, UInt64.toNat_shiftRight, UInt64.toNat_mul, UInt64.toNat_and,
      UInt64.reduceToNat, Nat.reduceMod]
    rw [Nat.mod_eq_of_lt hcarry]
  rw [CSharp.SWSP177.turn, SWSP177.turn, UInt64.toNat_xor, hval, UInt32.toNat_toUInt64,
    show (0xFFFFFFFFFFFFFFFF : Nat) = 2 ^ 64 - 1 from rfl, Nat.and_two_pow_sub_one_eq_mod,
    Nat.mod_eq_of_lt (hval ▸ hor)]

/-- The turns one after the other. -/
theorem turns_toNat (cryptoKey : UInt32) (x : UInt64) (n : Nat) :
    ((CSharp.SWSP177.turn cryptoKey)^[n] x).toNat
      = (SWSP177.turn cryptoKey.toNat)^[n] x.toNat :=
  Function.Semiconj.iterate_right (turn_toNat cryptoKey) n x

/-- 35 turns, and the word that is left in the low half. -/
theorem SWSP177_related (h : Written parameters) (seed outKey : Bytes) (level : Int) :
    Related Eq (SWSP177.generateKey seed outKey.length level parameters)
      (CSharp.SWSP177.generateKey seed outKey level parameters) := by
  refine related_bind (paramWord_related h "KeyConst" .big) ?_
  rintro _ cryptoKey rfl
  refine related_guard fun hseed hkey => ?_
  obtain ⟨seedA, ha, ha'⟩ := @bytesToInt_agree seed 0 (by omega) .big
  rw [ha', show CSharp.BitUtility.bytesToInt seed .big 0 = .ok seedA from ha]
  have hturns := turns_toNat cryptoKey seedA.toUInt64 35
  rw [UInt32.toNat_toUInt64] at hturns
  refine related_key hkey ?_
  rw [← hturns, ← UInt32.toNat_inj]
  generalize (CSharp.SWSP177.turn cryptoKey)^[35] seedA.toUInt64 = x
  have hlow : (x &&& 0xFFFFFFFF).toUInt32.toNat = x.toNat % 2 ^ 32 := by
    rw [UInt64.toNat_toUInt32, UInt64.toNat_and,
      show (0xFFFFFFFF : UInt64).toNat = 2 ^ 32 - 1 from rfl, Nat.and_two_pow_sub_one_eq_mod,
      Nat.mod_mod]
  rw [hlow, show (0xFFFFFFFF : Nat) = u32 from rfl]
  simp only [and_u32, Nat.mod_mod]
  simp [UInt32.ofInt]
  omega

/-! ## All of them -/

/-- An algorithm in both languages. -/
structure Port where
  python : Provider
  csharp : CSharp.Provider

/-- The providers whose Python leaves the wrapping to the end. -/
def wordPorts : List Port :=
  [⟨DaimlerStandardSecurityAlgo.generateKey, CSharp.DaimlerStandardSecurityAlgo.generateKey⟩,
    ⟨DaimlerStandardSecurityAlgoMod.generateKey,
      CSharp.DaimlerStandardSecurityAlgoMod.generateKey⟩,
    ⟨DaimlerStandardSecurityAlgoRefG.generateKey,
      CSharp.DaimlerStandardSecurityAlgoRefG.generateKey⟩,
    ⟨EDIFF290.generateKey, CSharp.EDIFF290.generateKey⟩,
    ⟨DRVU_PROF.generateKey, CSharp.DRVU_PROF.generateKey⟩,
    ⟨VGSSecurityAlgo.generateKey, CSharp.VGSSecurityAlgo.generateKey⟩,
    ⟨VGSSecurityAlgoExt.generateKey, CSharp.VGSSecurityAlgoExt.generateKey⟩,
    ⟨RDU222.generateKey, CSharp.RDU222.generateKey⟩,
    ⟨RVC222_MPC222_FCW246_LRR3.generateKey, CSharp.RVC222_MPC222_FCW246_LRR3.generateKey⟩,
    ⟨ORC166.generateKey, CSharp.ORC166.generateKey⟩,
    ⟨SWSP177.generateKey, CSharp.SWSP177.generateKey⟩]

/--
**A word provider returns the key of its original.** Where one returns no key or
raises, so does the other: in particular when a modulus is zero.
-/
theorem wordPorts_agree (port : Port) (hport : port ∈ wordPorts) (parameters : List Parameter)
    (h : Written parameters) (seed outKey : Bytes) (level : Int) :
    Related Eq (port.python seed outKey.length level parameters)
      (port.csharp seed outKey level parameters) := by
  simp only [wordPorts, List.mem_cons, List.not_mem_nil, or_false] at hport
  rcases hport with rfl | rfl | rfl | rfl | rfl | rfl | rfl | rfl | rfl | rfl | rfl
  · exact DaimlerStandardSecurityAlgo_related h seed outKey level
  · exact DaimlerStandardSecurityAlgoMod_related h seed outKey level
  · exact DaimlerStandardSecurityAlgoRefG_related h seed outKey level
  · exact EDIFF290_related h seed outKey level
  · exact DRVU_PROF_related h seed outKey level
  · exact VGSSecurityAlgo_related h seed outKey level
  · exact VGSSecurityAlgoExt_related h seed outKey level
  · exact RDU222_related h seed outKey level
  · exact RVC222_MPC222_FCW246_LRR3_related h seed outKey level
  · exact ORC166_related h seed outKey level
  · exact SWSP177_related h seed outKey level

/-- A definition with negative constants. -/
def signedRows : List Parameter :=
  [⟨"KeyK", "0000FFF1", "ByteArray"⟩, ⟨"kA", "FFFFFFFD", "Int32"⟩, ⟨"kC", "80000001", "Int32"⟩]

theorem wordPorts_agree_signed :
    Written signedRows
      ∧ EDIFF290.generateKey [0xFF, 0xFE, 0xFD, 0xFC, 0, 0, 0, 0] 4 1 signedRows
          = .ok (some [0x00, 0x00, 0x86, 0xA3])
      ∧ Related Eq (EDIFF290.generateKey [0xFF, 0xFE, 0xFD, 0xFC, 0, 0, 0, 0]
            (List.replicate 4 (0 : UInt8)).length 1 signedRows)
          (CSharp.EDIFF290.generateKey [0xFF, 0xFE, 0xFD, 0xFC, 0, 0, 0, 0]
            (List.replicate 4 0) 1 signedRows) := by
  have h : Written signedRows := ⟨by decide, by decide, by decide⟩
  refine ⟨h, by decide +kernel, ?_⟩
  have hport : ⟨EDIFF290.generateKey, CSharp.EDIFF290.generateKey⟩ ∈ wordPorts :=
    .tail _ (.tail _ (.tail _ (.head _)))
  exact wordPorts_agree _ hport signedRows h _ (List.replicate 4 0) 1

end AutoDiag.Proof
