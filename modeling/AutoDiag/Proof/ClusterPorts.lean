import AutoDiag.CSharp.ClusterProviders
import AutoDiag.Proof.Words
import AutoDiag.Security.ClusterProviders

/-!
# The rotation schemes are the C# originals

Python holds every value of `KIAlgo1` in one kind of integer and masks it; C# holds
it in a `uint` or a `ushort`. `toNat` carries each step of the one over to the
other, and so each loop.
-/

namespace AutoDiag.Proof

open Raise Security BitUtility

namespace KIAlgo1

open Security.KIAlgo1

/-! ## The root key -/

/-- One turn to the right, in 32 bits. -/
theorem rotateRightTurn_toNat (x : UInt32) :
    (CSharp.KIAlgo1.rotateRightTurn x).toNat = rotateRightU32Turn x.toNat := by
  have hlow : x &&& 1 = 0 ↔ x.toNat &&& 1 = 0 := by
    rw [← UInt32.toNat_inj, UInt32.toNat_and]
    rfl
  unfold CSharp.KIAlgo1.rotateRightTurn rotateRightU32Turn
  by_cases h : x &&& 1 = 0
  · rw [if_pos h, if_pos (hlow.mp h), UInt32.toNat_shiftRight]
    rfl
  · rw [if_neg h, if_neg (fun h' => h (hlow.mpr h')), UInt32.toNat_or, UInt32.toNat_shiftRight]
    rfl

/-- A rotation is as many turns: `toNat` carries over each of them. -/
theorem rotateRight_toNat (x : UInt32) (rotations : Nat) :
    (CSharp.KIAlgo1.rotateRight x rotations).toNat = rotateRightU32 x.toNat rotations := by
  have hturns := Function.Semiconj.iterate_right rotateRightTurn_toNat rotations x
  rw [rotateRightU32, toNat_and_u32, ← hturns, toNat_and_u32]
  rfl

/-- A mask of a `uint` and of the number it holds. -/
theorem and_pos_iff (x : UInt32) {m : Nat} (h : m < 2 ^ 31) :
    CSharp.longOfUint x &&& Int64.ofNat m > 0 ↔ 0 < x.toNat &&& m := by
  have hle : x.toNat &&& m ≤ m := Nat.and_le_right
  rw [CSharp.longOfUint, ← Wrap.ofNat_toNat, ← Wrap.ofNat_and, ← Int64.ofInt_eq_ofNat,
    gt_iff_lt, Int64.lt_iff_toInt_lt, Int64.toInt_ofInt_of_le (by omega) (by omega)]
  exact Int.natCast_pos

/-- The four bits that the root turn looks at are masked in a `long`. -/
theorem bitSet_toNat (x : UInt32) {bit : Nat}
    (h : bit = 0 ∨ bit = 7 ∨ bit = 17 ∨ bit = 26) :
    CSharp.KIAlgo1.bitSet x (Int32.ofNat bit) = bitSet x.toNat bit := by
  unfold CSharp.KIAlgo1.bitSet bitSet
  have hmask : (1 <<< Int32.ofNat bit : Int32).toInt64 = Int64.ofNat (1 <<< bit)
      ∧ 1 <<< bit < 2 ^ 31 := by
    rcases h with rfl | rfl | rfl | rfl <;> decide
  rw [hmask.1]
  exact decide_eq_decide.mpr (and_pos_iff x hmask.2)

/-- The feedback bit is the same, and the rotation too. -/
theorem rootTurn_toNat (x : UInt32) : (CSharp.KIAlgo1.rootTurn x).toNat = rootTurn x.toNat := by
  unfold CSharp.KIAlgo1.rootTurn rootTurn
  dsimp only
  rw [rotateRight_toNat, UInt32.toNat_or, UInt32.toNat_and,
    show CSharp.KIAlgo1.bitSet x 0 = bitSet x.toNat 0 from bitSet_toNat x (by decide),
    show CSharp.KIAlgo1.bitSet x 7 = bitSet x.toNat 7 from bitSet_toNat x (by decide),
    show CSharp.KIAlgo1.bitSet x 17 = bitSet x.toNat 17 from bitSet_toNat x (by decide),
    show CSharp.KIAlgo1.bitSet x 26 = bitSet x.toNat 26 from bitSet_toNat x (by decide)]
  split <;> rfl

/-! ## The halves of the seed -/

theorem toNat_and_u16 (x : UInt16) : x.toNat &&& 0xFFFF = x.toNat := by
  rw [show (0xFFFF : Nat) = 2 ^ 16 - 1 from rfl, Nat.and_two_pow_sub_one_eq_mod,
    Nat.mod_eq_of_lt x.toNat_lt]

/-- What is left of an `int` in a `ushort`. -/
theorem ushortOfInt_toNat (x : Int32) :
    (CSharp.ushortOfInt x).toNat = x.toUInt32.toNat &&& 0xFFFF := by
  rw [CSharp.ushortOfInt, UInt32.toNat_toUInt16, show (0xFFFF : Nat) = 2 ^ 16 - 1 from rfl,
    Nat.and_two_pow_sub_one_eq_mod]

theorem intOfUshort_toUInt32 (x : UInt16) : (CSharp.intOfUshort x).toUInt32 = x.toUInt32 := rfl

/-- One turn to the left, in 16 bits: C# shifts an `int` and casts, Python masks. -/
theorem rotateLeftTurn_toNat (x : UInt16) :
    (CSharp.KIAlgo1.rotateLeftTurn x).toNat = rotateLeftU16Turn x.toNat := by
  have hx := x.toNat_lt
  have htop : CSharp.intOfUshort x &&& 0x8000 = 0 ↔ x.toNat &&& 0x8000 = 0 := by
    have hword : CSharp.intOfUshort x &&& 0x8000 = 0 ↔ x.toUInt32 &&& 0x8000 = 0 :=
      ⟨congrArg Int32.toUInt32, congrArg UInt32.toInt32⟩
    rw [hword, ← UInt32.toNat_inj, UInt32.toNat_and, UInt16.toNat_toUInt32]
    rfl
  have hshift : (CSharp.ushortOfInt (CSharp.intOfUshort x <<< 1)).toNat
      = x.toNat <<< 1 &&& 0xFFFF := by
    rw [ushortOfInt_toNat,
      show (CSharp.intOfUshort x <<< 1).toUInt32 = x.toUInt32 <<< 1 from rfl,
      UInt32.toNat_shiftLeft, UInt16.toNat_toUInt32, show UInt32.toNat 1 % 32 = 1 from rfl,
      Nat.mod_eq_of_lt (by rw [Nat.shiftLeft_eq]; omega)]
  unfold CSharp.KIAlgo1.rotateLeftTurn rotateLeftU16Turn
  -- the top bit is carried round, or there is none
  by_cases h : CSharp.intOfUshort x &&& 0x8000 = 0
  · rw [if_pos h, if_pos (htop.mp h), hshift]
  · rw [if_neg h, if_neg (fun h' => h (htop.mpr h'))]
    dsimp only
    rw [ushortOfInt_toNat, Int32.toUInt32_or, intOfUshort_toUInt32, UInt32.toNat_or,
      UInt16.toNat_toUInt32, hshift, Nat.and_or_distrib_right, Nat.and_assoc]
    rfl

theorem rotateLeft_toNat (x : UInt16) (rotations : Nat) :
    (CSharp.KIAlgo1.rotateLeft x rotations).toNat = rotateLeftU16 x.toNat rotations := by
  have hturns := Function.Semiconj.iterate_right rotateLeftTurn_toNat rotations x
  rw [rotateLeftU16, toNat_and_u16, ← hturns, toNat_and_u16]
  rfl

/-- The three values of the loop over the halves, as numbers. -/
def stateToNat (s : UInt32 × UInt16 × UInt16) : Nat × Nat × Nat :=
  (s.1.toNat, s.2.1.toNat, s.2.2.toNat)

/-- One turn of the loop over the halves. -/
theorem seedTurn_toNat (rotationCount : Nat) (s : UInt32 × UInt16 × UInt16) :
    stateToNat (CSharp.KIAlgo1.seedTurn rotationCount s)
      = seedTurn rotationCount (stateToNat s) := by
  obtain ⟨root, high, low⟩ := s
  have hxor : (CSharp.ushortOfInt (CSharp.intOfUshort high ^^^ CSharp.intOfUshort low)).toNat
      = high.toNat ^^^ low.toNat := by
    rw [ushortOfInt_toNat, Int32.toUInt32_xor, intOfUshort_toUInt32, intOfUshort_toUInt32,
      UInt32.toNat_xor, UInt16.toNat_toUInt32, UInt16.toNat_toUInt32, Nat.and_xor_distrib_right,
      toNat_and_u16, toNat_and_u16]
  have hroot : root.toUInt16.toNat = root.toNat &&& 0xFFFF := by
    rw [UInt32.toNat_toUInt16, show (0xFFFF : Nat) = 2 ^ 16 - 1 from rfl,
      Nat.and_two_pow_sub_one_eq_mod]
  -- `ushort`s are added as `int`s, and the cast cuts off the carry
  have hadd : ∀ a b : UInt16,
      (CSharp.ushortOfInt (CSharp.intOfUshort a + CSharp.intOfUshort b)).toNat
      = (a.toNat + b.toNat) &&& 0xFFFF := by
    intro a b
    have ha := a.toNat_lt
    have hb := b.toNat_lt
    rw [ushortOfInt_toNat, Int32.toUInt32_add, intOfUshort_toUInt32, intOfUshort_toUInt32,
      UInt32.toNat_add, UInt16.toNat_toUInt32, UInt16.toNat_toUInt32, Nat.mod_eq_of_lt (by omega)]
  unfold CSharp.KIAlgo1.seedTurn seedTurn stateToNat
  dsimp only
  rw [hadd, rotateLeft_toNat, hxor, hroot, UInt32.toNat_shiftRight]
  rfl

/-- The root is turned first, then the halves twice; both loops are carried over turn by turn. -/
theorem prefixWord_toNat (root seedRegrouped : UInt32) :
    (CSharp.KIAlgo1.prefixWord root seedRegrouped).toNat
      = prefixWord root.toNat seedRegrouped.toNat := by
  have hcount : (seedRegrouped &&& 7).toNat + 2 = (seedRegrouped.toNat &&& 7) + 2 := by
    rw [UInt32.toNat_and]
    rfl
  have hlow : seedRegrouped.toUInt16.toNat = seedRegrouped.toNat &&& 0xFFFF := by
    rw [UInt32.toNat_toUInt16, show (0xFFFF : Nat) = 2 ^ 16 - 1 from rfl,
      Nat.and_two_pow_sub_one_eq_mod]
  have hhigh : (seedRegrouped >>> 16).toUInt16.toNat = seedRegrouped.toNat >>> 16 &&& 0xFFFF := by
    rw [UInt32.toNat_toUInt16, show (0xFFFF : Nat) = 2 ^ 16 - 1 from rfl,
      Nat.and_two_pow_sub_one_eq_mod, UInt32.toNat_shiftRight]
    rfl
  have hroot := Function.Semiconj.iterate_right rootTurn_toNat
    ((seedRegrouped.toNat &&& 7) + 2) root
  have hturns := Function.Semiconj.iterate_right
    (seedTurn_toNat ((seedRegrouped.toNat &&& 7) + 2)) 2
    (CSharp.KIAlgo1.rootTurn^[(seedRegrouped.toNat &&& 7) + 2] root,
      (seedRegrouped >>> 16).toUInt16, seedRegrouped.toUInt16)
  have hjoin : ∀ high low : UInt16,
      (CSharp.intOfUshort low ||| CSharp.intOfUshort high <<< 16).toUInt32.toNat
        = (low.toNat ||| high.toNat <<< 16) &&& u32 := by
    intro high low
    rw [← toNat_and_u32, Int32.toUInt32_or, intOfUshort_toUInt32,
      show (CSharp.intOfUshort high <<< 16).toUInt32 = high.toUInt32 <<< 16 from rfl,
      UInt32.toNat_or, UInt32.toNat_shiftLeft, UInt16.toNat_toUInt32, UInt16.toNat_toUInt32,
      show UInt32.toNat 16 % 32 = 16 from rfl]
    have hh := high.toNat_lt
    rw [Nat.mod_eq_of_lt (by rw [Nat.shiftLeft_eq]; omega)]
  unfold CSharp.KIAlgo1.prefixWord prefixWord
  dsimp only
  rw [hcount, hjoin, ← hhigh, ← hlow, ← hroot]
  exact congrArg (fun s => (s.2.2 ||| s.2.1 <<< 16) &&& u32) hturns

/-! ## The key -/

variable {parameters : List Parameter}

theorem generateKey_related (h : Written parameters) (seed outKey : Bytes) (accessLevel : Int) :
    Related Eq (generateKey seed outKey.length accessLevel parameters)
      (CSharp.KIAlgo1.generateKey seed outKey accessLevel parameters) := by
  refine related_bind (paramByte_related h.wellFormed "Level") ?_
  rintro _ level rfl
  refine related_bind (paramWord_related h "K" .big) ?_
  rintro _ root rfl
  refine related_guard fun hseed hkey => ?_
  -- behind the guard both lists are written out
  match seed, hseed with
  | [s0, s1, s2, s3, s4, s5, s6, s7], _ =>
    match outKey, hkey with
    | [o0, o1, o2, o3, o4, o5, o6], _ =>
      obtain ⟨regrouped, ha, ha'⟩ :=
        @bytesToInt_agree [s2, s6, s0, s4] 0 (by simp) .little
      have hlevel : Py.toByte (level.toNat : Int) = .ok level := by
        have hlt := level.toNat_lt
        rw [Py.toByte, if_pos (by omega), Int.toNat_natCast, UInt8.ofNat_toNat]
      have hbytes : CSharp.BitUtility.intToBytes
          (CSharp.KIAlgo1.prefixWord root regrouped) [0, 0, 0, 0] .little
            = .ok (Word.toBytes (CSharp.KIAlgo1.prefixWord root regrouped)).reverse := by
        simp [CSharp.BitUtility.intToBytes, CSharp.store, Word.toBytes]
      have hpy : intToBytes (prefixWord root.toNat regrouped.toNat) .little
          = (Word.toBytes (CSharp.KIAlgo1.prefixWord root regrouped)).reverse := by
        rw [← prefixWord_toNat, intToBytes_little]
      have hread : CSharp.BitUtility.bytesToInt [s2, s6, s0, s4] .little 0 = .ok regrouped := ha
      simp only [Py.index, List.getElem?_cons_zero, List.getElem?_cons_succ, ok_bind, ha', hpy,
        hlevel, Word.toBytes, List.reverse_cons, List.reverse_nil, List.nil_append,
        List.cons_append]
      simp [CSharp.item, CSharp.store, hread, hbytes, Word.toBytes]
      exact related_ok rfl

end KIAlgo1

end AutoDiag.Proof
