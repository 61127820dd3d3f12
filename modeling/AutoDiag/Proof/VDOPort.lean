import AutoDiag.CSharp.VDOSecurityAlgo
import AutoDiag.Lib.BitField
import AutoDiag.Proof.Words
import AutoDiag.Security.VDOSecurityAlgo

/-!
# VDOSecurityAlgo is the C# original

Where Python works on the bytes of a bytearray, C# works on `int`s and cuts them to
bytes. Operator by operator the byte is the same, so the functions are, up to the two
places where something from outside is read.
-/

namespace AutoDiag.Proof.VDOPort

open Raise Buffer BitField Security Security.VDOSecurityAlgo

/-! ## Operators -/

/-- A byte of an or of `int`s is the or of the bytes. -/
theorem byteOfInt_or (a b : UInt8) :
    CSharp.byteOfInt (CSharp.intOfByte a ||| CSharp.intOfByte b) = a ||| b := by
  rw [CSharp.byteOfInt, Int32.toUInt32_or]
  simp [CSharp.intOfByte]

/-- The three steps of a rotation: what C# shifts out of the low byte, the cast cuts off. The
`int` it compares with zero has the low bit set exactly if the byte does. -/
theorem byteOfInt_shift : ∀ b : UInt8,
    CSharp.byteOfInt (CSharp.intOfByte b >>> 1) = b >>> 1
      ∧ CSharp.byteOfInt (CSharp.intOfByte b <<< 7) = b <<< 7
      ∧ CSharp.byteOfInt (CSharp.intOfByte b &&& 0x7F) = b &&& 0x7F
      ∧ (CSharp.intOfByte b &&& 1 > 0 ↔ 0 < b &&& 1) :=
  forall_byte (by decide +kernel)

/-- The three counts that the cipher masks out of a byte. -/
theorem countOf_eq : ∀ b : UInt8, CSharp.VDOSecurityAlgo.countOf b 0xF = (b &&& 0xF).toNat
    ∧ CSharp.VDOSecurityAlgo.countOf b 7 = (b &&& 7).toNat
    ∧ CSharp.VDOSecurityAlgo.countOf b 3 = (b &&& 3).toNat :=
  forall_byte (by decide +kernel)

/-! ## Functions of bytes -/

/-- An array filled place by place is the vector of the four. -/
theorem fourBytes_eq (b0 b1 b2 b3 : UInt8) :
    CSharp.VDOSecurityAlgo.fourBytes b0 b1 b2 b3 = #v[b0, b1, b2, b3] := by
  ext i hi
  interval_cases i <;> rfl

theorem eightBytes_eq (b0 b1 b2 b3 b4 b5 b6 b7 : UInt8) :
    CSharp.VDOSecurityAlgo.eightBytes b0 b1 b2 b3 b4 b5 b6 b7
      = #v[b0, b1, b2, b3, b4, b5, b6, b7] := by
  ext i hi
  interval_cases i <;> rfl

/-- The carry is the same bit on both sides, and so is what it is set into. -/
theorem rotateBits_eq {n : Nat} (v : Vector UInt8 n) :
    CSharp.VDOSecurityAlgo.rotateBits v = rotateBits v := by
  unfold CSharp.VDOSecurityAlgo.rotateBits rotateBits
  simp only [byteOfInt_shift, byteOfInt_or]

/-- Rotations by the same counts, of the same bytes. -/
theorem expand32BitKey_eq (key : Vector UInt8 4) :
    CSharp.VDOSecurityAlgo.expand32BitKey key = expand32bitKey key := by
  have hrotate : ∀ n, @CSharp.VDOSecurityAlgo.rotateBits n = rotateBits :=
    fun n => funext rotateBits_eq
  unfold CSharp.VDOSecurityAlgo.expand32BitKey expand32bitKey CSharp.VDOSecurityAlgo.rotateBitsN
    rotateBitsN
  simp only [hrotate, countOf_eq, byteOfInt_xor, fourBytes_eq]

/-- A bit of a byte, masked and moved to the lowest place as an `int`. -/
def tapOf (b : UInt8) (mask count : Int32) : UInt8 :=
  CSharp.byteOfInt (CSharp.intOfByte (CSharp.byteOfInt (CSharp.intOfByte b &&& mask)) >>> count)

/-- The eight taps of the morph, each a bit of a byte moved to the lowest place. -/
theorem tapOf_eq : ∀ b : UInt8, tapOf b 8 3 = (b &&& 8) >>> 3 ∧ tapOf b 1 0 = (b &&& 1) >>> 0
    ∧ tapOf b 2 1 = (b &&& 2) >>> 1 ∧ tapOf b 0x80 7 = (b &&& 0x80) >>> 7
    ∧ tapOf b 0x20 5 = (b &&& 0x20) >>> 5 ∧ tapOf b 4 2 = (b &&& 4) >>> 2
    ∧ tapOf b 0x40 6 = (b &&& 0x40) >>> 6 ∧ tapOf b 0x10 4 = (b &&& 0x10) >>> 4 :=
  forall_byte (by decide +kernel)

/-- C# writes the masked byte before it shifts it, over which the shifted one is written. -/
theorem extract_eq (ek : Vector UInt8 8) {i : Nat} (hi : i < 8) (mask count : Int32) :
    CSharp.VDOSecurityAlgo.extract ek i mask count = put ek i (tapOf ek[i]! mask count) := by
  unfold CSharp.VDOSecurityAlgo.extract
  rw [put_put, get_put_self _ _ hi]
  rfl

/-- The taps, the feedback and the rotation are the same, byte by byte. -/
theorem morph_eq (mKey : Vector UInt8 8) : CSharp.VDOSecurityAlgo.morph mKey = morph mKey := by
  unfold CSharp.VDOSecurityAlgo.morph morph CSharp.VDOSecurityAlgo.xorByte
  simp (disch := decide) only [rotateBits_eq, byteOfInt_xor, byteOfInt_or, byteOfInt_shift,
    extract_eq, tapOf_eq]

/-- The halves are folded place by place. -/
theorem xorUpper_eq (tp : Vector UInt8 8) :
    CSharp.VDOSecurityAlgo.xorUpper tp = zipInto (· ^^^ ·) tp 0 4 4 := by
  unfold CSharp.VDOSecurityAlgo.xorUpper zipInto
  simp only [byteOfInt_xor, Nat.zero_add]

theorem rotateLower_eq (tp : Vector UInt8 8) (rotateCount : Nat) :
    CSharp.VDOSecurityAlgo.rotateLower tp rotateCount = rotateLower tp rotateCount := by
  have hrotate : @CSharp.VDOSecurityAlgo.rotateBits 4 = rotateBits := funext rotateBits_eq
  unfold CSharp.VDOSecurityAlgo.rotateLower rotateLower
  rw [hrotate, fourBytes_eq]

theorem sumOf_eq (b0 b1 b2 b3 : UInt8) : CSharp.VDOSecurityAlgo.sumOf b0 b1 b2 b3
    = b0.toUInt32 ||| b1.toUInt32 <<< 8 ||| b2.toUInt32 <<< 16 ||| b3.toUInt32 <<< 24 := rfl

/-- The sum is made in 32 bits and cut to bytes; Python masks each byte once more. -/
theorem addKey_eq (ik : Vector UInt8 8) (offset : Nat) (tp : Vector UInt8 8) :
    CSharp.VDOSecurityAlgo.addKey ik offset tp = addKey ik offset tp := by
  -- the mask to eight bits is the cast itself
  have hlow : ∀ x : UInt32, (x &&& 0xFF).toUInt8 = x.toUInt8 := by
    intro x
    rw [← UInt8.toNat_inj, UInt32.toNat_toUInt8, UInt32.toNat_toUInt8, UInt32.toNat_and,
      show UInt32.toNat 0xFF = 2 ^ 8 - 1 from rfl, Nat.and_two_pow_sub_one_eq_mod, Nat.mod_mod]
  unfold CSharp.VDOSecurityAlgo.addKey addKey
  simp only [sumOf_eq, hlow]

/-! ## What comes from outside -/

/-- Both read the byte at a place, or both fail, when the place is not below zero. -/
theorem item_related (data : Bytes) (i : Nat) :
    Related Eq (item data i) (CSharp.item data i) := by
  unfold item CSharp.item
  rw [if_neg (by omega), Int.toNat_natCast]
  cases data[i]? with
  | none => exact related_error _ _
  | some b => exact related_ok rfl

/-- Below zero Python counts from the end where C# throws. -/
theorem itemFrom_related (data : Bytes) {i : Int} (h : 0 ≤ i) :
    Related Eq (itemFrom data i) (CSharp.item data i) := by
  have hitem := item_related data i.toNat
  rw [Int.toNat_of_nonneg h] at hitem
  rw [itemFrom, if_pos h]
  exact hitem

/-- The eight bytes are read in the same order, so both stop at the same one. -/
theorem expandFullKey_related (kc : Bytes) :
    Related Eq (expandFullKey kc) (CSharp.VDOSecurityAlgo.expandFullKey kc) := by
  refine related_bind (item_related kc 0) ?_
  rintro b0 _ rfl
  refine related_bind (item_related kc 1) ?_
  rintro b1 _ rfl
  refine related_bind (item_related kc 2) ?_
  rintro b2 _ rfl
  refine related_bind (item_related kc 3) ?_
  rintro b3 _ rfl
  refine related_bind (item_related kc 4) ?_
  rintro b4 _ rfl
  refine related_bind (item_related kc 5) ?_
  rintro b5 _ rfl
  refine related_bind (item_related kc 6) ?_
  rintro b6 _ rfl
  refine related_bind (item_related kc 7) ?_
  rintro b7 _ rfl
  refine related_pure ?_
  rw [expand32BitKey_eq, expand32BitKey_eq, fourBytes_eq, fourBytes_eq]

variable {level : Int}

theorem expandAndTransformKey_related (h : 0 ≤ level) (tp : Vector UInt8 8) (kc : Bytes) :
    Related Eq (expandAndTransformKey level tp kc)
      (CSharp.VDOSecurityAlgo.expandAndTransformKey level tp kc) := by
  have hmorph : CSharp.VDOSecurityAlgo.morph = morph := funext morph_eq
  -- the level is the only index that comes from outside
  refine related_bind (itemFrom_related _ h) ?_
  rintro b _ rfl
  refine related_bind (expandFullKey_related kc) ?_
  rintro mKey _ rfl
  refine related_pure ?_
  rw [hmorph, (countOf_eq b).2.1]

/-- The level is read before anything is changed. -/
theorem halfIteration_related (h : 0 ≤ level) (ik : Vector UInt8 8) (offset : Nat)
    (tp tpc : Vector UInt8 8) : Related Eq (halfIteration ik level offset tp tpc)
      (CSharp.VDOSecurityAlgo.halfIteration ik level offset tp tpc) := by
  refine related_bind (itemFrom_related _ h) ?_
  rintro b _ rfl
  refine related_pure ?_
  rw [xorUpper_eq, rotateLower_eq, addKey_eq, (countOf_eq b).2.2]
  rfl

theorem cipherIteration_related (h : 0 ≤ level) (ik tp tpc : Vector UInt8 8) :
    Related Eq (cipherIteration ik level tp tpc)
      (CSharp.VDOSecurityAlgo.cipherIteration ik level tp tpc) := by
  refine related_bind (halfIteration_related h ik 0 tp tpc) ?_
  rintro tp _ rfl
  exact halfIteration_related h ik 4 tp tp

/-- Expand once, iterate twice. -/
theorem generateKeyAt_related (h : 0 ≤ level) (seed : Vector UInt8 8) (kc : Bytes) :
    Related Eq (generateKeyAt level seed kc)
      (CSharp.VDOSecurityAlgo.generateKeyAt level seed kc) := by
  unfold generateKeyAt CSharp.VDOSecurityAlgo.generateKeyAt
  simp only [eightBytes_eq]
  refine related_bind (expandAndTransformKey_related h _ kc) ?_
  rintro ik _ rfl
  refine related_bind (cipherIteration_related h ik _ _) ?_
  rintro tp _ rfl
  refine related_bind (cipherIteration_related h ik tp tp) ?_
  rintro tpc _ rfl
  exact related_pure rfl

/-- **With a level that is not below zero, the provider is its original.** -/
theorem generateKey_related {parameters : List Parameter}
    (hrows : ∀ row ∈ parameters, WellFormed row) (hupper : ∀ row ∈ parameters, UpperCase row)
    (hlevel : ∀ level, paramInt parameters "InternalLevel" = .ok level → 0 ≤ level)
    (seed outKey : Bytes) (accessLevel : Int) :
    Related Eq (generateKey seed outKey.length accessLevel parameters)
      (CSharp.VDOSecurityAlgo.generateKey seed outKey accessLevel parameters) := by
  refine related_bind (paramBytes_related hrows "K") ?_
  intro kc kc' hkc
  -- in upper case both sides read the same bytes
  rw [hkc.eq hupper]
  refine related_bind (related_returned (paramInt_related hrows "InternalLevel")) ?_
  rintro _ level ⟨rfl, hread, -⟩
  refine related_guard fun _ _ => ?_
  refine related_bind (generateKeyAt_related (hlevel _ hread) _ kc) ?_
  rintro result _ rfl
  exact related_pure rfl

end AutoDiag.Proof.VDOPort
