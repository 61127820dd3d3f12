import AutoDiag.CSharp.IC204
import AutoDiag.Lib.BitField
import AutoDiag.Proof.VDOPort
import AutoDiag.Proof.Words
import AutoDiag.Security.IC204

/-!
# IC204 is the C# original

The buffers are the same on both sides and so is every turn of every loop, once an
operator on `int`s is the one on bytes.
-/

namespace AutoDiag.Proof.IC204Port

open Raise Buffer BitField Security

/-! ## Operators -/

/-- A byte shifted to the right, with the carry set, and its lowest bit. -/
theorem shifted_byte : ∀ b : UInt8,
    CSharp.byteOfInt (CSharp.intOfByte b >>> 1 &&& 0x7F) = b >>> 1 &&& (0x7F : UInt8)
      ∧ CSharp.byteOfInt (CSharp.intOfByte b ||| 0x80) = b ||| 0x80
      ∧ (CSharp.intOfByte b &&& 1 ≠ 0 ↔ b &&& 1 ≠ 0) :=
  forall_byte (by decide +kernel)

/-- The three counts that are masked out of a byte. -/
theorem count_eq : ∀ b : UInt8,
    (CSharp.intOfByte b &&& 0x0F).toInt.toNat = (b &&& 0x0F).toNat
      ∧ (CSharp.intOfByte b &&& 0x07).toInt.toNat = (b &&& 0x07).toNat
      ∧ (CSharp.intOfByte b &&& 0x03).toInt.toNat = (b &&& 0x03).toNat :=
  forall_byte (by decide +kernel)

/-- A loop that writes what does not depend on the buffer. -/
theorem written_eq {β : Type} [Inhabited β] (k : Nat) (f : Nat → β) (x : β) :
    loop k (fun i v => put v i (f i)) (Vector.replicate k x) = Vector.ofFn fun i => f i.val := by
  have hloop := loop_put_eq_patch (Vector.replicate k x) 0 (Vector.ofFn fun i : Fin k => f i.val)
    (f := fun i _ => f i) fun i hi _ _ => (get_ofFn (fun i : Fin k => f i.val) hi).symm
  rw [patch_zero] at hloop
  simpa only [Nat.zero_add] using hloop

/-- Every byte takes the carry of the one before, and the first that of the last. -/
theorem rotateRightArray_eq {n : Nat} (buf : Vector UInt8 n) (offset length : Nat) :
    CSharp.IC204.rotateRightArray buf offset length
      = Security.IC204.rotateRightArray buf offset length := by
  rw [CSharp.IC204.rotateRightArray, Security.IC204.rotateRightArray]
  by_cases hlength : length = 0 ∨ 8 < length
  · rw [if_pos hlength, if_pos hlength]
  · rw [if_neg hlength, if_neg hlength]
    dsimp only
    rw [written_eq length fun i => CSharp.intOfByte buf[offset + i]! &&& 1,
      written_eq length fun i => buf[offset + i]! &&& 1]
    refine loop_congr (fun i hi b => ?_) buf
    have hprev : (if i = 0 then length - 1 else i - 1) < length := by
      split <;> omega
    rw [get_ofFn _ hprev, get_ofFn _ hprev, (shifted_byte _).1, (shifted_byte _).2.1]
    exact congrArg (put b (offset + i)) (if_congr (shifted_byte _).2.2 rfl rfl)

theorem xorFour_eq {n : Nat} (buf : Vector UInt8 n) (p q : Nat) :
    CSharp.IC204.xorFour buf p q = zipInto (· ^^^ ·) buf p q 4 := by
  have hxor : (fun a b => CSharp.byteOfInt (CSharp.intOfByte a ^^^ CSharp.intOfByte b))
      = fun a b : UInt8 => a ^^^ b := funext fun a => funext fun b => byteOfInt_xor a b
  rw [CSharp.IC204.xorFour, hxor]

/-! ## The steps -/

/-- Both write the same places in the same order. -/
theorem saltTransform_eq (salt : Vector UInt8 8) :
    CSharp.IC204.saltTransform salt = Security.IC204.saltTransform salt := by
  have hfirst : ∀ buf, CSharp.IC204.mixFirst buf = Security.IC204.mixFirst buf := by
    intro buf
    simp only [CSharp.IC204.mixFirst, Security.IC204.mixFirst, CSharp.IC204.rotate, count_eq,
      rotateRightArray_eq, xorFour_eq]
  have hsecond : ∀ buf, CSharp.IC204.mixSecond buf = Security.IC204.mixSecond buf := by
    intro buf
    simp only [CSharp.IC204.mixSecond, Security.IC204.mixSecond, CSharp.IC204.rotate, count_eq,
      rotateRightArray_eq, xorFour_eq]
  have hcopy : ∀ buf, CSharp.IC204.copySalt buf = Security.IC204.copySalt buf := fun _ => rfl
  rw [CSharp.IC204.saltTransform, Security.IC204.saltTransform, hfirst, hsecond, hcopy]

/-- The bits that are fed back, as `int`s and as bytes. -/
theorem tap_eq : ∀ b : UInt8, CSharp.intOfByte b &&& (1 : Int32) = CSharp.intOfByte (b &&& 1)
    ∧ CSharp.intOfByte b >>> 1 &&& (1 : Int32) = CSharp.intOfByte (b >>> 1 &&& 1)
    ∧ CSharp.intOfByte b >>> 2 &&& (1 : Int32) = CSharp.intOfByte (b >>> 2 &&& 1)
    ∧ CSharp.intOfByte b >>> 3 &&& (1 : Int32) = CSharp.intOfByte (b >>> 3 &&& 1)
    ∧ CSharp.intOfByte b >>> 4 &&& (1 : Int32) = CSharp.intOfByte (b >>> 4 &&& 1)
    ∧ CSharp.intOfByte b >>> 5 &&& (1 : Int32) = CSharp.intOfByte (b >>> 5 &&& 1)
    ∧ CSharp.intOfByte b >>> 6 &&& (1 : Int32) = CSharp.intOfByte (b >>> 6 &&& 1)
    ∧ CSharp.intOfByte b >>> 7 &&& (1 : Int32) = CSharp.intOfByte (b >>> 7 &&& 1) :=
  forall_byte (by decide +kernel)

theorem intOfByte_xor (a b : UInt8) :
    CSharp.intOfByte a ^^^ CSharp.intOfByte b = CSharp.intOfByte (a ^^^ b) := by
  rw [CSharp.intOfByte, CSharp.intOfByte, CSharp.intOfByte, UInt8.toUInt32_xor]
  rfl

/-- The highest bit is replaced by the one fed back. -/
theorem fed_back (b fb : UInt8) :
    CSharp.byteOfInt (CSharp.intOfByte b &&& (0x7F : Int32) ||| CSharp.intOfByte fb <<< 7)
      = b &&& (0x7F : UInt8) ||| fb <<< 7 := by
  have hor : ∀ x y : Int32,
      CSharp.byteOfInt (x ||| y) = CSharp.byteOfInt x ||| CSharp.byteOfInt y := by
    intro x y
    rw [CSharp.byteOfInt, Int32.toUInt32_or, UInt32.toUInt8_or]
    rfl
  rw [hor, (VDOPort.byteOfInt_shift b).2.2.1, (VDOPort.byteOfInt_shift fb).2.1]

/-- The taps are masked as `int`s and joined as bytes. -/
theorem computeLfsrFeedback_eq (ws : Vector UInt8 0x20) :
    CSharp.IC204.computeLfsrFeedback ws = Security.IC204.computeLfsrFeedback ws := by
  simp only [CSharp.IC204.computeLfsrFeedback, Security.IC204.computeLfsrFeedback, tap_eq,
    intOfByte_xor, fed_back]

theorem le32Load_eq (buf : Vector UInt8 0x20) (offset : Nat) :
    CSharp.IC204.le32Load buf offset = Security.IC204.le32Load buf offset := rfl

theorem le32Store_eq (buf : Vector UInt8 0x20) (offset : Nat) (val : UInt32) :
    CSharp.IC204.le32Store buf offset val = Security.IC204.le32Store buf offset val := by
  have hbyte : ∀ w : UInt32, (w &&& 0xFF).toUInt8 = w.toUInt8 := by
    intro w
    rw [masked_byte, UInt8.ofNat_uInt32ToNat]
  simp only [CSharp.IC204.le32Store, hbyte]
  rfl

/-- The words are loaded, added and stored alike. -/
theorem halfRound_eq (level offset : Nat) (ws : Vector UInt8 0x20) :
    CSharp.IC204.halfRound level offset ws = Security.IC204.halfRound level offset ws := by
  simp only [CSharp.IC204.halfRound, Security.IC204.halfRound, CSharp.IC204.rotate, count_eq,
    rotateRightArray_eq, xorFour_eq, le32Load_eq, le32Store_eq]

/-- Steps 4 to 7, from the workspace, the turns, the state, and the functions of a turn. -/
def steps (ws : Vector UInt8 0x20) (lfsrCount : Nat) (state : Vector UInt8 8)
    (feed round : Vector UInt8 0x20 → Vector UInt8 0x20) : Vector UInt8 8 :=
  let ws := patch ws 0x08 state
  let ws := feed^[lfsrCount] ws
  let ws := patch ws 0x00 (region ws 0x10 8)
  let ws := round^[2] ws
  #v[ws[3]!, ws[5]!, ws[6]!, ws[1]!, ws[0]!, ws[7]!, ws[4]!, ws[2]!]

theorem encipher_eq (level : Nat) (salt seed : Vector UInt8 8) :
    CSharp.IC204.encipher level salt seed = Security.IC204.encipher level salt seed := by
  have hpermute : CSharp.IC204.permuteSeed seed = Security.IC204.permuteSeed seed := rfl
  have hfeed : (fun ws : Vector UInt8 0x20 =>
        CSharp.IC204.rotateRightArray (CSharp.IC204.computeLfsrFeedback ws) 0x08 8)
      = fun ws => Security.IC204.rotateRightArray (Security.IC204.computeLfsrFeedback ws) 0x08 8 := by
    funext ws
    rw [computeLfsrFeedback_eq, rotateRightArray_eq]
  have hround : (fun ws => CSharp.IC204.halfRound level 0x0C (CSharp.IC204.halfRound level 0x08 ws))
      = fun ws => Security.IC204.halfRound level 0x0C (Security.IC204.halfRound level 0x08 ws) := by
    funext ws
    rw [halfRound_eq, halfRound_eq]
  have hcount := congrArg (· + 2) (count_eq (Security.IC204.permuteSeed seed)[0x10 + level]!).2.1
  change steps (CSharp.IC204.permuteSeed seed) (_ + 2) (CSharp.IC204.saltTransform salt)
    (fun ws => CSharp.IC204.rotateRightArray (CSharp.IC204.computeLfsrFeedback ws) 0x08 8)
    (fun ws => CSharp.IC204.halfRound level 0x0C (CSharp.IC204.halfRound level 0x08 ws))
    = steps (Security.IC204.permuteSeed seed) (_ + 2) (Security.IC204.saltTransform salt)
      (fun ws => Security.IC204.rotateRightArray (Security.IC204.computeLfsrFeedback ws) 0x08 8)
      (fun ws => Security.IC204.halfRound level 0x0C (Security.IC204.halfRound level 0x08 ws))
  rw [hpermute, saltTransform_eq, hfeed, hround]
  exact congrArg (steps _ · _ _ _) hcount

/-! ## The level -/

/-- Half of a level and one, as an `int` and as a number. -/
theorem half_cases (x : Int32) :
    ((x + 1) / 2).toInt = (x.toInt + 1) / 2
      ∨ ((x + 1) / 2).toInt < 1 ∧ ((x.toInt + 1) / 2 < 1 ∨ 7 < (x.toInt + 1) / 2) := by
  have hlow := x.le_toInt
  have hhigh := x.toInt_lt
  have hdiv : ((x + 1) / 2).toInt = (((x + 1).toInt.tdiv 2)).bmod (2 ^ 32) := Int32.toInt_div ..
  have hadd : (x + 1).toInt = (x.toInt + 1).bmod (2 ^ 32) := Int32.toInt_add ..
  rw [hdiv, hadd]
  by_cases hmax : x.toInt = 2 ^ 31 - 1
  · rw [hmax]
    exact .inr (by decide)
  · rw [Int.bmod_eq_of_le (n := x.toInt + 1) (by omega) (by omega), Int.tdiv_eq_ediv]
    by_cases hneg : x.toInt + 1 < 0
    · -- one side rounds towards zero, the other down, and neither level is served
      have hsign : Int.sign 2 = 1 := rfl
      right
      split <;> rw [Int.bmod_eq_of_le (by omega) (by omega)] <;> omega
    · rw [if_pos (.inl (by omega)), Int.add_zero, Int.bmod_eq_of_le (by omega) (by omega)]
      exact .inl rfl

/-- The level is the same, or outside of what is served on both sides. -/
theorem level_cases (x : Int32) :
    (CSharp.IC204.udsToInternalLevel x).toInt = Security.IC204.udsToInternalLevel x.toInt
      ∨ (CSharp.IC204.udsToInternalLevel x).toInt < 1
        ∧ (Security.IC204.udsToInternalLevel x.toInt < 1
          ∨ 7 < Security.IC204.udsToInternalLevel x.toInt) := by
  have heq : ∀ c : Int32, x = c ↔ x.toInt = c.toInt := fun c => Int32.toInt_inj.symm
  rw [CSharp.IC204.udsToInternalLevel, Security.IC204.udsToInternalLevel]
  simp only [heq, Int32.reduceToInt]
  split_ifs
  · exact .inl rfl
  · exact .inl rfl
  · exact .inl rfl
  · exact .inl rfl
  · exact half_cases x

/-! ## The key -/

theorem IC204_related {parameters : List Parameter} (h : WrittenAny parameters)
    (seed outKey : Bytes) (level : Int32) :
    Related Eq (Security.IC204.generateKey seed outKey.length level.toInt parameters)
      (CSharp.IC204.generateKey seed outKey level.toInt parameters) := by
  refine related_bind (paramBytes_alike h "Salt") ?_
  intro salt _ hsalt
  subst hsalt
  refine related_ite (or_congr Iff.rfl (or_congr (not_congr Int.natCast_inj) Iff.rfl))
    (fun _ => related_pure rfl) fun _ => ?_
  have hlevel : Int32.ofInt level.toInt = level := Int32.ofInt_toInt level
  have hone : CSharp.IC204.udsToInternalLevel level < 1
      ↔ (CSharp.IC204.udsToInternalLevel level).toInt < 1 := Int32.lt_iff_toInt_lt
  have hseven : CSharp.IC204.udsToInternalLevel level > 7
      ↔ 7 < (CSharp.IC204.udsToInternalLevel level).toInt := Int32.lt_iff_toInt_lt
  dsimp only
  rw [hlevel]
  rcases level_cases level with hsame | ⟨hlow, hout⟩
  · rw [← hsame]
    refine related_ite (or_congr hone.symm hseven.symm) (fun _ => related_pure rfl) fun _ => ?_
    rw [encipher_eq]
    exact related_pure rfl
  · rw [if_pos hout, if_pos (.inl (hone.mpr hlow))]
    exact related_pure rfl

end AutoDiag.Proof.IC204Port
