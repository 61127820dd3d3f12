import AutoDiag.Proof.SeedBijections
import AutoDiag.Proof.Selection

/-!
# The helpers every provider rests on

Python rotates a word at once and counts its ones in its digits, where C# takes one
bit after the other. What is put into a byte of a word, written as bytes, taken apart
into nibbles or shown as text is read back.
-/

namespace AutoDiag.Proof

open Raise Security BitUtility

/-! ## Rotations -/

theorem pos_of_mask {c m : UInt32} {b : Bool} (hm : 0 < m) (h : c = if b then m else 0) :
    c > 0 ↔ b = true := by
  rw [h]
  cases b with
  | true => exact iff_of_true hm rfl
  | false => exact iff_of_false (lt_irrefl 0) Bool.false_ne_true

/-- The loop of C# rotates by as many places as it has turns. -/
theorem cRotateLeft_eq (w : UInt32) (count : Nat) :
    CSharp.BitUtility.rotateLeft w count = Word.rotation count w := by
  rw [← Word.rotateLeft1_iterate, CSharp.BitUtility.rotateLeft]
  congr 2
  funext val
  rw [← Word.shiftLeft_topBit]
  simp only [pos_of_mask (by decide) (Word.and_topBit val)]

theorem cRotateRight_eq (w : UInt32) (count : Nat) :
    CSharp.BitUtility.rotateRight w count = (Word.rotation count).symm w := by
  rw [← Word.rotateRight1_iterate, CSharp.BitUtility.rotateRight]
  congr 2
  funext val
  rw [← Word.shiftRight_lowBit]
  simp only [pos_of_mask (by decide) (Word.and_lowBit val)]

/-! ## Ones -/

/-- One turn of the loop: a word that is used up stays as it is. -/
theorem countTurn_eq (result : Nat) (val : UInt32) :
    CSharp.BitUtility.countTurn (result, val)
      = (result + (val.toNat.testBit 0).toNat, val >>> 1) := by
  have hlow : Word.lowBit val = val.toNat.testBit 0 := rfl
  rw [CSharp.BitUtility.countTurn]
  simp only [pos_of_mask (by decide) (Word.and_lowBit val), hlow]
  by_cases hval : val > 0
  · rw [if_pos hval]
    cases val.toNat.testBit 0 <;> rfl
  · have hzero : val = 0 := UInt32.toNat_inj.mp (Nat.eq_zero_of_not_pos hval)
    rw [if_neg hval, hzero]
    rfl

/-- After `n` turns the ones below place `n` are counted, and the rest of the word is left. -/
theorem countTurns_eq (w : UInt32) (n : Nat) :
    ((CSharp.BitUtility.countTurn)^[n] (0, w)).1
        = ((List.range n).filter fun i => w.toNat.testBit i).length
      ∧ ((CSharp.BitUtility.countTurn)^[n] (0, w)).2.toNat = w.toNat >>> n := by
  induction n with
  | zero => exact ⟨rfl, rfl⟩
  | succ n ih =>
    obtain ⟨hcount, hrest⟩ := ih
    rw [Function.iterate_succ_apply', ← Prod.mk.eta (p := CSharp.BitUtility.countTurn^[n] (0, w)),
      countTurn_eq, hrest, hcount]
    refine ⟨?_, ?_⟩
    · rw [Nat.testBit_shiftRight, Nat.add_zero, List.range_succ, List.filter_append,
        List.length_append]
      cases hbit : w.toNat.testBit n <;> simp [hbit]
    · rw [UInt32.toNat_shiftRight, hrest]
      exact (Nat.shiftRight_add w.toNat n 1).symm

theorem countOnes_eq (w : UInt32) :
    countOnes w.toNat = CSharp.BitUtility.countOnes w
      ∧ ((CSharp.BitUtility.countTurn)^[32] (0, w)).2 = 0 := by
  obtain ⟨hcount, hrest⟩ := countTurns_eq w 32
  refine ⟨?_, UInt32.toNat_inj.mp ?_⟩
  · rw [countOnes, toNat_and_u32, CSharp.BitUtility.countOnes, hcount]
  · rw [hrest, Nat.shiftRight_eq_div_pow]
    exact Nat.div_eq_of_lt w.toNat_lt

/-- **The closed forms are the loops.** Of the word that is counted nothing is left over. -/
theorem bitLoops_agree (w : UInt32) (count : Nat) :
    rotateLeft w.toNat count = (CSharp.BitUtility.rotateLeft w count).toNat
      ∧ rotateRight w.toNat count = (CSharp.BitUtility.rotateRight w count).toNat
      ∧ rotateRight (rotateLeft w.toNat count) count = w.toNat
      ∧ rotateLeft (rotateRight w.toNat count) count = w.toNat
      ∧ countOnes w.toNat = CSharp.BitUtility.countOnes w
      ∧ ((CSharp.BitUtility.countTurn)^[32] (0, w)).2 = 0 := by
  refine ⟨?_, ?_, ?_, ?_, countOnes_eq w⟩
  · rw [cRotateLeft_eq, rotation_toNat]
  · rw [cRotateRight_eq, rotation_symm_toNat]
  · rw [← rotation_toNat, ← rotation_symm_toNat, Equiv.symm_apply_apply]
  · rw [← rotation_symm_toNat, ← rotation_toNat, Equiv.apply_symm_apply]

/-! ## Bytes of a word -/

/-- A bit of a word with a byte set comes from that byte, or is as it was. -/
theorem testBit_setByte {v b i x : Nat} (hi : i ≤ 3) (hx : setByte v b i = .ok x) {k : Nat}
    (hk : k < 32) : x.testBit k
      = if 8 * i ≤ k ∧ k < 8 * i + 8 then b.testBit (k - 8 * i) else v.testBit k := by
  unfold setByte at hx
  rw [if_neg (by omega), shiftCount, if_neg (by omega), ok_bind,
    show (8 * (i : Int)).toNat = 8 * i by omega] at hx
  have hx := Except.ok.inj hx
  rw [← hx]
  simp only [Nat.testBit_and, Nat.testBit_or, Nat.testBit_xor, Nat.testBit_shiftLeft,
    show u32 = 2 ^ 32 - 1 from rfl, show (0xFF : Nat) = 2 ^ 8 - 1 from rfl,
    Nat.testBit_two_pow_sub_one, decide_eq_true hk]
  by_cases hlow : 8 * i ≤ k
  · by_cases hhigh : k < 8 * i + 8
    · simp [hlow, hhigh, show k - 8 * i < 8 by omega]
    · simp [hlow, hhigh, show ¬ k - 8 * i < 8 by omega]
  · simp [hlow]

/-- **The byte that was set is read back, and every other one is left alone.** -/
theorem getByte_setByte (v : Nat) (b : UInt8) {i j : Nat} (hi : i ≤ 3) (hj : j ≤ 3) :
    ∃ y, getByte v j = .ok y
      ∧ (do getByte (← setByte v b.toNat i) j) = .ok (if i = j then b.toNat else y) := by
  obtain ⟨x, hx⟩ := @setByte_returns v b.toNat i hi
  refine ⟨_, getByte_eq v hj, ?_⟩
  rw [hx, ok_bind, getByte_eq x hj]
  refine congrArg Except.ok (Nat.eq_of_testBit_eq fun k => ?_)
  by_cases hk : k < 8
  · rw [testBit_byte x j hk, testBit_setByte hi hx (by omega)]
    by_cases hij : i = j
    · rw [if_pos (by omega), if_pos hij, hij, Nat.add_sub_cancel_left]
    · rw [if_neg (by omega), if_neg hij, testBit_byte v j hk]
  · -- a byte has no bits from the eighth on
    have hpow : 2 ^ 8 ≤ 2 ^ k := Nat.pow_le_pow_right (by decide) (by omega)
    have hbyte : ∀ z : Nat, z < 256 → z.testBit k = false := fun z hz =>
      Nat.testBit_lt_two_pow (Nat.lt_of_lt_of_le hz hpow)
    have hand : ∀ z : Nat, z &&& 0xFF < 256 := fun z =>
      Nat.lt_of_le_of_lt Nat.and_le_right (by decide)
    rw [hbyte _ (hand _)]
    split
    · exact (hbyte _ b.toNat_lt).symm
    · exact (hbyte _ (hand _)).symm

/-! ## Words and their four bytes -/

theorem bytesToInt_intToBytes (w : UInt32) (e : Endian) :
    bytesToInt (intToBytes w.toNat e) e 0 = w.toNat := by
  have hbig := bytesToInt_toBytes w
  rw [← intToBytes_word] at hbig
  cases e with
  | big => exact hbig
  | little => exact hbig

theorem intToBytes_bytesToInt {data : Bytes} (h : data.length = 4) (e : Endian) :
    intToBytes (bytesToInt data e 0) e = data := by
  have hbig : ∀ b : Bytes, b.length = 4 → intToBytes (bytesToInt b .big 0) .big = b := by
    intro b hb
    obtain ⟨w, -, rfl⟩ := toBytes_bijOn.surjOn hb
    rw [bytesToInt_toBytes, intToBytes_word]
  cases e with
  | big => exact hbig data h
  | little =>
    have hbytes := hbig data.reverse (by rw [List.length_reverse, h])
    have hwhole : Py.slice data 0 (0 + 4) = data := List.take_of_length_le (by omega)
    have hword : bytesToInt data .little 0 = bytesToInt data.reverse .big 0 := by
      have hreverse : Py.slice data.reverse 0 (0 + 4) = data.reverse :=
        List.take_of_length_le (by rw [List.length_reverse]; omega)
      simp only [bytesToInt, Py.ofBytesLittle, hwhole, hreverse]
    calc intToBytes (bytesToInt data .little 0) .little
        = (intToBytes (bytesToInt data.reverse .big 0) .big).reverse := by rw [hword]; rfl
      _ = data := by rw [hbytes, List.reverse_reverse]

/-! ## Nibbles and text -/

/-- **Exactly nibbles come apart again.** -/
theorem expandNibbles_collapseNibbles {nibbles : Bytes} (h : nibbles.length % 2 = 0) :
    (collapseNibbles nibbles).map expandNibbles = .ok nibbles ↔ ∀ n ∈ nibbles, n.toNat < 16 := by
  obtain ⟨data, hdata⟩ := returns_collapseNibbles h
  rw [hdata]
  constructor
  · intro heq n hn
    rw [← Except.ok.inj heq] at hn
    exact nibble_lt hn
  · intro hlt
    exact congrArg Except.ok (expandNibbles_of_collapseNibbles hlt hdata)

/-- What is filtered away between the parts leaves them joined. -/
theorem filter_intercalate {α : Type} {p : α → Bool} {sep : List α} (h : sep.filter p = [])
    (parts : List (List α)) :
    (sep.intercalate parts).filter p = parts.flatMap fun part => part.filter p := by
  induction parts with
  | nil => rfl
  | cons part parts ih =>
    cases parts with
    | nil => simp [List.intercalate]
    | cons next parts =>
      rw [List.intercalate_cons_cons, List.filter_append, List.filter_append, h, List.append_nil,
        ih]
      rfl

theorem bytesFromHex_bytesToHex (data : Bytes) (spaced : Bool) :
    bytesFromHex (bytesToHex data spaced) = .ok data := by
  have hsep : Py.remove ' ' (if spaced then [' '] else []) = [] := by cases spaced <;> rfl
  have hdigits : ∀ b : UInt8, Py.remove ' ' (Hex.ofByte b) = Hex.ofByte b := fun b =>
    Py.remove_eq_self fun hmem => absurd (Hex.ofByte_mem hmem) (by decide)
  have htext : Py.remove ' ' (bytesToHex data spaced) = Hex.ofBytes data := by
    rw [bytesToHex, Py.remove, filter_intercalate hsep, List.flatMap_map]
    exact List.flatMap_congr fun b _ => hdigits b
  rw [bytesFromHex, htext, Py.fromHex_ofBytes]

/-- **What the helpers write is read back.** -/
theorem byteHelpers_laws :
    (∀ (v : UInt32) (b : UInt8) (i j : Fin 4), ∃ y, getByte v.toNat j.val = .ok y
        ∧ (do getByte (← setByte v.toNat b.toNat i.val) j.val)
          = .ok (if i = j then b.toNat else y))
      ∧ (∀ (w : UInt32) (e : Endian), bytesToInt (intToBytes w.toNat e) e 0 = w.toNat)
      ∧ (∀ (data : Bytes) (e : Endian), data.length = 4 →
        intToBytes (bytesToInt data e 0) e = data)
      ∧ (∀ data : Bytes, collapseNibbles (expandNibbles data) = .ok data)
      ∧ (∀ nibbles : Bytes, nibbles.length % 2 = 0 →
        ((collapseNibbles nibbles).map expandNibbles = .ok nibbles
          ↔ ∀ n ∈ nibbles, n.toNat < 16))
      ∧ ∀ (data : Bytes) (spaced : Bool), bytesFromHex (bytesToHex data spaced) = .ok data := by
  refine ⟨?_, bytesToInt_intToBytes, ?_, collapseNibbles_expandNibbles, ?_,
    bytesFromHex_bytesToHex⟩
  · intro v b i j
    have hread := @getByte_setByte v.toNat b i.val j.val (by omega) (by omega)
    simpa only [Fin.val_inj] using hread
  · exact fun data e h => intToBytes_bytesToInt h e
  · exact fun nibbles h => expandNibbles_collapseNibbles h

end AutoDiag.Proof
