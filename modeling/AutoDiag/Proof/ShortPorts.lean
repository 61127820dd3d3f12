import AutoDiag.CSharp.ClusterProviders
import AutoDiag.Lib.BitField
import AutoDiag.Proof.FixedPorts
import AutoDiag.Proof.HondaPort
import AutoDiag.Proof.IC204Port
import AutoDiag.Proof.KeyLengths
import AutoDiag.Proof.WordPorts
import AutoDiag.Security.ClusterProviders

/-!
# The short providers are the C# originals

The providers with keys of two bytes, those that copy the seed, and the tables of IC172.
A seed or a parameter of two bytes is a number on both sides, and Python cuts to 32 bits
what a `uint` wraps. The list at the end also has the providers of `FixedPorts` and
`IC204Port`.
-/

namespace AutoDiag.Proof

open Raise Security BitUtility

variable {parameters : List Parameter}

/-! ## Writing the key -/

/-- A byte that has a place is stored at it. -/
theorem store_eq {a : Bytes} {i : Nat} (h : i < a.length) (x : UInt8) :
    CSharp.store a i x = .ok (a.set i x) := if_pos h

/-- The loop leaves the bytes it was told to write, and behind them what was there. -/
theorem fill_eq {b : Nat → Except CSharp.Exception UInt8} {c : Nat → UInt8} {n : Nat}
    (hb : ∀ i < n, b i = .ok (c i)) {outKey : Bytes} (h : n ≤ outKey.length) :
    CSharp.fill b n outKey = .ok ((List.range n).map c ++ outKey.drop n) := by
  induction n with
  | zero => rfl
  | succ n ih =>
    have hstart := ih (fun i hi => hb i (by omega)) (by omega)
    have hlen : ((List.range n).map c).length = n := by rw [List.length_map, List.length_range]
    rw [CSharp.fill] at hstart ⊢
    rw [List.range_succ, List.foldlM_append, hstart, ok_bind, List.foldlM_cons, hb n (by omega),
      ok_bind, store_eq (by rw [List.length_append, List.length_drop]; omega), ok_bind]
    refine congrArg Except.ok ?_
    rw [List.set_append_right _ _ (by omega), hlen, Nat.sub_self,
      List.drop_eq_getElem_cons (by omega : n < outKey.length), List.map_append, List.append_assoc]
    rfl

/-- The key is written over the two bytes of the array. -/
theorem storeTwo_eq {outKey : Bytes} (h : outKey.length = 2) (key : UInt8 × UInt8) :
    CSharp.storeTwo outKey key = .ok (some [key.1, key.2]) := by
  match outKey, h with
  | [_, _], _ => rfl

/-- The two lowest bytes, higher one first. -/
theorem lowBytes_eq (key : UInt32) :
    [(CSharp.lowBytes key).1, (CSharp.lowBytes key).2] = twoBytes key.toNat := by
  simp [CSharp.lowBytes, twoBytes, toItem, ← UInt8.toNat_inj]

/-! ## Reading two bytes -/

/-- Two bytes make the same number in a `uint`. -/
theorem joinUint_toNat (hi lo : UInt8) : (CSharp.joinUint hi lo).toNat = joinBytes hi lo := by
  have hhi : hi.toNat <<< 8 % 2 ^ 32 = hi.toNat <<< 8 :=
    Nat.mod_eq_of_lt (by have := hi.toNat_lt; rw [Nat.shiftLeft_eq]; omega)
  rw [CSharp.joinUint, UInt32.toNat_or, UInt32.toNat_shiftLeft, UInt8.toNat_toUInt32,
    UInt8.toNat_toUInt32, joinBytes, Nat.or_comm]
  exact congrArg (· ||| lo.toNat) hhi

theorem joinBytes_masked (hi lo : UInt8) :
    joinBytes hi lo &&& u32 = (CSharp.joinUint hi lo).toNat := by
  rw [← joinUint_toNat, toNat_and_u32]

/-- A seed of two bytes is read alike. -/
theorem seed_two {seed : Bytes} (h : seed.length = 2) :
    ∃ s0 s1, Py.index seed 0 = .ok s0 ∧ Py.index seed 1 = .ok s1
      ∧ CSharp.item seed 0 = .ok s0 ∧ CSharp.item seed 1 = .ok s1 := by
  match seed, h with
  | [s0, s1], _ => exact ⟨s0, s1, rfl, rfl, rfl, rfl⟩

/-! ## Copies of the seed -/

theorem ArrayReverseAlgo_related (seed outKey : Bytes) (level : Int) :
    Related Eq (ArrayReverseAlgo.generateKey seed outKey.length level parameters)
      (CSharp.ArrayReverseAlgo.generateKey seed outKey level parameters) := by
  refine related_ite ?_ (fun _ => related_ok rfl) fun _ => related_ok rfl
  exact not_congr Int.natCast_inj

/-- C# writes the key place by place, Python zips. -/
theorem XorAlgo_related (h : WrittenAny parameters) (seed outKey : Bytes) (level : Int) :
    Related Eq (XorAlgo.generateKey seed outKey.length level parameters)
      (CSharp.XorAlgo.generateKey seed outKey level parameters) := by
  refine related_bind (paramBytes_alike h "K") ?_
  intro xorKey _ hk
  subst hk
  refine related_ite (or_congr (not_congr Int.natCast_inj) Iff.rfl) (fun _ => related_pure rfl) ?_
  intro hlen
  obtain ⟨hout, hkey⟩ := not_or.mp hlen
  rw [not_not] at hout hkey
  have hb : ∀ i < seed.length, (do
      return CSharp.byteOfInt (CSharp.intOfByte (← CSharp.item seed i)
        ^^^ CSharp.intOfByte (← CSharp.item xorKey i)) : Except CSharp.Exception UInt8)
      = .ok (seed[i]! ^^^ xorKey[i]!) := by
    intro i hi
    have hseed : seed[i]? = some seed[i]! := by
      rw [List.getElem?_eq_getElem hi, List.getElem!_eq_getElem?_getD, List.getElem?_eq_getElem hi]
      rfl
    have hxor : xorKey[i]? = some xorKey[i]! := by
      rw [List.getElem?_eq_getElem (hkey ▸ hi), List.getElem!_eq_getElem?_getD,
        List.getElem?_eq_getElem (hkey ▸ hi)]
      rfl
    rw [item_ofNat hseed, item_ofNat hxor, ok_bind, ok_bind, byteOfInt_xor]
    rfl
  dsimp only
  rw [fill_eq hb (by omega), ok_bind, List.drop_eq_nil_of_le (by omega), List.append_nil]
  refine related_pure (congrArg some ?_)
  refine List.ext_getElem (by simp [← hkey]) fun i h1 h2 => ?_
  simp at h1 h2 ⊢
  rw [List.getElem?_eq_getElem h1.1, List.getElem?_eq_getElem h1.2]
  rfl

/-- The seed comes back as it is, if it has the length. -/
theorem copySeed_related (n : Nat) (seed outKey : Bytes) (level : Int) :
    Related Eq (copySeed n seed outKey.length level parameters)
      (CSharp.copySeed n seed outKey level parameters) := by
  refine related_guard fun hseed hkey => ?_
  have hb : ∀ i < n, CSharp.item seed (i : Int) = .ok seed[i]! := by
    intro i hi
    refine item_ofNat ?_
    rw [List.getElem?_eq_getElem (by omega), List.getElem!_eq_getElem?_getD,
      List.getElem?_eq_getElem (by omega)]
    rfl
  rw [fill_eq hb (by omega), ok_bind, List.drop_eq_nil_of_le (by omega), List.append_nil]
  refine related_ok (congrArg some ?_)
  refine List.ext_getElem (by simp [hseed]) fun i h1 h2 => ?_
  simp [h1]

/-! ## Sixteen bits -/

/-- It is enough that the two bytes of the key are the same. -/
theorem ofTwoBytes_related {key : UInt8 → UInt8 → Bytes} {key' : UInt8 → UInt8 → UInt8 × UInt8}
    (h : ∀ s0 s1, key s0 s1 = [(key' s0 s1).1, (key' s0 s1).2]) (seed outKey : Bytes)
    (level : Int) :
    Related Eq (ofTwoBytes key seed outKey.length level parameters)
      (CSharp.ofTwoBytes key' seed outKey level parameters) := by
  refine related_guard fun hseed hkey => ?_
  obtain ⟨s0, s1, h0, h1, h0', h1'⟩ := seed_two hseed
  rw [h0, h1, h0', h1', ok_bind, ok_bind, ok_bind, ok_bind, storeTwo_eq hkey, h]
  exact related_ok rfl

/-- Sums and shifts of a word of sixteen bits, cut to bytes at the end. -/
theorem ESPSecurityAlgoLevel1_related (seed outKey : Bytes) (level : Int) :
    Related Eq (ESPSecurityAlgoLevel1.generateKey seed outKey.length level parameters)
      (CSharp.ESPSecurityAlgoLevel1.generateKey seed outKey level parameters) := by
  refine ofTwoBytes_related (fun s0 s1 => ?_) seed outKey level
  have hseed : (s1.toNat ||| (s0.toNat &&& u32) <<< 8) &&& u32 = (CSharp.joinUint s0 s1).toNat := by
    rw [← UInt8.toNat_toUInt32 s0, toNat_and_u32, Nat.or_comm, ← joinBytes_masked]
    rfl
  dsimp only
  rw [lowBytes_eq, hseed]
  generalize CSharp.joinUint s0 s1 = w
  have hshift : w.toNat >>> 3 = (w >>> 3).toNat := by rw [UInt32.toNat_shiftRight]; rfl
  have hfour : 4 * (w >>> 3 ^^^ w).toNat &&& u32 = ((4 : UInt32) * (w >>> 3 ^^^ w)).toNat := by
    rw [and_u32, UInt32.toNat_mul]
    rfl
  rw [hshift, ← UInt32.toNat_xor, toNat_and_u32, hfour, ← UInt32.toNat_xor, toNat_and_u32]

theorem ESP9212Algo1_related (seed outKey : Bytes) (level : Int) :
    Related Eq (ESP9212Algo1.generateKey seed outKey.length level parameters)
      (CSharp.ESP9212Algo1.generateKey seed outKey level parameters) := by
  refine ofTwoBytes_related (fun s0 s1 => ?_) seed outKey level
  have hs0 : s0.toNat &&& u32 = s0.toUInt32.toNat := toNat_and_u32 s0.toUInt32
  have hshift : s0.toUInt32.toNat <<< 8 &&& u32 = (s0.toUInt32 <<< 8).toNat := by
    rw [and_u32, UInt32.toNat_shiftLeft]
    rfl
  have hval : (s0.toUInt32 <<< 8).toNat ||| s1.toNat
      = (s0.toUInt32 <<< 8 ||| s1.toUInt32).toNat := by
    rw [UInt32.toNat_or]
    rfl
  dsimp only
  rw [lowBytes_eq, hs0, hshift, hval]
  generalize s0.toUInt32 <<< 8 ||| s1.toUInt32 = w
  have hdiv : w.toNat / 4 = (w / 4).toNat := by rw [UInt32.toNat_div]; rfl
  have htimes : (w / 4 ^^^ w).toNat * 8 &&& u32 = ((w / 4 ^^^ w) * 8).toNat := by
    rw [and_u32, UInt32.toNat_mul]
    rfl
  rw [hdiv, ← UInt32.toNat_xor, htimes, ← UInt32.toNat_xor]

/-- The last byte of an `int` is that of the number. -/
theorem byteOfInt_lowByte (x : Int32) : CSharp.byteOfInt x = Py.lowByte x.toInt := by
  rw [← UInt8.toNat_inj, CSharp.byteOfInt, Py.lowByte, ← Int32.toInt_toBitVec,
    BitVec.toInt_eq_toNat_bmod, UInt32.toNat_toUInt8, UInt8.toNat_ofNat']
  show x.toBitVec.toNat % 2 ^ 8 = _
  rw [Int.bmod]
  have hlt := x.toBitVec.isLt
  split <;> omega

/-- A byte as an `int` and as a `long`, as it is and shifted to the second place. -/
theorem byte_widened : ∀ b : UInt8, (CSharp.intOfByte b).toInt = b.toNat
    ∧ (CSharp.intOfByte b <<< 8).toInt = (b.toNat <<< 8 : Nat)
    ∧ (CSharp.intOfByte b).toInt64 = Int64.ofNat b.toNat
    ∧ (CSharp.intOfByte b <<< 8).toInt64 = Int64.ofNat (b.toNat <<< 8) :=
  BitField.forall_byte (by decide +kernel)

/-- An `int` is shifted with its sign, as Python shifts. -/
theorem shiftRight_toInt (x : Int32) : (x >>> 8).toInt = x.toInt >>> (8 : Nat) := by
  rw [← Int32.toInt_toBitVec, Int32.toBitVec_shiftRight, BitVec.sshiftRight_eq',
    BitVec.toInt_sshiftRight, Int32.toInt_toBitVec]
  rfl

/-- `~x - c`, of numbers far from the bounds of an `int`. -/
theorem complement_toInt {x c : Int32} {n k : Nat} (hx : x.toInt = n) (hn : n < 2 ^ 20)
    (hc : c.toInt = k) (hk : k < 2 ^ 20) : (~~~x - c).toInt = -(n : Int) - 1 - k := by
  have hnot : (~~~x).toInt = -(n : Int) - 1 := by
    rw [Int32.toInt_not, hx, Int.bmod_eq_of_le (by omega) (by omega)]
  rw [Int32.toInt_sub, hnot, hc, Int.bmod_eq_of_le (by omega) (by omega)]

/-- The numbers run below zero, on both sides alike. -/
theorem HU45Algo_related (seed outKey : Bytes) (level : Int) :
    Related Eq (HU45Algo.generateKey seed outKey.length level parameters)
      (CSharp.HU45Algo.generateKey seed outKey level parameters) := by
  refine ofTwoBytes_related (fun s0 s1 => ?_) seed outKey level
  have h0 := (byte_widened s0).1
  have h1 := (byte_widened s1).2.1
  have hs0 := s0.toNat_lt
  have hs1 : s1.toNat <<< 8 < 0x10000 := by
    have := s1.toNat_lt
    rw [Nat.shiftLeft_eq]
    omega
  have hsum : (CSharp.intOfByte s0 + CSharp.intOfByte s1 <<< 8).toInt
      = (s0.toNat + s1.toNat <<< 8 : Nat) := by
    rw [Int32.toInt_add, h0, h1, ← Int.natCast_add,
      Int.bmod_eq_of_le (by omega) (by omega)]
  dsimp only
  rw [byteOfInt_lowByte, byteOfInt_lowByte, shiftRight_toInt,
    complement_toInt (c := 0x307) (k := 0x307) hsum (by omega) rfl (by decide),
    complement_toInt (c := 7) (k := 7) h0 (by omega) rfl (by decide)]
  rfl

theorem VGSSecurityAlgo2Bytes_related (h : WrittenAny parameters) (seed outKey : Bytes)
    (level : Int) :
    Related Eq (VGSSecurityAlgo2Bytes.generateKey seed outKey.length level parameters)
      (CSharp.VGSSecurityAlgo2Bytes.generateKey seed outKey level parameters) := by
  refine related_bind (paramBytes_alike h "K") ?_
  intro k _ hk
  subst hk
  refine related_bind (indexOf_related k 1) ?_
  intro k1 _ hk1
  subst hk1
  refine related_bind (indexOf_related k 0) ?_
  intro k0 _ hk0
  subst hk0
  refine related_guard fun hseed hkey => ?_
  obtain ⟨s0, s1, h0, h1, h0', h1'⟩ := seed_two hseed
  rw [h0, h1, h0', h1', ok_bind, ok_bind, ok_bind, ok_bind, storeTwo_eq hkey, lowBytes_eq,
    joinBytes_masked, joinBytes_masked]
  dsimp only
  rw [← UInt32.toNat_xor, toNat_and_u32, and_u32, ← UInt32.toNat_mul]
  exact related_ok rfl

/-! ## The loop of `NetaAlgo1` -/

/-- Doubling wraps around on both sides of the equation. -/
theorem ofNat_shiftLeft_one (n : Nat) : Int64.ofNat n <<< 1 = Int64.ofNat (n <<< 1) := by
  rw [← Int64.toBitVec_inj]
  refine BitVec.eq_of_toNat_eq ?_
  simp [Nat.shiftLeft_eq]

/-- Below the sign bit a `long` is shifted as the number is. -/
theorem ofNat_shiftRight_eight {n : Nat} (h : n < 2 ^ 63) :
    Int64.ofNat n >>> 8 = Int64.ofNat (n >>> 8) := by
  have hmsb : (BitVec.ofNat 64 n).msb = false := by
    rw [BitVec.msb_eq_false_iff_two_mul_lt, BitVec.toNat_ofNat]
    omega
  rw [← Int64.toBitVec_inj, Int64.toBitVec_shiftRight]
  refine (BitVec.sshiftRight_eq_of_msb_false (s := 8) hmsb).trans ?_
  refine BitVec.eq_of_toNat_eq ?_
  simp [Nat.shiftRight_eq_div_pow]
  omega

theorem ofNat_eq_zero {n : Nat} (h : n < 2 ^ 63) : Int64.ofNat n = 0 ↔ n = 0 := by
  rw [← Int64.toInt_inj, Int64.toInt_ofNat_of_lt h]
  exact Int.natCast_eq_zero

theorem byteOfLong_ofNat (n : Nat) : CSharp.byteOfLong (Int64.ofNat n) = UInt8.ofNat n := by
  rw [← UInt8.toNat_inj]
  simp [CSharp.byteOfLong]

/-- A `long` that holds a number of sixteen bits. -/
def Holds16 (n : Nat) (x : Int64) : Prop := x = Int64.ofNat n ∧ n < 2 ^ 16

/-- What is masked holds sixteen bits, whatever it was. -/
theorem masked_holds (n : Nat) {x : Int64} (h : x = Int64.ofNat n) :
    Holds16 (n &&& 0xFFFF) (x &&& 0xFFFF) := by
  refine ⟨?_, Nat.lt_of_le_of_lt Nat.and_le_right (by decide)⟩
  rw [h, Wrap.ofNat_and]
  rfl

/-- One turn of the shift register: shift, and the polynomial if a bit fell out. -/
theorem netaTurn_holds {n : Nat} {x : Int64} (h : Holds16 n x) :
    Holds16 (NetaAlgo1.turn n) (CSharp.NetaAlgo1.turn x) := by
  obtain ⟨rfl, hn⟩ := h
  have hbit : ∀ m : Nat, Int64.ofNat n &&& Int64.ofNat m = 0 ↔ n &&& m = 0 := by
    intro m
    have hle : n &&& m ≤ n := Nat.and_le_left
    rw [← Wrap.ofNat_and, ofNat_eq_zero (by omega)]
  have htop : Int64.ofNat n &&& 0x8000 = 0 ↔ n &&& 0x8000 = 0 := hbit 0x8000
  have hmid : Int64.ofNat n &&& 0x80 = 0 ↔ n &&& 0x80 = 0 := hbit 0x80
  unfold NetaAlgo1.turn CSharp.NetaAlgo1.turn
  by_cases h15 : n &&& 0x8000 = 0
  · rw [if_pos h15, if_pos (htop.mpr h15)]
    exact masked_holds _ (ofNat_shiftLeft_one n)
  · rw [if_neg h15, if_neg (mt htop.mp h15)]
    by_cases h7 : n &&& 0x80 = 0
    · rw [if_pos h7, if_pos (hmid.mpr h7)]
      refine masked_holds _ ?_
      rw [ofNat_shiftLeft_one, Wrap.ofNat_xor]
      rfl
    · rw [if_neg h7, if_neg (mt hmid.mp h7)]
      refine masked_holds _ ?_
      rw [ofNat_shiftLeft_one, Wrap.ofNat_xor]
      rfl

/-- The turns of one byte, by induction on their number. -/
theorem netaTurns_hold (k : Nat) {n : Nat} {x : Int64} (h : Holds16 n x) :
    Holds16 (NetaAlgo1.turn^[k] n) (CSharp.NetaAlgo1.turn^[k] x) := by
  induction k generalizing n x with
  | zero => exact h
  | succ k ih => exact ih (netaTurn_holds h)

theorem shifted_lt (b : UInt8) : b.toNat <<< 8 < 2 ^ 16 := by
  have hlt := b.toNat_lt
  rw [Nat.shiftLeft_eq]
  omega

theorem netaStart_holds (p0 p1 : UInt8) : Holds16 (joinBytes p0 p1)
    (CSharp.intOfByte p1 ||| CSharp.intOfByte p0 <<< 8).toInt64 := by
  refine ⟨?_, joinBytes_lt p0 p1⟩
  rw [Int32.toInt64_or, (byte_widened p1).2.2.1, (byte_widened p0).2.2.2, joinBytes, Wrap.ofNat_or, Int64.or_comm]

/-- The bytes of the seed are mixed in one by one, eight turns each. -/
theorem netaBytes_hold (seed : Bytes) {n : Nat} {x : Int64} (h : Holds16 n x) :
    Holds16 (seed.foldl (fun v b => NetaAlgo1.turn^[8] (v ^^^ b.toNat <<< 8)) n)
      (seed.foldl (fun v b => CSharp.NetaAlgo1.turn^[8]
        (v ^^^ (CSharp.intOfByte b <<< 8 : Int32).toInt64)) x) := by
  induction seed generalizing n x with
  | nil => exact h
  | cons b seed ih =>
    refine ih (netaTurns_hold 8 ⟨?_, ?_⟩)
    · rw [h.1, (byte_widened b).2.2.2, Wrap.ofNat_xor]
    · exact Nat.xor_lt_two_pow h.2 (shifted_lt b)

theorem NetaAlgo1_related (h : WrittenAny parameters) (seed outKey : Bytes) (level : Int) :
    Related Eq (NetaAlgo1.generateKey seed outKey.length level parameters)
      (CSharp.NetaAlgo1.generateKey seed outKey level parameters) := by
  refine related_ite (not_congr Int.natCast_inj) (fun _ => related_pure rfl) fun hkey => ?_
  refine related_ite Iff.rfl (fun _ => related_pure rfl) fun hseed => ?_
  refine related_bind (paramBytes_alike h "Pin") ?_
  intro pin _ hpin
  subst hpin
  refine related_bind (indexOf_related pin 1) ?_
  intro p1 _ h1
  subst h1
  refine related_bind (indexOf_related pin 0) ?_
  intro p0 _ h0
  subst h0
  obtain ⟨hv, hlt⟩ := netaBytes_hold seed (netaStart_holds p0 p1)
  dsimp only
  rw [hv, ofNat_shiftRight_eight (by omega), byteOfLong_ofNat, byteOfLong_ofNat,
    storeTwo_eq (by omega)]
  exact related_ok rfl

/-! ## The tables of Bosch and Continental -/

theorem shiftRight_toNat (w : UInt32) : w.toNat >>> 8 = (w >>> 8).toNat := by
  rw [UInt32.toNat_shiftRight]
  rfl

/-- An entry of a table, times the seed. -/
theorem entryTimes_toNat (entry : UInt8) (w : UInt32) :
    entry.toNat * w.toNat &&& u32 = (entry.toUInt32 * w).toNat := by
  rw [and_u32, UInt32.toNat_mul, UInt8.toNat_toUInt32]

/-- The tests of the `switch` are the same, and so the row of the table. -/
theorem PowertrainBoschContiSecurityAlgo1_related (h : WrittenAny parameters)
    (seed outKey : Bytes) (level : Int) :
    Related Eq (PowertrainBoschContiSecurityAlgo1.generateKey seed outKey.length level parameters)
      (CSharp.PowertrainBoschContiSecurityAlgo1.generateKey seed outKey level parameters) := by
  refine related_bind (paramBytes_alike h "ubTable") ?_
  intro ubTable _ htable
  subst htable
  refine related_bind (paramBytes_alike h "Mask") ?_
  intro mask _ hmask
  subst hmask
  refine related_guard fun hseed hkey => ?_
  obtain ⟨s0, s1, h0, h1, h0', h1'⟩ := seed_two hseed
  rw [h0, h1, h0', h1', ok_bind, ok_bind, ok_bind, ok_bind, joinBytes_masked]
  refine related_bind (indexOf_related mask 0) ?_
  intro m0 _ hm0
  subst hm0
  refine related_bind (indexOf_related mask 1) ?_
  intro m1 _ hm1
  subst hm1
  rw [joinBytes_masked]
  generalize CSharp.joinUint s0 s1 = seedWord
  generalize CSharp.joinUint m0 m1 = maskWord
  -- bit by bit, the word is masked and shifted as the number is
  have hbits : ∀ bit count : UInt32,
      (seedWord.toNat &&& maskWord.toNat &&& bit.toNat) >>> (count.toNat % 32)
        = ((seedWord &&& maskWord &&& bit) >>> count).toNat := by
    intro bit count
    rw [UInt32.toNat_shiftRight, UInt32.toNat_and, UInt32.toNat_and]
  have h12 := hbits 0x4000 12
  have h9 := hbits 0x200 8
  have h8 := hbits 0x100 8
  have hplace : (seedWord.toNat &&& maskWord.toNat &&& 0x4000) >>> 12
      ||| (seedWord.toNat &&& maskWord.toNat &&& 0x200) >>> 8
      ||| (seedWord.toNat &&& maskWord.toNat &&& 0x100) >>> 8
      = ((seedWord &&& maskWord &&& 0x4000) >>> 12 ||| (seedWord &&& maskWord &&& 0x200) >>> 8
        ||| (seedWord &&& maskWord &&& 0x100) >>> 8).toNat := by
    rw [UInt32.toNat_or, UInt32.toNat_or, ← h12, ← h9, ← h8]
    rfl
  dsimp only
  rw [hplace]
  refine related_bind (indexOf_related ubTable _) ?_
  intro entry _ hentry
  subst hentry
  have htop : (entry.toUInt32 * seedWord).toNat >>> 8 >>> 8
      = ((entry.toUInt32 * seedWord) >>> 16).toNat := by
    rw [UInt32.toNat_shiftRight, ← Nat.shiftRight_add]
    rfl
  rw [storeTwo_eq hkey, masked_byte, masked_byte, entryTimes_toNat, twoBytes, htop,
    shiftRight_toNat]
  exact related_ok rfl

namespace PowertrainBoschContiSecurityAlgo2

open CSharp.PowertrainBoschContiSecurityAlgo2 in
/-- The numbers of the variables. -/
def numbers (s : State) : Security.PowertrainBoschContiSecurityAlgo2.State :=
  ⟨s.shiftIndexA.toNat, s.shiftIndexB.toNat, s.activatedBits.toNat⟩

theorem and_pos (a b : UInt32) : 0 < a.toNat &&& b.toNat ↔ a &&& b > 0 := by
  rw [gt_iff_lt, UInt32.lt_iff_toNat_lt, UInt32.toNat_and]
  rfl

/-- The mask doubles until it falls out of the word. -/
theorem double_toNat (a : UInt32) : a.toNat * 2 &&& u32 = (a * 2).toNat := by
  rw [and_u32, UInt32.toNat_mul]
  rfl

/-- One turn of the loop over the bits of the mask. -/
theorem turn_numbers (x m : UInt32) (s : CSharp.PowertrainBoschContiSecurityAlgo2.State) :
    Security.PowertrainBoschContiSecurityAlgo2.turn x.toNat m.toNat (numbers s)
      = numbers (CSharp.PowertrainBoschContiSecurityAlgo2.turn x m s) := by
  rw [Security.PowertrainBoschContiSecurityAlgo2.turn, CSharp.PowertrainBoschContiSecurityAlgo2.turn,
    numbers, numbers]
  dsimp only
  rw [double_toNat, double_toNat]
  simp only [and_pos, UInt32.toNat_or, apply_ite UInt32.toNat]

/-- All the turns, so the bits that the mask lets through are closed up alike. -/
theorem activatedBits_toNat (x m : UInt32) :
    Security.PowertrainBoschContiSecurityAlgo2.activatedBits x.toNat m.toNat
      = (CSharp.PowertrainBoschContiSecurityAlgo2.activatedBits x m).toNat := by
  have hturns := (Function.Semiconj.iterate_right (f := numbers) (turn_numbers x m · |>.symm) 16)
    ⟨1, 1, 0⟩
  exact (congrArg (·.activatedBits) hturns).symm

theorem generateKey_related (h : WrittenAny parameters) (seed outKey : Bytes) (level : Int) :
    Related Eq
      (Security.PowertrainBoschContiSecurityAlgo2.generateKey seed outKey.length level parameters)
      (CSharp.PowertrainBoschContiSecurityAlgo2.generateKey seed outKey level parameters) := by
  refine related_bind (paramBytes_alike h "Table") ?_
  intro table _ htable
  subst htable
  refine related_bind (paramBytes_alike h "uwMasc") ?_
  intro uwMasc _ hmasc
  subst hmasc
  refine related_guard fun hseed hkey => ?_
  obtain ⟨s0, s1, h0, h1, h0', h1'⟩ := seed_two hseed
  rw [h0, h1, h0', h1', ok_bind, ok_bind, ok_bind, ok_bind, joinBytes_masked]
  refine related_bind (indexOf_related uwMasc 0) ?_
  intro m0 _ hm0
  subst hm0
  refine related_bind (indexOf_related uwMasc 1) ?_
  intro m1 _ hm1
  subst hm1
  rw [joinBytes_masked]
  dsimp only
  rw [activatedBits_toNat]
  refine related_bind (indexOf_related table _) ?_
  intro entry _ hentry
  subst hentry
  have hmask : ∀ w : UInt32, w.toNat &&& 0xFFFF = (w &&& 0xFFFF).toNat := by
    intro w
    rw [UInt32.toNat_and]
    rfl
  rw [storeTwo_eq hkey, masked_byte, masked_byte, entryTimes_toNat, shiftRight_toNat, hmask,
    twoBytes, shiftRight_toNat, UInt32.shiftRight_zero]
  exact related_ok rfl

end PowertrainBoschContiSecurityAlgo2

/-! ## The tables of IC172 -/

/-- The nibbles of a byte, taken out of an `int` and put back into one. -/
theorem nibble_ints : ∀ b : UInt8,
    CSharp.byteOfInt (CSharp.intOfByte b >>> 4 &&& 0xF) = b >>> 4 &&& 0xF
    ∧ CSharp.byteOfInt (CSharp.intOfByte b &&& 0xF) = b &&& 0xF
    ∧ toItem (b.toNat <<< 4) = b <<< 4
    ∧ CSharp.byteOfInt (CSharp.intOfByte b <<< 4) = b <<< 4
    ∧ CSharp.byteOfInt (CSharp.intOfByte b) = b :=
  BitField.forall_byte (by decide +kernel)

/-- Higher nibble first, on both sides. -/
theorem expandNibbles_eq (data : Bytes) :
    CSharp.BitUtility.expandNibbles data = expandNibbles data := by
  refine congrArg (data.flatMap ·) (funext fun b => ?_)
  rw [(nibble_ints b).1, (nibble_ints b).2.1]

/-- C# drops an odd nibble, Python raises; here there is none. -/
theorem joinNibbles_eq : ∀ {nibbles : Bytes}, nibbles.length % 2 = 0 →
    collapseNibbles nibbles = .ok (CSharp.BitUtility.joinNibbles nibbles)
  | [], _ => rfl
  | [_], h => absurd h Nat.one_ne_zero
  | hi :: lo :: nibbles, h => by
    have hpair : toItem (hi.toNat <<< 4 ||| lo.toNat)
        = CSharp.byteOfInt (CSharp.intOfByte hi <<< 4 ||| CSharp.intOfByte lo) := by
      obtain ⟨-, -, hnumber, hshift, -⟩ := nibble_ints hi
      obtain ⟨-, -, -, -, hsame⟩ := nibble_ints lo
      have hor : ∀ m n : Nat, toItem (m ||| n) = toItem m ||| toItem n := fun m n =>
        UInt8.ofNat_or m n
      have hlo : toItem lo.toNat = lo := UInt8.ofNat_toNat
      rw [hor, hnumber, hlo, CSharp.byteOfInt, Int32.toUInt32_or, UInt32.toUInt8_or]
      exact congrArg₂ (· ||| ·) hshift.symm hsame.symm
    rw [collapseNibbles, joinNibbles_eq (by simp at h; omega), ok_bind, hpair]
    rfl

/-- Both look up row by row, and stop at the same row. -/
theorem intermediateKey_related (seedInput : Bytes) (entries : List (Bytes × Nat)) :
    Related Eq (IC172Algo1.intermediateKey seedInput entries)
      (CSharp.IC172Algo1.intermediateKey seedInput entries) := by
  induction entries with
  | nil => exact related_ok rfl
  | cons entry entries ih =>
    obtain ⟨row, place⟩ := entry
    rw [IC172Algo1.intermediateKey, IC172Algo1.nibble, CSharp.IC172Algo1.intermediateKey,
      bind_assoc]
    refine related_bind (indexOf_related seedInput place) ?_
    intro i _ hi
    subst hi
    rw [expandNibbles_eq]
    refine related_bind (indexOf_related (expandNibbles row) i.toNat) ?_
    intro b _ hb
    subst hb
    refine related_bind ih ?_
    intro more _ hmore
    subst hmore
    exact related_ok rfl

theorem IC172Algo1_related (seed outKey : Bytes) (level : Int) :
    Related Eq (IC172Algo1.generateKey seed outKey.length level parameters)
      (CSharp.IC172Algo1.generateKey seed outKey level parameters) := by
  refine related_guard fun hseed _ => ?_
  match seed, hseed with
  | [s0, s1, s2, s3, s4, s5, s6, s7], _ =>
    have hkeys := related_returned (intermediateKey_related (expandNibbles [s0, s2, s4, s6])
      (IC172Algo1.keyPool.zip IC172Algo1.transpositionTable))
    have hread : ∀ i b, [s0, s1, s2, s3, s4, s5, s6, s7][i]? = some b →
        Py.index [s0, s1, s2, s3, s4, s5, s6, s7] i = .ok b
          ∧ CSharp.item [s0, s1, s2, s3, s4, s5, s6, s7] i = .ok b := fun i b h =>
      ⟨Py.index_ok_iff.mpr h, item_ofNat h⟩
    obtain ⟨h0, h0'⟩ := hread 0 s0 rfl
    obtain ⟨h2, h2'⟩ := hread 2 s2 rfl
    obtain ⟨h4, h4'⟩ := hread 4 s4 rfl
    obtain ⟨h6, h6'⟩ := hread 6 s6 rfl
    simp only [Nat.cast_zero, Nat.cast_ofNat] at h0' h2' h4' h6'
    rw [h0, h2, h4, h6, h0', h2', h4', h6']
    simp only [ok_bind, expandNibbles_eq]
    refine related_bind hkeys ?_
    intro key _ ⟨hk, hkey, _⟩
    subst hk
    have hlen : key.length = 8 := intermediateKey_yields _ _ key hkey
    rw [joinNibbles_eq (by omega), CSharp.BitUtility.collapseNibbles, if_neg (by omega)]
    exact related_ok rfl

/-- An entry of the pool in its place, as a number and as an `int`. -/
def Shifted (k : Nat) (x : Int) (x' : Int32) : Prop :=
  Int32.ofInt (x * 2 ^ k) = x' <<< Int32.ofNat k

instance (k : Nat) : DecidableRel (Shifted k) := fun _ _ => inferInstanceAs (Decidable (_ = _))

/-- The same pool, each row in its place. -/
inductive SamePool : List (List Int) → List (List Int32) → Prop where
  | nil : SamePool [] []
  | cons {row : List Int} {row' : List Int32} {pool : List (List Int)} {pool' : List (List Int32)} :
      List.Forall₂ (Shifted (4 * pool.length)) row row' → SamePool pool pool' →
      SamePool (row :: pool) (row' :: pool')

/-- The entries of Python's pool, shifted into place, are those of the original. -/
theorem keyPool_same : SamePool IC172Algo2.keyPool CSharp.IC172Algo2.keyPool := by
  repeat (first | exact .nil | refine .cons (by decide +kernel) ?_)

theorem SamePool.length {pool : List (List Int)} {pool' : List (List Int32)}
    (h : SamePool pool pool') : pool'.length = pool.length := by
  induction h with
  | nil => rfl
  | cons _ _ ih => rw [List.length_cons, List.length_cons, ih]

/-- The sums stay the same number, cut to 32 bits. -/
theorem keyResult_related {pool : List (List Int)} {pool' : List (List Int32)}
    (h : SamePool pool pool') {nibbles : Bytes} (hlen : nibbles.length = pool.length)
    {result : Int} {result' : Int32} (hresult : Int32.ofInt result = result') :
    Related (fun x x' => Int32.ofInt x = x') (IC172Algo2.keyResult (pool.zip nibbles) result)
      (CSharp.IC172Algo2.keyResult (pool'.zip nibbles) result') := by
  induction h generalizing nibbles result result' with
  | nil => exact related_ok hresult
  | @cons row row' pool pool' hrow hpool ih =>
    match nibbles, hlen with
    | nibble :: nibbles, hlen =>
      have hrest : nibbles.length = pool.length := Nat.succ.inj hlen
      rw [List.zip_cons_cons, List.zip_cons_cons, IC172Algo2.keyResult,
        CSharp.IC172Algo2.keyResult, List.length_zip, List.length_zip, hpool.length, hrest,
        Nat.min_self]
      refine related_bind (listItem_related hrow nibble.toNat) fun x x' hx => ?_
      refine ih hrest ?_
      rw [Int32.ofInt_add, hresult, hx]

/-- A sum in 32 bits and one that is cut to 32 bits in the end. -/
theorem IC172Algo2_related (seed outKey : Bytes) (level : Int) :
    Related Eq (IC172Algo2.generateKey seed outKey.length level parameters)
      (CSharp.IC172Algo2.generateKey seed outKey level parameters) := by
  refine related_guard fun hseed hkey => ?_
  have hnibbles : (expandNibbles seed).length = IC172Algo2.keyPool.length := by
    match seed, hseed with
    | [_, _, _, _], _ => rfl
  rw [expandNibbles_eq]
  have hzero : Int32.ofInt 0 = 0 := rfl
  refine related_bind (keyResult_related keyPool_same hnibbles hzero) ?_
  intro x _ hx
  subst hx
  refine related_key hkey ?_
  rw [← UInt32.toNat_inj]
  show (UInt32.ofInt x).toNat = (BitVec.ofInt 32 x).toNat
  rw [BitVec.toNat_ofInt, UInt32.ofInt, UInt32.toNat_ofNat']
  omega

/-! ## All of them -/

/-- The providers that stop at the same places as their originals. -/
def shortPorts : List Port :=
  [⟨ArrayReverseAlgo.generateKey, CSharp.ArrayReverseAlgo.generateKey⟩,
    ⟨XorAlgo.generateKey, CSharp.XorAlgo.generateKey⟩,
    ⟨OCM172.generateKey, CSharp.OCM172.generateKey⟩,
    ⟨RBTM.generateKey, CSharp.RBTM.generateKey⟩,
    ⟨ESPSecurityAlgoLevel1.generateKey, CSharp.ESPSecurityAlgoLevel1.generateKey⟩,
    ⟨ESP9212Algo1.generateKey, CSharp.ESP9212Algo1.generateKey⟩,
    ⟨HU45Algo.generateKey, CSharp.HU45Algo.generateKey⟩,
    ⟨VGSSecurityAlgo2Bytes.generateKey, CSharp.VGSSecurityAlgo2Bytes.generateKey⟩,
    ⟨NetaAlgo1.generateKey, CSharp.NetaAlgo1.generateKey⟩,
    ⟨PowertrainBoschContiSecurityAlgo1.generateKey,
      CSharp.PowertrainBoschContiSecurityAlgo1.generateKey⟩,
    ⟨PowertrainBoschContiSecurityAlgo2.generateKey,
      CSharp.PowertrainBoschContiSecurityAlgo2.generateKey⟩,
    ⟨PowertrainSecurityAlgo3.generateKey, CSharp.PowertrainSecurityAlgo3.generateKey⟩,
    ⟨PowertrainDelphiSecurityAlgo.generateKey, CSharp.PowertrainDelphiSecurityAlgo.generateKey⟩,
    ⟨PowertrainSecurityAlgoNFZ.generateKey, CSharp.PowertrainSecurityAlgoNFZ.generateKey⟩,
    ⟨IC172Algo1.generateKey, CSharp.IC172Algo1.generateKey⟩,
    ⟨IC172Algo2.generateKey, CSharp.IC172Algo2.generateKey⟩,
    ⟨IC204.generateKey, CSharp.IC204.generateKey⟩]

/--
**A short provider returns the key of its original**, at every level that is an `int`.
Where one returns no key or raises, so does the other: in particular when a table is too
short for the entry that the seed chooses.
-/
theorem shortPorts_agree (port : Port) (hport : port ∈ shortPorts) (parameters : List Parameter)
    (h : WrittenAny parameters) (seed outKey : Bytes) (level : Int32) :
    Related Eq (port.python seed outKey.length level.toInt parameters)
      (port.csharp seed outKey level.toInt parameters) := by
  simp only [shortPorts, List.mem_cons, List.not_mem_nil, or_false] at hport
  rcases hport with rfl | rfl | rfl | rfl | rfl | rfl | rfl | rfl | rfl | rfl | rfl | rfl | rfl |
    rfl | rfl | rfl | rfl
  · exact @ArrayReverseAlgo_related parameters seed outKey level.toInt
  · exact XorAlgo_related h seed outKey level.toInt
  · exact @copySeed_related parameters 2 seed outKey level.toInt
  · exact @copySeed_related parameters 4 seed outKey level.toInt
  · exact @ESPSecurityAlgoLevel1_related parameters seed outKey level.toInt
  · exact @ESP9212Algo1_related parameters seed outKey level.toInt
  · exact @HU45Algo_related parameters seed outKey level.toInt
  · exact VGSSecurityAlgo2Bytes_related h seed outKey level.toInt
  · exact NetaAlgo1_related h seed outKey level.toInt
  · exact PowertrainBoschContiSecurityAlgo1_related h seed outKey level.toInt
  · exact PowertrainBoschContiSecurityAlgo2.generateKey_related h seed outKey level.toInt
  · exact @PowertrainSecurityAlgo3_related parameters seed outKey level.toInt
  · exact selectFixed_related PowertrainDelphiSecurityAlgo.samePlaces h seed outKey level.toInt
  · exact selectFixed_related PowertrainSecurityAlgoNFZ.samePlaces h seed outKey level.toInt
  · exact @IC172Algo1_related parameters seed outKey level.toInt
  · exact @IC172Algo2_related parameters seed outKey level.toInt
  · exact IC204Port.IC204_related h seed outKey level

/-- A definition whose table lacks the last entry. -/
def shortTable : List Parameter :=
  [⟨"ubTable", "11223344556677", "ByteArray"⟩, ⟨"Mask", "FF00", "ByteArray"⟩]

/-- The table lacks the last entry, but this seed selects another. -/
theorem shortPorts_agree_table :
    PowertrainBoschContiSecurityAlgo1.generateKey [0xFE, 0xFF] 2 1 shortTable
        = .ok (some [0x76, 0x88])
      ∧ Related Eq (PowertrainBoschContiSecurityAlgo1.generateKey [0xFE, 0xFF]
            (List.replicate 2 (0 : UInt8)).length (1 : Int32).toInt shortTable)
          (CSharp.PowertrainBoschContiSecurityAlgo1.generateKey [0xFE, 0xFF]
            (List.replicate 2 0) (1 : Int32).toInt shortTable) := by
  have h : WrittenAny shortTable := ⟨by decide, by decide⟩
  refine ⟨by decide +kernel, ?_⟩
  have hport : ⟨PowertrainBoschContiSecurityAlgo1.generateKey,
      CSharp.PowertrainBoschContiSecurityAlgo1.generateKey⟩ ∈ shortPorts := by
    simp [shortPorts]
  exact shortPorts_agree _ hport shortTable h _ (List.replicate 2 0) 1

end AutoDiag.Proof
