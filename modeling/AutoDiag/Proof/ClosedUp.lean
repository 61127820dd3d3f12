import AutoDiag.Proof.WordContracts

/-!
# Bits of the seed closed up

What `PowertrainBoschContiSecurityAlgo2` looks up in its table is the number of the
seed bits at the places that the mask has set. Every number of that many bits comes
from some seed, so a shorter table fails for one.
-/

namespace AutoDiag.Proof

open Raise Security BitUtility PowertrainBoschContiSecurityAlgo2

/-- The places of sixteen that a mask has set, from the lowest. -/
def setPlaces (mask : Nat) : List Nat := (List.range 16).filter fun i => mask.testBit i

theorem setPlaces_nodup (mask : Nat) : (setPlaces mask).Nodup := List.nodup_range.filter _

theorem lt_of_mem_setPlaces {mask i : Nat} (h : i ∈ setPlaces mask) : i < 16 :=
  List.mem_range.mp (List.mem_of_mem_filter h)

/-- The bits of a number that is put together from bits. -/
theorem testBit_ofDigits (bits : List Bool) (k : Nat) :
    (Nat.ofDigits 2 (bits.map Bool.toNat)).testBit k = bits.getD k false := by
  induction bits generalizing k with
  | nil => simp
  | cons b bits ih =>
    have hsplit : Nat.ofDigits 2 ((b :: bits).map Bool.toNat)
        = 2 ^ 1 * Nat.ofDigits 2 (bits.map Bool.toNat) + b.toNat := by
      rw [List.map_cons, Nat.ofDigits_cons]
      omega
    rw [hsplit, Nat.testBit_two_pow_mul_add _ (Bool.toNat_lt b)]
    cases k with
    | zero => cases b <;> rfl
    | succ k =>
      rw [if_neg (by omega), Nat.add_sub_cancel, ih]
      rfl

/-- **The bits that the loop finds are the seed bits at the places of the mask, in order.** -/
theorem testBit_activatedBits (x mask k : Nat) :
    (activatedBits x mask).testBit k = ((setPlaces mask)[k]?).elim false x.testBit := by
  have hbits : maskedBits x mask 16 = ((setPlaces mask).map x.testBit).map Bool.toNat := by
    rw [List.map_map]
    rfl
  rw [activatedBits_eq, closedUp, hbits, testBit_ofDigits, List.getD_eq_getElem?_getD,
    List.getElem?_map]
  cases (setPlaces mask)[k]? <;> rfl

theorem activatedBits_lt (x mask : Nat) : activatedBits x mask < 2 ^ (setPlaces mask).length := by
  refine Nat.lt_pow_two_of_testBit _ fun k hk => ?_
  rw [testBit_activatedBits, List.getElem?_eq_none hk]
  rfl

/-- The number whose bits at the places of the mask are those of `n`. -/
def spreadOut (n mask : Nat) : Nat :=
  Nat.ofDigits 2
    (((List.range 16).map fun i => n.testBit ((setPlaces mask).idxOf i)).map Bool.toNat)

theorem spreadOut_lt (n mask : Nat) : spreadOut n mask < 2 ^ 16 := by
  refine Nat.lt_pow_two_of_testBit _ fun k hk => ?_
  rw [spreadOut, testBit_ofDigits, List.getD_eq_default _ _ (by simpa using hk)]

theorem activatedBits_spreadOut {n mask : Nat} (h : n < 2 ^ (setPlaces mask).length) :
    activatedBits (spreadOut n mask) mask = n := by
  refine Nat.eq_of_testBit_eq fun k => ?_
  rw [testBit_activatedBits]
  by_cases hk : k < (setPlaces mask).length
  · have hplace := lt_of_mem_setPlaces (List.getElem_mem hk)
    have hindex : (setPlaces mask).idxOf (setPlaces mask)[k] = k :=
      (setPlaces_nodup mask).idxOf_getElem k hk
    rw [List.getElem?_eq_getElem hk, Option.elim_some, spreadOut, testBit_ofDigits,
      List.getD_eq_getElem _ _ (by simpa using hplace), List.getElem_map, List.getElem_range,
      hindex]
  · rw [List.getElem?_eq_none (by omega)]
    exact (Nat.testBit_lt_two_pow (Nat.lt_of_lt_of_le h
      (Nat.pow_le_pow_right (by decide) (by omega)))).symm

/-! ## Two bytes -/

theorem pairOf_eq {b0 b1 : UInt8} : pairOf [b0, b1] = 256 * b0.toNat + b1.toNat := by
  have h0 := b0.toNat_lt
  have h1 := b1.toNat_lt
  have hor := Nat.two_pow_add_eq_or_of_lt (i := 8) h1 b0.toNat
  have hjoin : pairOf [b0, b1] = (b0.toNat <<< 8 ||| b1.toNat) &&& (2 ^ 32 - 1) := rfl
  rw [hjoin, Nat.shiftLeft_eq, Nat.mul_comm, ← hor, Nat.and_two_pow_sub_one_eq_mod]
  omega

theorem pairOf_lt {data : Bytes} (h : data.length = 2) : pairOf data < 2 ^ 16 := by
  match data, h with
  | [b0, b1], _ =>
    have h0 := b0.toNat_lt
    have h1 := b1.toNat_lt
    rw [pairOf_eq]
    omega

theorem exists_pairOf {n : Nat} (h : n < 2 ^ 16) : ∃ data : Bytes, data.length = 2
    ∧ pairOf data = n := by
  refine ⟨[UInt8.ofNat (n / 256), UInt8.ofNat (n % 256)], rfl, ?_⟩
  rw [pairOf_eq, UInt8.toNat_ofNat', UInt8.toNat_ofNat']
  omega

/-- A mask of two bytes has its ones at these places. -/
theorem setPlaces_length {mask : Nat} (h : mask < 2 ^ 16) :
    (setPlaces mask).length = countOnes mask := by
  have hlow : mask &&& u32 = mask := by
    rw [show u32 = 2 ^ 32 - 1 from rfl, Nat.and_two_pow_sub_one_eq_mod]
    exact Nat.mod_eq_of_lt (by omega)
  have hhigh : ((List.range 16).map (16 + ·)).filter (fun i => mask.testBit i) = [] := by
    refine List.filter_eq_nil_iff.mpr fun i hi => ?_
    obtain ⟨j, -, rfl⟩ := List.mem_map.mp hi
    have hlt : mask < 2 ^ (16 + j) := Nat.lt_of_lt_of_le h
      (Nat.pow_le_pow_right (by decide) (by omega))
    rw [Nat.testBit_lt_two_pow hlt]
    exact Bool.false_ne_true
  rw [countOnes, hlow, show (32 : Nat) = 16 + 16 from rfl, List.range_add, List.filter_append,
    hhigh, List.append_nil]
  rfl

/-- A seed has a key when the table reaches as far as its bits say. -/
theorem generateKey_iff {parameters : List Parameter} {table uwMasc : Bytes}
    (htable : paramBytes parameters "Table" = .ok table)
    (hmask : paramBytes parameters "uwMasc" = .ok uwMasc) (hlen : uwMasc.length = 2) (level : Int)
    {seed : Bytes} (hseed : seed.length = 2) :
    (∃ key, generateKey seed 2 level parameters = .ok (some key))
      ↔ activatedBits (pairOf seed) (pairOf uwMasc) < table.length := by
  unfold generateKey
  rw [htable, ok_bind, hmask, ok_bind, if_neg (by omega), index_getD (by omega),
    index_getD (by omega), index_getD (by omega), index_getD (by omega)]
  simp only [ok_bind]
  rw [← pairOf, ← pairOf]
  by_cases h : activatedBits (pairOf seed) (pairOf uwMasc) < table.length
  · rw [index_getD h, ok_bind]
    exact iff_of_true ⟨_, rfl⟩ h
  · refine iff_of_false (fun hkey => ?_) h
    obtain ⟨key, hkey⟩ := hkey
    obtain ⟨entry, hentry, -⟩ := bind_ok hkey
    exact h ((index_ends _ _).iff.mp ⟨entry, hentry⟩)

/-- **The loop closes up the bits under the mask, and every number of as many bits comes from
some seed.** -/
theorem activatedBits_selects {parameters : List Parameter} {table uwMasc : Bytes}
    (htable : paramBytes parameters "Table" = .ok table)
    (hmask : paramBytes parameters "uwMasc" = .ok uwMasc) (hlen : uwMasc.length = 2)
    (level : Int) :
    (∀ seed, seed.length = 2 → ∀ k, (activatedBits (pairOf seed) (pairOf uwMasc)).testBit k
        = ((setPlaces (pairOf uwMasc))[k]?).elim false (pairOf seed).testBit)
      ∧ (∀ seed, seed.length = 2 →
        activatedBits (pairOf seed) (pairOf uwMasc) < 2 ^ countOnes (pairOf uwMasc))
      ∧ (∀ n < 2 ^ countOnes (pairOf uwMasc), ∃ seed : Bytes, seed.length = 2
        ∧ activatedBits (pairOf seed) (pairOf uwMasc) = n)
      ∧ ((∀ seed, seed.length = 2 → ∃ key, generateKey seed 2 level parameters = .ok (some key))
        ↔ 2 ^ countOnes (pairOf uwMasc) ≤ table.length) := by
  have hlt : ∀ seed : Bytes, seed.length = 2 →
      activatedBits (pairOf seed) (pairOf uwMasc) < 2 ^ countOnes (pairOf uwMasc) := by
    intro seed _
    rw [← setPlaces_length (pairOf_lt hlen)]
    exact activatedBits_lt _ _
  have honto : ∀ n < 2 ^ countOnes (pairOf uwMasc), ∃ seed : Bytes, seed.length = 2
      ∧ activatedBits (pairOf seed) (pairOf uwMasc) = n := by
    intro n hn
    obtain ⟨seed, hseed, heq⟩ := exists_pairOf (spreadOut_lt n (pairOf uwMasc))
    rw [← setPlaces_length (pairOf_lt hlen)] at hn
    exact ⟨seed, hseed, by rw [heq, activatedBits_spreadOut hn]⟩
  refine ⟨fun seed _ k => testBit_activatedBits _ _ k, hlt, honto, fun hall => ?_, fun hle => ?_⟩
  · -- the seed with all bits under the mask set asks for the last entry
    have hpos : 0 < 2 ^ countOnes (pairOf uwMasc) := Nat.two_pow_pos _
    obtain ⟨seed, hseed, heq⟩ := honto (2 ^ countOnes (pairOf uwMasc) - 1) (by omega)
    have hentry := (generateKey_iff htable hmask hlen level hseed).mp (hall seed hseed)
    omega
  · intro seed hseed
    refine (generateKey_iff htable hmask hlen level hseed).mpr ?_
    exact Nat.lt_of_lt_of_le (hlt seed hseed) hle

/-- The mask has two bits, and the table four entries: every seed has a key. -/
theorem activatedBits_selects_two :
    countOnes (pairOf [0x80, 1]) = 2
      ∧ ∀ seed, seed.length = 2 → ∃ key, generateKey seed 2 1
        [⟨"Table", "01 02 03 04", "ByteArray"⟩, ⟨"uwMasc", "80 01", "ByteArray"⟩]
          = .ok (some key) := by
  have htable : paramBytes [⟨"Table", "01 02 03 04", "ByteArray"⟩,
      ⟨"uwMasc", "80 01", "ByteArray"⟩] "Table" = .ok [1, 2, 3, 4] := by decide +kernel
  have hmask : paramBytes [⟨"Table", "01 02 03 04", "ByteArray"⟩,
      ⟨"uwMasc", "80 01", "ByteArray"⟩] "uwMasc" = .ok [0x80, 1] := by decide +kernel
  exact ⟨by decide, (activatedBits_selects htable hmask rfl 1).2.2.2.mpr (by decide)⟩

end AutoDiag.Proof
