import AutoDiag.Proof.SeedBijections
import AutoDiag.Proof.WordContracts

/-!
# The radio code

Signs come and go in what `RenaultRadio` computes with, but the code is always a
number of four decimal digits, written with one digit in each nibble.
-/

namespace AutoDiag.Proof

open Raise Security BitUtility RenaultRadio

/-! ## The number -/

/-- The remainder of C# has the sign of the dividend. -/
theorem cMod_eq_tmod (a b : Int) : cMod a b = a.tmod b := by
  have habs : a.natAbs % b.natAbs = (a.tmod b).natAbs := (Int.natAbs_tmod a b).symm
  unfold cMod
  dsimp only
  rw [habs]
  split
  · rename_i ha
    have hneg := Int.tmod_nonneg b (show 0 ≤ -a by omega)
    rw [Int.neg_tmod] at hneg
    omega
  · rename_i ha
    have hpos := Int.tmod_nonneg b (show 0 ≤ a by omega)
    omega

/-- The two decimal digits of a number below 100, exchanged. -/
def swapDigits (n : Nat) : Nat := 10 * (n % 10) + n / 10

/-- The code that belongs to the two numbers of a seed. -/
def radioCode (v1 v3 : Int) : Nat :=
  100 * (259 % v1.natAbs % 100) + swapDigits (7 * v3 % 100).toNat

/-- **The signs of the two numbers do not change the formula.** -/
theorem code_eq (v1 v3 : Int) : code v1 v3 = radioCode v1 v3 := by
  have hlead : cMod (cMod 259 v1) 100 = ((259 % v1.natAbs % 100 : Nat) : Int) := rfl
  have hsum : ∀ s : Int, (if cMod s 100 < 0 then cMod s 100 + 100 else cMod s 100) = s % 100 := by
    intro s
    rw [cMod_eq_tmod, Int.tmod_eq_emod]
    by_cases hs : 0 ≤ s ∨ (100 : Int) ∣ s
    · rw [if_pos hs]
      omega
    · rw [if_neg hs]
      omega
  have hten : cMod (7 * v3 % 100) 10 = 7 * v3 % 100 % 10 := by
    rw [cMod_eq_tmod, Int.tmod_eq_emod_of_nonneg (by omega)]
  unfold code
  dsimp only
  rw [hlead, hsum, show v3 * 8 - v3 = 7 * v3 by omega, hten, radioCode, swapDigits]
  generalize 259 % v1.natAbs % 100 = lead
  omega

/-- Two numbers below a hundred make four digits at the most. -/
theorem radioCode_lt (v1 v3 : Int) : radioCode v1 v3 < 10000 := by
  unfold radioCode swapDigits
  have hlead := Nat.mod_lt (259 % v1.natAbs) (show 100 > 0 by decide)
  omega

/-! ## The digits -/

/-- The digits of the four places. -/
theorem digits4_eq {n : Nat} (h : n < 10000) :
    digits4 n = [n / 1000, n / 100 % 10, n / 10 % 10, n % 10] := by
  have hstep : ∀ m : Nat, 0 < m → Nat.digits 10 m = m % 10 :: Nat.digits 10 (m / 10) :=
    fun m hm => Nat.digits_def' (by decide) hm
  unfold digits4
  rcases (by omega : n = 0 ∨ (0 < n ∧ n / 10 = 0) ∨ (0 < n / 10 ∧ n / 10 / 10 = 0)
      ∨ (0 < n / 10 / 10 ∧ n / 10 / 10 / 10 = 0) ∨ 0 < n / 10 / 10 / 10)
    with h0 | ⟨h1, h0⟩ | ⟨h1, h0⟩ | ⟨h1, h0⟩ | h1
  · subst h0
    rfl
  · rw [hstep n h1, h0, Nat.digits_zero]
    simp
    omega
  · rw [hstep n (by omega), hstep (n / 10) h1, h0, Nat.digits_zero]
    simp
    omega
  · rw [hstep n (by omega), hstep (n / 10) (by omega), hstep (n / 10 / 10) h1, h0,
      Nat.digits_zero]
    simp
    omega
  · have h0 : n / 10 / 10 / 10 / 10 = 0 := by omega
    rw [hstep n (by omega), hstep (n / 10) (by omega), hstep (n / 10 / 10) (by omega),
      hstep (n / 10 / 10 / 10) h1, h0, Nat.digits_zero]
    simp
    omega

/-- The four digits of a number, one in each nibble. -/
def digitBytes (n : Nat) : Bytes :=
  [toItem ((n / 1000) <<< 4 ||| n / 100 % 10), toItem ((n / 10 % 10) <<< 4 ||| n % 10)]

theorem expandNibbles_digitBytes {n : Nat} (h : n < 10000) :
    (expandNibbles (digitBytes n)).map UInt8.toNat
      = [n / 1000, n / 100 % 10, n / 10 % 10, n % 10] := by
  have hnibble : ∀ k, k < 10 → (UInt8.ofNat k).toNat = k := fun k hk => by
    rw [UInt8.toNat_ofNat', Nat.mod_eq_of_lt (by omega)]
  have hbyte : ∀ hi lo, hi < 10 → lo < 10 →
      (expandNibbles [toItem (hi <<< 4 ||| lo)]).map UInt8.toNat = [hi, lo] := by
    intro hi lo hhi hlo
    have hparts := @expand_nibbles (UInt8.ofNat hi) (UInt8.ofNat lo)
      (by rw [hnibble hi hhi]; omega) (by rw [hnibble lo hlo]; omega)
    rw [hnibble hi hhi, hnibble lo hlo] at hparts
    simp only [expandNibbles, List.flatMap_cons, List.flatMap_nil, List.append_nil, hparts.1,
      hparts.2, List.map_cons, List.map_nil, hnibble hi hhi, hnibble lo hlo]
  have hhigh := hbyte (n / 1000) (n / 100 % 10) (by omega) (by omega)
  have hlow := hbyte (n / 10 % 10) (n % 10) (by omega) (by omega)
  have hsplit : expandNibbles (digitBytes n)
      = expandNibbles [toItem ((n / 1000) <<< 4 ||| n / 100 % 10)]
        ++ expandNibbles [toItem ((n / 10 % 10) <<< 4 ||| n % 10)] := rfl
  rw [hsplit, List.map_append, hhigh, hlow]
  rfl

/-! ## The key -/

/-- The first character, an ASCII letter in upper case. -/
def upperCode (c : UInt8) : Int := if 0x61 ≤ c ∧ c ≤ 0x7A then c.toNat - 0x20 else c.toNat

/-- The number of the first two bytes. -/
def leadNumber (seed : Bytes) : Int :=
  10 * upperCode (seed.getD 0 0) + (seed.getD 1 0).toNat - 698

/-- The number of all four bytes. -/
def tailNumber (seed : Bytes) : Int :=
  (seed.getD 3 0).toNat - 528 + 10 * (seed.getD 2 0).toNat + leadNumber seed

/-- The two numbers of the source, written as sums. -/
theorem vars_eq (seed : Bytes) :
    vars (seed.getD 0 0) (seed.getD 1 0) (seed.getD 2 0) (seed.getD 3 0)
      = (leadNumber seed, tailNumber seed) := by
  have hlead : (vars (seed.getD 0 0) (seed.getD 1 0) (seed.getD 2 0) (seed.getD 3 0)).1
      = leadNumber seed := by
    unfold vars leadNumber upperCode
    dsimp only
    omega
  refine Prod.ext hlead ?_
  rw [tailNumber, ← hlead]
  unfold vars
  dsimp only
  omega

theorem generateKey_eq {seed : Bytes} (hseed : 4 ≤ seed.length) {keyLength : Int}
    (hkey : 0 ≤ keyLength) (level : Int) (parameters : List Parameter) :
    generateKey seed keyLength level parameters
      = .ok (if leadNumber seed = 0 ∨ keyLength < 2 then none
        else some (digitBytes (radioCode (leadNumber seed) (tailNumber seed))
          ++ List.replicate (keyLength.toNat - 2) 0)) := by
  unfold generateKey
  rw [if_neg (by omega), index_getD (by omega), index_getD (by omega), index_getD (by omega),
    index_getD (by omega)]
  simp only [ok_bind]
  rw [vars_eq]
  dsimp only
  by_cases hlead : leadNumber seed = 0
  · rw [if_pos hlead, if_pos (.inl hlead)]
    rfl
  · rw [if_neg hlead, zeroBytes, if_neg (by omega), ok_bind, List.length_replicate]
    by_cases hshort : keyLength < 2
    · rw [if_pos (by omega), if_pos (.inr hshort)]
      rfl
    · obtain ⟨n, hn⟩ : ∃ n, keyLength.toNat = n + 2 := ⟨keyLength.toNat - 2, by omega⟩
      rw [if_neg (by omega), if_neg (by omega), hn, code_eq, Int.toNat_natCast,
        digits4_eq (radioCode_lt _ _), Nat.add_sub_cancel]
      rfl

/-- **The key is a code of four decimal digits, and zeros.** -/
theorem radioKey_digits {seed : Bytes} (hseed : 4 ≤ seed.length) {keyLength : Int}
    (hkey : 0 ≤ keyLength) (level : Int) (parameters : List Parameter) :
    (generateKey seed keyLength level parameters = .ok none
        ↔ leadNumber seed = 0 ∨ keyLength < 2)
      ∧ (¬ (leadNumber seed = 0 ∨ keyLength < 2) → ∃ key,
        generateKey seed keyLength level parameters = .ok (some key) ∧ key.length = keyLength
          ∧ (∀ n ∈ expandNibbles (key.take 2), n.toNat ≤ 9)
          ∧ Nat.ofDigits 10 ((expandNibbles (key.take 2)).map UInt8.toNat).reverse
            = 100 * (259 % (leadNumber seed).natAbs % 100)
              + swapDigits (7 * tailNumber seed % 100).toNat
          ∧ ∀ b ∈ key.drop 2, b = 0) := by
  rw [generateKey_eq hseed hkey]
  constructor
  · by_cases h : leadNumber seed = 0 ∨ keyLength < 2
    · rw [if_pos h]
      exact iff_of_true rfl h
    · rw [if_neg h]
      exact iff_of_false (fun heq => by cases heq) h
  · intro h
    have hlt := radioCode_lt (leadNumber seed) (tailNumber seed)
    have hdigits := expandNibbles_digitBytes hlt
    rw [if_neg h]
    refine ⟨_, rfl, ?_, fun n hn => ?_, ?_, fun b hb => List.eq_of_mem_replicate hb⟩
    · rw [List.length_append, List.length_replicate]
      simp only [digitBytes, List.length_cons, List.length_nil]
      omega
    -- a nibble of the first two bytes is one of the four digits
    · have hmem : n.toNat ∈ (expandNibbles (digitBytes (radioCode (leadNumber seed)
          (tailNumber seed)))).map UInt8.toNat := List.mem_map_of_mem hn
      rw [hdigits] at hmem
      simp only [List.mem_cons, List.not_mem_nil, or_false] at hmem
      omega
    · rw [← radioCode]
      have htake : ∀ rest : Bytes,
          (digitBytes (radioCode (leadNumber seed) (tailNumber seed)) ++ rest).take 2
            = digitBytes (radioCode (leadNumber seed) (tailNumber seed)) := fun _ => rfl
      rw [htake, hdigits]
      simp [Nat.ofDigits]
      omega

theorem radioKey_digits_Y020 : ∃ key,
    generateKey [0x59, 0x30, 0x32, 0x30] 2 1 [] = .ok (some key) ∧ key.length = (2 : Int)
      ∧ (∀ n ∈ expandNibbles (key.take 2), n.toNat ≤ 9)
      ∧ Nat.ofDigits 10 ((expandNibbles (key.take 2)).map UInt8.toNat).reverse
        = 100 * (259 % (leadNumber [0x59, 0x30, 0x32, 0x30]).natAbs % 100)
          + swapDigits (7 * tailNumber [0x59, 0x30, 0x32, 0x30] % 100).toNat
      ∧ ∀ b ∈ key.drop 2, b = 0 :=
  (radioKey_digits (by decide) (by decide) 1 []).2 (by decide)

end AutoDiag.Proof
