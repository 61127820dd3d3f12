import Mathlib.Data.Rat.Floor
import Mathlib.Data.Rat.Lemmas
import Mathlib.Tactic.FieldSimp
import Mathlib.Tactic.Linarith
import Mathlib.Tactic.Ring
import AutoDiag.Python.Builtins

/-!
# Python's `float`

A double is the rational number it stands for, and every operation rounds to the
nearest double, to the even one of two. Subnormal numbers, infinities and `nan`
do not come up.
-/

namespace AutoDiag.Py

/-- The integer nearest to `q`, the even one of two. -/
def roundEven (q : ℚ) : Int :=
  if q - q.floor < 1 / 2 then q.floor
  else if 1 / 2 < q - q.floor then q.floor + 1
  else if q.floor % 2 = 0 then q.floor else q.floor + 1

def magnitude (q : ℚ) : ℚ := if q < 0 then -q else q

/-- `2.0 ** k`. -/
def twoPow (k : Int) : ℚ :=
  if 0 ≤ k then ((2 ^ k.toNat : Nat) : ℚ) else 1 / ((2 ^ (-k).toNat : Nat) : ℚ)

/-- The `k` for which the magnitude is at least `2 ^ k` and less than twice that. -/
def exponent (q : ℚ) : Int :=
  let k : Int := (Nat.log2 q.num.natAbs : Int) - Nat.log2 q.den
  if magnitude q < twoPow k then k - 1 else k

/-- The double nearest to `q`: 53 bits. -/
def double (q : ℚ) : ℚ :=
  if q = 0 then 0
  else
    let unit := twoPow (exponent q - 52)
    roundEven (q / unit) * unit

/-- `a / b`; of integers that are doubles, too. -/
def fdiv (a b : ℚ) : ℚ := double (a / b)

/-- `a * b`. -/
def fmul (a b : ℚ) : ℚ := double (a * b)

/-- `a - b`. -/
def fsub (a b : ℚ) : ℚ := double (a - b)

/-- `f"{q:.2f}"`. -/
def fixed2 (q : ℚ) : Str :=
  let cents := (roundEven (magnitude q * 100)).toNat
  (if q < 0 then ['-'] else []) ++ (toString (cents / 100)).toList ++ '.'
    :: [Hex.digit (cents / 10 % 10), Hex.digit (cents % 10)]

/-- `s.rstrip(c)` for one character. -/
def rstripChar (s : Str) (c : Char) : Str := s.rdropWhile (· == c)

/-- One tenth is no double. -/
example : double (1 / 10) = 3602879701896397 / 36028797018963968 := by decide +kernel

example : fixed2 (fdiv 12345 1000) = "12.35".toList := by decide +kernel

/-! ## Numbers that are doubles -/

theorem roundEven_intCast (z : Int) : roundEven z = z := by
  rw [roundEven, Rat.floor_intCast, sub_self, if_pos (by norm_num)]

theorem twoPow_neg (j : Nat) : twoPow (-(j : Int)) = 1 / 2 ^ j := by
  unfold twoPow
  cases j with
  | zero => simp
  | succ j =>
    rw [if_neg (by omega)]
    simp

theorem exponent_le (q : ℚ) : exponent q ≤ Nat.log2 q.num.natAbs := by
  unfold exponent
  dsimp only
  split <;> omega

theorem num_dvd_of_dyadic (n k : Nat) : ((n : ℚ) / 2 ^ k).num ∣ n := by
  have h := Rat.num_dvd (n : Int) (show ((2 ^ k : Nat) : Int) ≠ 0 by positivity)
  rwa [Rat.divInt_eq_div, Int.cast_natCast, Int.cast_natCast, Nat.cast_pow, Nat.cast_ofNat] at h

/-- **A number with few bits is a double.** -/
theorem double_dyadic {n k : Nat} (hk : k ≤ 52) (hn : n < 2 ^ (53 - k)) :
    double ((n : ℚ) / 2 ^ k) = n / 2 ^ k := by
  rcases Nat.eq_zero_or_pos n with rfl | hpos
  · simp [double]
  have hexp : exponent ((n : ℚ) / 2 ^ k) ≤ 52 - k := by
    have hnum : ((n : ℚ) / 2 ^ k).num.natAbs ≤ n :=
      Nat.le_of_dvd hpos (Int.natAbs_dvd_natAbs.mpr (num_dvd_of_dyadic n k))
    have hnum0 : ((n : ℚ) / 2 ^ k).num.natAbs ≠ 0 := by
      rw [Int.natAbs_ne_zero, Ne, Rat.num_eq_zero]
      positivity
    have hlog := (Nat.log2_lt hnum0).mpr (Nat.lt_of_le_of_lt hnum hn)
    have hle := exponent_le ((n : ℚ) / 2 ^ k)
    omega
  obtain ⟨j, hj⟩ : ∃ j : Nat, exponent ((n : ℚ) / 2 ^ k) - 52 = -((j + k : Nat) : Int) :=
    ⟨(52 - k - exponent ((n : ℚ) / 2 ^ k)).toNat, by omega⟩
  have hne : (n : ℚ) / 2 ^ k ≠ 0 := by positivity
  have hunits : (n : ℚ) / 2 ^ k / (1 / 2 ^ (j + k)) = ((n * 2 ^ j : Int) : ℚ) := by
    push_cast
    field_simp
    ring
  rw [double, if_neg hne]
  dsimp only
  rw [hj, twoPow_neg, hunits, roundEven_intCast, ← hunits]
  field_simp

/-! ## How near the double is -/

theorem roundEven_error (q : ℚ) : |(roundEven q : ℚ) - q| ≤ 1 / 2 := by
  have hlo : (q.floor : ℚ) ≤ q := Rat.floor_le q
  have hhi : q < (q.floor + 1 : Int) := Rat.lt_floor_add_one q
  push_cast at hhi
  -- rounded down where the floor is near, and up where the next integer is
  rw [abs_le, roundEven]
  split
  · constructor <;> linarith
  split
  · push_cast
    constructor <;> linarith
  split
  · constructor <;> linarith
  · push_cast
    constructor <;> linarith

theorem double_error (q : ℚ) {j : Nat} (h : exponent q - 52 = -(j : Int)) :
    |double q - q| ≤ 1 / 2 ^ (j + 1) := by
  by_cases hq : q = 0
  · rw [hq, double, if_pos rfl, sub_zero, abs_zero]
    positivity
  have hunit : (0 : ℚ) < 1 / 2 ^ j := by positivity
  have hround := roundEven_error (q / (1 / 2 ^ j))
  rw [double, if_neg hq]
  dsimp only
  rw [h, twoPow_neg]
  calc |(roundEven (q / (1 / 2 ^ j)) : ℚ) * (1 / 2 ^ j) - q|
      = |(roundEven (q / (1 / 2 ^ j)) : ℚ) - q / (1 / 2 ^ j)| * (1 / 2 ^ j) := by
        rw [← abs_of_pos hunit, ← abs_mul, abs_of_pos hunit, sub_mul,
          div_mul_cancel₀ q (ne_of_gt hunit)]
    _ ≤ 1 / 2 * (1 / 2 ^ j) := mul_le_mul_of_nonneg_right hround (le_of_lt hunit)
    _ = 1 / 2 ^ (j + 1) := by rw [pow_succ]; ring

/-- The double of a quotient of small numbers. -/
theorem fdiv_error {n c : Nat} (hn : n < 2 ^ 16) (hc : 0 < c) :
    |fdiv n c - n / c| ≤ 1 / 2 ^ 38 := by
  -- the quotient is below 2 ^ 16, so the last place of its double is at most 2 ^ -37
  have hexp : exponent ((n : ℚ) / c) ≤ 15 := by
    have hnum : ((n : ℚ) / c).num.natAbs < 2 ^ 16 := by
      rcases Nat.eq_zero_or_pos n with rfl | hpos
      · simp
      have hdvd := Rat.num_dvd (n : Int) (show (c : Int) ≠ 0 by omega)
      rw [Rat.divInt_eq_div, Int.cast_natCast, Int.cast_natCast] at hdvd
      exact Nat.lt_of_le_of_lt (Nat.le_of_dvd hpos (Int.natAbs_dvd_natAbs.mpr hdvd)) hn
    have hle := exponent_le ((n : ℚ) / c)
    by_cases hzero : ((n : ℚ) / c).num.natAbs = 0
    · rw [hzero] at hle
      exact Int.le_trans hle (by decide)
    · have hlog := (Nat.log2_lt hzero).mpr hnum
      omega
  obtain ⟨j, hj⟩ : ∃ j : Nat, exponent ((n : ℚ) / c) - 52 = -((j + 37 : Nat) : Int) :=
    ⟨(15 - exponent ((n : ℚ) / c)).toNat, by omega⟩
  refine le_trans (double_error _ hj) ?_
  rw [one_div, one_div]
  exact inv_anti₀ (by positivity) (pow_le_pow_right₀ (by norm_num) (by omega))

/-- **Small numbers over one small divisor are told apart by their doubles.** -/
theorem fdiv_injective {a b c : Nat} (ha : a < 2 ^ 16) (hb : b < 2 ^ 16) (hc : 0 < c)
    (hsmall : c < 2 ^ 16) (h : fdiv a c = fdiv b c) : a = b := by
  have hcpos : (0 : ℚ) < c := by exact_mod_cast hc
  have hcsmall : (c : ℚ) < 2 ^ 16 := by exact_mod_cast hsmall
  have herr : |(a : ℚ) / c - b / c| ≤ 1 / 2 ^ 37 := by
    have hea := abs_le.mp (fdiv_error ha hc)
    have heb := abs_le.mp (fdiv_error hb hc)
    rw [h] at hea
    rw [abs_le]
    constructor <;> linarith [hea.1, hea.2, heb.1, heb.2]
  have hdiff : |(a : ℚ) - b| < 1 := by
    rw [← sub_div, abs_div, abs_of_pos hcpos, div_le_iff₀ hcpos] at herr
    linarith
  have hint : |(a : Int) - b| < 1 := by exact_mod_cast hdiff
  rw [Int.abs_lt_one_iff] at hint
  omega

end AutoDiag.Py
