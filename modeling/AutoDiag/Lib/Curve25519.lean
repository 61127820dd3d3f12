import AutoDiag.Lib.Edwards
import AutoDiag.Lib.Pratt
import Mathlib.NumberTheory.LegendreSymbol.Basic

/-!
# The curve edwards25519

The field of `2 ^ 255 - 19` elements, square roots in it, and the twisted Edwards
curve over it with its base point, whose order is known.
-/

namespace AutoDiag.Curve25519

open Edwards

/-! ## The field -/

/-- The number of elements of the field. -/
def p : Nat := 2 ^ 255 - 19

/-- The primes that are needed to see that `p` is one. -/
def certificate : List Pratt.Row :=
  [⟨2, 1, []⟩, ⟨3, 2, [2]⟩, ⟨5, 2, [2, 2]⟩, ⟨7, 3, [2, 3]⟩, ⟨11, 2, [2, 5]⟩, ⟨13, 2, [2, 2, 3]⟩,
   ⟨17, 3, [2, 2, 2, 2]⟩, ⟨19, 2, [2, 3, 3]⟩, ⟨23, 5, [2, 11]⟩, ⟨29, 2, [2, 2, 7]⟩, ⟨31, 3, [2, 3,
   5]⟩, ⟨37, 2, [2, 2, 3, 3]⟩, ⟨41, 6, [2, 2, 2, 5]⟩, ⟨43, 3, [2, 3, 7]⟩, ⟨47, 5, [2, 23]⟩, ⟨53,
   2, [2, 2, 13]⟩, ⟨59, 2, [2, 29]⟩, ⟨83, 2, [2, 41]⟩, ⟨97, 5, [2, 2, 2, 2, 2, 3]⟩, ⟨103, 5, [2,
   3, 17]⟩, ⟨107, 2, [2, 53]⟩, ⟨127, 3, [2, 3, 3, 7]⟩, ⟨131, 2, [2, 5, 13]⟩, ⟨173, 2, [2, 2, 43]⟩,
   ⟨223, 3, [2, 3, 37]⟩, ⟨239, 7, [2, 7, 17]⟩, ⟨353, 3, [2, 2, 2, 2, 2, 11]⟩, ⟨419, 2, [2, 11,
   19]⟩, ⟨479, 13, [2, 239]⟩, ⟨487, 3, [2, 3, 3, 3, 3, 3]⟩, ⟨991, 6, [2, 3, 3, 5, 11]⟩, ⟨1723, 3,
   [2, 3, 7, 41]⟩, ⟨2437, 2, [2, 2, 3, 7, 29]⟩, ⟨3727, 3, [2, 3, 3, 3, 3, 23]⟩, ⟨4153, 5, [2, 2,
   2, 3, 173]⟩, ⟨9463, 3, [2, 3, 19, 83]⟩, ⟨32573, 2, [2, 2, 17, 479]⟩, ⟨37853, 2, [2, 2, 9463]⟩,
   ⟨57467, 2, [2, 59, 487]⟩, ⟨65147, 2, [2, 32573]⟩, ⟨75707, 2, [2, 37853]⟩, ⟨132049, 26, [2, 2,
   2, 2, 3, 3, 7, 131]⟩, ⟨430751, 17, [2, 5, 5, 5, 1723]⟩, ⟨569003, 2, [2, 7, 97, 419]⟩, ⟨1923133,
   2, [2, 2, 3, 43, 3727]⟩, ⟨8574133, 2, [2, 2, 3, 7, 103, 991]⟩, ⟨2773320623, 5, [2, 2437,
   569003]⟩, ⟨72106336199, 7, [2, 13, 2773320623]⟩, ⟨1919519569386763, 2, [2, 3, 7, 19, 47, 47,
   127, 8574133]⟩, ⟨31757755568855353, 10, [2, 2, 2, 3, 31, 107, 223, 4153, 430751]⟩,
   ⟨75445702479781427272750846543864801, 7, [2, 2, 2, 2, 2, 3, 3, 5, 5, 75707, 72106336199,
   1919519569386763]⟩, ⟨74058212732561358302231226437062788676166966415465897661863160754340907,
   2, [2, 3, 353, 57467, 132049, 1923133, 31757755568855353,
   75445702479781427272750846543864801]⟩,
   ⟨57896044618658097711785492504343953926634992332820282019728792003956564819949, 2, [2, 2, 3,
   65147, 74058212732561358302231226437062788676166966415465897661863160754340907]⟩]

theorem prime_p : p.Prime := by
  have hcheck : Pratt.check [] certificate = true := by decide +kernel
  exact Pratt.prime_of_check (fun _ h => absurd h List.not_mem_nil) hcheck certificate[52]
    (List.getElem_mem _)

instance : Fact p.Prime := ⟨prime_p⟩

abbrev Fp := ZMod p

/-- A power is what squaring makes of it. -/
theorem pow_eq {a bits e v : Nat} (he : e < 2 ^ bits) (h : Pratt.powMod p a bits e = v) :
    (a : Fp) ^ e = v := by
  rw [← h, Pratt.cast_powMod p a he]

theorem cast_eq {a b : Nat} (h : a % p = b % p) : (a : Fp) = b :=
  (ZMod.natCast_eq_natCast_iff' a b p).mpr h

theorem cast_ne {a b : Nat} (h : a % p ≠ b % p) : (a : Fp) ≠ b := fun heq =>
  h ((ZMod.natCast_eq_natCast_iff' a b p).mp heq)

/-! ## Square roots -/

/-- A square root of minus one. -/
def i : Fp := ((2 : Nat) : Fp) ^ (p / 4)

theorem i_mul_i : i * i = -1 := by
  have hpow : ((2 : Nat) : Fp) ^ (p / 2) = ((p - 1 : Nat) : Fp) :=
    @pow_eq 2 255 _ _ (by decide +kernel) (by decide +kernel)
  have hminus : ((p - 1 : Nat) : Fp) = -1 := by
    rw [Nat.cast_sub prime_p.one_lt.le, CharP.cast_eq_zero, Nat.cast_one, zero_sub]
  rw [i, ← pow_add, ← hminus, ← hpow, show p / 4 + p / 4 = p / 2 by decide]

/-- **A power of a square is its root, or is one times `i`.** -/
theorem sqrt_of_isSquare {a : Fp} (h : IsSquare a) :
    (a ^ ((p + 3) / 8)) ^ 2 = a ∨ (a ^ ((p + 3) / 8) * i) ^ 2 = a := by
  by_cases ha : a = 0
  · left
    rw [ha, zero_pow (by decide), zero_pow two_ne_zero]
  · have hhalf : a ^ (p / 2) = 1 := (ZMod.euler_criterion p ha).mp h
    have hfourth : ((a ^ ((p + 3) / 8)) ^ 2) ^ 2 = a ^ 2 := by
      rw [← pow_mul, ← pow_mul, show (p + 3) / 8 * (2 * 2) = p / 2 + 2 by decide, pow_add,
        hhalf, one_mul]
    rcases sq_eq_sq_iff_eq_or_eq_neg.mp hfourth with hroot | hroot
    · exact .inl hroot
    · right
      rw [mul_pow, hroot, sq i, i_mul_i, neg_mul_neg, mul_one]

/-! ## The curve -/

/-- The number below `p` that is `-121665 / 121666`. -/
def dNat : Nat :=
  37095705934669439343138083508754565189542113879843219016388785533085940283555

theorem dNat_mul : (dNat : Fp) * 121666 = -121665 := by
  have h : ((dNat * 121666 + 121665 : Nat) : Fp) = (0 : Nat) := cast_eq (by decide)
  push_cast at h
  linear_combination h

theorem not_isSquare_dNat : ¬ IsSquare (dNat : Fp) := by
  intro h
  have hne : (dNat : Fp) ≠ 0 := by
    have hcast : (dNat : Fp) ≠ (0 : Nat) := cast_ne (by decide)
    rwa [Nat.cast_zero] at hcast
  have hpow : (dNat : Fp) ^ (p / 2) = ((p - 1 : Nat) : Fp) :=
    @pow_eq dNat 255 _ _ (by decide +kernel) (by decide +kernel)
  rw [(ZMod.euler_criterion p hne).mp h, ← Nat.cast_one] at hpow
  exact cast_ne (by decide) hpow

theorem two_ne_zero_field : (2 : Fp) ≠ 0 := by
  have hcast : ((2 : Nat) : Fp) ≠ (0 : Nat) := cast_ne (by decide)
  rwa [Nat.cast_ofNat, Nat.cast_zero] at hcast

/-- The curve. -/
def curve : Curve Fp where
  d := dNat
  i := i
  i_mul_i := i_mul_i
  not_isSquare_d := not_isSquare_dNat
  two_ne_zero := two_ne_zero_field

/-! ## The base point -/

def baseX : Nat :=
  15112221349535400772501151409588531511454012693041857206046113283949847762202

def baseY : Nat :=
  46316835694926478169428394003475163141307993866256225615783033603165251855960

def base : Point curve where
  x := baseX
  y := baseY
  on := by
    have h : ((baseY ^ 2 : Nat) : Fp) = (baseX ^ 2 + (1 + dNat * baseX ^ 2 * baseY ^ 2) : Nat) :=
      cast_eq (by decide)
    push_cast at h
    unfold Curve.On
    have hd : curve.d = dNat := rfl
    rw [hd]
    linear_combination h

/-- The order of the base point. -/
def order : Nat := 2 ^ 252 + 27742317777372353535851937790883648493

/-- The base point in extended coordinates. -/
def baseCoordinates : Extended Int := ⟨baseX, baseY, 1, baseX * baseY⟩

theorem baseCoordinates_represents : (baseCoordinates.cast p).Represents base := by
  have hz : (baseCoordinates.cast p).z = 1 := Int.cast_one
  refine ⟨hz ▸ one_ne_zero, ?_, ?_, ?_⟩ <;>
    simp [Extended.cast, baseCoordinates, base]

/-- **The order of the base point takes it to zero.** -/
theorem order_nsmul_base : order • base = 0 := by
  have hd : ((dNat : Int) : Fp) = curve.d := Int.cast_natCast dNat
  have hrep := baseCoordinates_represents.multipleMod hd (show order < 2 ^ 253 by decide)
  have hzero : (Extended.multipleMod p dNat baseCoordinates 253 order).x = 0
      ∧ (Extended.multipleMod p dNat baseCoordinates 253 order).y
        = (Extended.multipleMod p dNat baseCoordinates 253 order).z := by
    decide +kernel
  generalize Extended.multipleMod p dNat baseCoordinates 253 order = sum at hrep hzero
  have hx : (0 : Fp) = (order • base).x * (sum.cast p).z := by
    rw [← hrep.x_eq, Extended.cast, hzero.1, Int.cast_zero]
  have hy : (sum.cast p).z = (order • base).y * (sum.cast p).z := by
    rw [← hrep.y_eq, Extended.cast, hzero.2]
  ext
  · exact (mul_eq_zero.mp hx.symm).resolve_right hrep.z_ne_zero
  · exact (mul_eq_right₀ hrep.z_ne_zero).mp hy.symm

/-- Where the order takes a point to zero, multiples may be reduced. -/
theorem mod_order_nsmul {P : Point curve} (h : order • P = 0) (n : Nat) :
    (n % order) • P = n • P := by
  conv_rhs => rw [← Nat.div_add_mod n order, add_nsmul, mul_nsmul, h, nsmul_zero, zero_add]

end AutoDiag.Curve25519
