import AutoDiag.Lib.Curve25519
import AutoDiag.Security.CryptoProviders
import Mathlib.Data.Int.ModEq

/-!
# Points in extended coordinates

The integers of `EsLibEd25519` stand for elements of the field, and its points for
points of the curve: additions add them, and `scalarmult` multiplies them.
-/

namespace AutoDiag.Proof

open Security EsLibEd25519 Edwards Curve25519

/-! ## Numbers modulo `q` -/

/-- The prime of the source is that of the library. -/
theorem q_eq : q = (p : Int) := by decide

/-- Square and multiply, by the recursion on the exponent. -/
theorem powMod_eq (b : Int) (e : Nat) (m : Int) : powMod b e m = b ^ e % m := by
  induction e using Nat.strong_induction_on with
  | h e ih =>
    by_cases he : e = 0
    · rw [powMod, dif_pos he, he, pow_zero]
    · have hsquare : powMod b (e / 2) m * powMod b (e / 2) m % m = b ^ (2 * (e / 2)) % m := by
        rw [ih (e / 2) (by omega), ← Int.mul_emod, ← pow_add, ← two_mul]
      rw [powMod, dif_neg he]
      dsimp only
      by_cases hodd : e % 2 = 1
      · rw [if_pos hodd, hsquare, Int.mul_emod, Int.emod_emod, ← Int.mul_emod, ← pow_succ,
          show 2 * (e / 2) + 1 = e by omega]
      · rw [if_neg hodd, hsquare, show 2 * (e / 2) = e by omega]

theorem cast_emod_q (x : Int) : ((x % q : Int) : Fp) = x := by
  rw [q_eq, ZMod.intCast_mod]

theorem cast_powMod_q (b : Int) (e : Nat) : ((powMod b e q : Int) : Fp) = (b : Fp) ^ e := by
  rw [powMod_eq, cast_emod_q, Int.cast_pow]

/-- `_inv` is the inverse, and zero where there is none. -/
theorem cast_inv (x : Int) : ((inv x : Int) : Fp) = (x : Fp)⁻¹ := by
  have hexp : (q - 2).toNat = p - 2 := by decide
  rw [inv, cast_powMod_q, hexp]
  by_cases hx : (x : Fp) = 0
  · rw [hx, inv_zero, zero_pow (by decide)]
  · have hone := ZMod.pow_card_sub_one_eq_one hx
    rw [show p - 1 = p - 2 + 1 by decide, pow_succ] at hone
    exact eq_inv_of_mul_eq_one_left hone

/-- The constant of the source is that of the curve, as it is the quotient. -/
theorem cast_d : ((d : Int) : Fp) = curve.d := by
  have hne : (121666 : Fp) ≠ 0 := by
    have hcast : ((121666 : Nat) : Fp) ≠ (0 : Nat) := cast_ne (by decide)
    rwa [Nat.cast_ofNat, Nat.cast_zero] at hcast
  have hd : d = -121665 * inv 121666 % q := rfl
  have hmul : (dNat : Fp) * 121666 = -121665 := dNat_mul
  rw [hd, cast_emod_q, Int.cast_mul, cast_inv]
  push_cast
  exact ((eq_mul_inv_iff_mul_eq₀ hne).mpr hmul).symm

theorem cast_sqrtMinusOne : ((sqrtMinusOne : Int) : Fp) = i := by
  have hexp : ((q - 1) / 4).toNat = p / 4 := by decide
  rw [sqrtMinusOne, cast_powMod_q, hexp, Int.cast_ofNat]
  rfl

/-! ## Points -/

/-- The integers of a point as elements of the field. -/
def coordinates (r : EsLibEd25519.Point) : Extended Fp := Extended.cast p ⟨r.x, r.y, r.z, r.t⟩

/-- The formulas are the same, reduced in every line. -/
theorem coordinates_edwardsAdd (r s : EsLibEd25519.Point) :
    coordinates (edwardsAdd r s) = (coordinates r).add curve.d (coordinates s) := by
  have hadd := Extended.cast_addMod p d ⟨r.x, r.y, r.z, r.t⟩ ⟨s.x, s.y, s.z, s.t⟩
  rw [← q_eq, cast_d] at hadd
  exact hadd

/-- **`_scalarmult` multiplies the point that the coordinates represent.** -/
theorem scalarmult_represents {r : EsLibEd25519.Point} {P : Edwards.Point curve}
    (h : (coordinates r).Represents P) (e : Nat) :
    (coordinates (scalarmult r e)).Represents (e • P) := by
  induction e using Nat.strong_induction_on with
  | h e ih =>
    by_cases he : e = 0
    · have hzero : coordinates ⟨0, 1, 1, 0⟩ = ⟨0, 1, 1, 0⟩ := by
        simp [coordinates, Extended.cast]
      rw [scalarmult, dif_pos he, hzero, he, zero_nsmul]
      exact Extended.represents_zero
    · have hnext := h.doubleAndAdd (ih (e / 2) (by omega))
      rw [scalarmult, dif_neg he]
      dsimp only
      by_cases hodd : e % 2 = 1
      · rw [if_pos hodd] at hnext ⊢
        rwa [coordinates_edwardsAdd, coordinates_edwardsAdd]
      · rw [if_neg hodd] at hnext ⊢
        rwa [coordinates_edwardsAdd]

/-! ## The equations in integers -/

theorem cast_eq_iff (x y : Int) : (x : Fp) = y ↔ x ≡ y [ZMOD q] := by
  rw [q_eq]
  exact ZMod.intCast_eq_intCast_iff x y p

/-- A point that `_edwards_add` is meant for. -/
structure OnCurve (r : EsLibEd25519.Point) : Prop where
  z_ne_zero : ¬ r.z ≡ 0 [ZMOD q]
  x_mul_y : r.x * r.y ≡ r.z * r.t [ZMOD q]
  curve : (r.y ^ 2 - r.x ^ 2) * r.z ^ 2 ≡ r.z ^ 4 + d * r.x ^ 2 * r.y ^ 2 [ZMOD q]

theorem onCurve_iff {r : EsLibEd25519.Point} : OnCurve r ↔ (coordinates r).On curve := by
  have hz : (coordinates r).z = 0 ↔ r.z ≡ 0 [ZMOD q] := by
    rw [← cast_eq_iff, Int.cast_zero]
    rfl
  have hxy : (coordinates r).x * (coordinates r).y = (coordinates r).z * (coordinates r).t
      ↔ r.x * r.y ≡ r.z * r.t [ZMOD q] := by
    rw [← cast_eq_iff, Int.cast_mul, Int.cast_mul]
    rfl
  have hcurve : ((coordinates r).y ^ 2 - (coordinates r).x ^ 2) * (coordinates r).z ^ 2
        = (coordinates r).z ^ 4 + Curve25519.curve.d * (coordinates r).x ^ 2
          * (coordinates r).y ^ 2
      ↔ (r.y ^ 2 - r.x ^ 2) * r.z ^ 2 ≡ r.z ^ 4 + d * r.x ^ 2 * r.y ^ 2 [ZMOD q] := by
    rw [← cast_eq_iff, ← cast_d]
    push_cast
    rfl
  constructor
  · rintro ⟨h1, h2, h3⟩
    exact ⟨fun h0 => h1 (hz.mp h0), hxy.mpr h2, hcurve.mpr h3⟩
  · rintro ⟨h1, h2, h3⟩
    exact ⟨fun h0 => h1 (hz.mpr h0), hxy.mp h2, hcurve.mp h3⟩

/-- The affine point: the first two coordinates, divided by the third. -/
noncomputable def affinePoint {r : EsLibEd25519.Point} (h : OnCurve r) : Edwards.Point curve :=
  (onCurve_iff.mp h).point

/-- **Every multiple is on the curve and is the multiple of the affine point.** -/
theorem scalarmult_multiplies {r : EsLibEd25519.Point} (h : OnCurve r) (e : Nat) :
    ∃ h' : OnCurve (scalarmult r e), affinePoint h' = e • affinePoint h := by
  have hmul := scalarmult_represents (onCurve_iff.mp h).represents e
  have h' : OnCurve (scalarmult r e) := onCurve_iff.mpr hmul.on
  exact ⟨h', (onCurve_iff.mp h').represents.unique hmul⟩

theorem scalarmult_multiplies_base :
    ∃ (h : OnCurve ⟨baseX, baseY, 1, baseX * baseY⟩)
      (h' : OnCurve (scalarmult ⟨baseX, baseY, 1, baseX * baseY⟩ 5)),
      affinePoint h' = 5 • affinePoint h := by
  have h : OnCurve ⟨baseX, baseY, 1, baseX * baseY⟩ :=
    onCurve_iff.mpr baseCoordinates_represents.on
  exact ⟨h, scalarmult_multiplies h 5⟩

end AutoDiag.Proof
