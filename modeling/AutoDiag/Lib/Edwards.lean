import Mathlib.Algebra.Field.ZMod
import Mathlib.Algebra.Group.Even
import Mathlib.Tactic.FieldSimp
import Mathlib.Tactic.LinearCombination
import Mathlib.Tactic.Ring

/-!
# Twisted Edwards curves

The points of `y² - x² = 1 + d x² y²` over a field with a square root of minus one,
where `d` is no square. The addition of two points never divides by zero and makes
the points a commutative group; in extended coordinates it needs no division at all.
-/

namespace AutoDiag.Edwards

variable {F : Type} [Field F]

/-! ## Curves and their points -/

/-- The constants of a curve whose addition is complete. -/
structure Curve (F : Type) [Field F] where
  d : F
  i : F
  i_mul_i : i * i = -1
  not_isSquare_d : ¬ IsSquare d
  two_ne_zero : (2 : F) ≠ 0

def Curve.On (C : Curve F) (x y : F) : Prop := y ^ 2 - x ^ 2 = 1 + C.d * x ^ 2 * y ^ 2

/-- A point of a curve, in affine coordinates. -/
@[ext] structure Point (C : Curve F) where
  x : F
  y : F
  on : C.On x y

variable {C : Curve F} {x1 y1 x2 y2 x3 y3 : F}

theorem isSquare_of_sq_eq {d a c : F} (hc : c ≠ 0) (h : a ^ 2 = d * c ^ 2) : IsSquare d := by
  refine ⟨a / c, ?_⟩
  rw [div_mul_div_comm, ← sq, ← sq, h, mul_div_cancel_right₀ d (pow_ne_zero 2 hc)]

/-- What would make a denominator vanish makes `d` a square. -/
theorem Curve.cross_sq_ne_one (h1 : C.On x1 y1) (h2 : C.On x2 y2) :
    (C.d * x1 * x2 * y1 * y2) ^ 2 ≠ 1 := by
  intro h
  have hi : C.i * C.i = -1 := C.i_mul_i
  have hne : C.d * x1 * x2 * y1 * y2 ≠ 0 := fun h0 => by simp [h0] at h
  simp only [mul_ne_zero_iff] at hne
  obtain ⟨⟨⟨⟨-, hx1⟩, hx2⟩, hy1⟩, -⟩ := hne
  have hi0 : C.i ≠ 0 := fun h0 => by simp [h0] at hi
  unfold Curve.On at h1 h2
  -- the two signs of the second point's coordinate
  have hplus : (C.i * x1 + C.d * x1 * x2 * y1 * y2 * y1) ^ 2
      = C.d * (x1 * y1 * (C.i * x2 + y2)) ^ 2 := by
    linear_combination (x1 ^ 2 - C.d * x1 ^ 2 * y1 ^ 2 * x2 ^ 2) * hi + (y1 ^ 2 - 1) * h + h1
      - C.d * x1 ^ 2 * y1 ^ 2 * h2
  have hminus : (C.i * x1 - C.d * x1 * x2 * y1 * y2 * y1) ^ 2
      = C.d * (x1 * y1 * (C.i * x2 - y2)) ^ 2 := by
    linear_combination (x1 ^ 2 - C.d * x1 ^ 2 * y1 ^ 2 * x2 ^ 2) * hi + (y1 ^ 2 - 1) * h + h1
      - C.d * x1 ^ 2 * y1 ^ 2 * h2
  by_cases hsum : C.i * x2 + y2 = 0
  · have hdiff : C.i * x2 - y2 ≠ 0 := by
      intro hdiff
      have htwo : 2 * (C.i * x2) = 0 := by linear_combination hsum + hdiff
      exact mul_ne_zero C.two_ne_zero (mul_ne_zero hi0 hx2) htwo
    exact C.not_isSquare_d
      (isSquare_of_sq_eq (mul_ne_zero (mul_ne_zero hx1 hy1) hdiff) hminus)
  · exact C.not_isSquare_d (isSquare_of_sq_eq (mul_ne_zero (mul_ne_zero hx1 hy1) hsum) hplus)

/-- The denominator of the first coordinate is no zero, since `d` is no square. -/
theorem Curve.one_add_ne_zero (h1 : C.On x1 y1) (h2 : C.On x2 y2) :
    1 + C.d * x1 * x2 * y1 * y2 ≠ 0 := by
  intro h
  refine C.cross_sq_ne_one h1 h2 ?_
  linear_combination (C.d * x1 * x2 * y1 * y2 - 1) * h

/-- Nor is the denominator of the second one. -/
theorem Curve.one_sub_ne_zero (h1 : C.On x1 y1) (h2 : C.On x2 y2) :
    1 - C.d * x1 * x2 * y1 * y2 ≠ 0 := by
  intro h
  refine C.cross_sq_ne_one h1 h2 ?_
  linear_combination -(C.d * x1 * x2 * y1 * y2 + 1) * h

/-- The second coordinate of a point determines the square of the first. -/
theorem Curve.one_add_mul_sq_ne_zero (C : Curve F) (y : F) : 1 + C.d * y ^ 2 ≠ 0 := by
  intro h
  have hy : y ≠ 0 := fun h0 => by simp [h0] at h
  have hi : C.i * C.i = -1 := C.i_mul_i
  have hsq : C.i ^ 2 = C.d * y ^ 2 := by linear_combination hi - h
  exact C.not_isSquare_d (isSquare_of_sq_eq hy hsq)

/-! ## Addition -/

/-- The sum of two points is a point. -/
theorem Curve.on_add (h1 : C.On x1 y1) (h2 : C.On x2 y2) :
    C.On ((x1 * y2 + x2 * y1) / (1 + C.d * x1 * x2 * y1 * y2))
      ((y1 * y2 + x1 * x2) / (1 - C.d * x1 * x2 * y1 * y2)) := by
  have hplus := C.one_add_ne_zero h1 h2
  have hminus := C.one_sub_ne_zero h1 h2
  unfold Curve.On at h1 h2 ⊢
  generalize he : C.d * x1 * x2 * y1 * y2 = e at hplus hminus ⊢
  field_simp
  subst he
  linear_combination
    ((y2 ^ 2 - x2 ^ 2) * (1 + C.d ^ 2 * x1 ^ 2 * y1 ^ 2 * x2 ^ 2 * y2 ^ 2)
      - C.d * x2 ^ 2 * y2 ^ 2 * (y1 ^ 2 - x1 ^ 2 + 1 + C.d * x1 ^ 2 * y1 ^ 2)) * h1
    + ((1 + C.d * x1 ^ 2 * y1 ^ 2) * (1 + C.d ^ 2 * x1 ^ 2 * y1 ^ 2 * x2 ^ 2 * y2 ^ 2)
      - C.d * x1 ^ 2 * y1 ^ 2 * (y2 ^ 2 - x2 ^ 2 + 1 + C.d * x2 ^ 2 * y2 ^ 2)) * h2

namespace Point

variable (P Q R : Point C)

instance : Zero (Point C) := ⟨⟨0, 1, by simp [Curve.On]⟩⟩

instance : Neg (Point C) := ⟨fun P => ⟨-P.x, P.y, by simpa [Curve.On] using P.on⟩⟩

instance : Add (Point C) := ⟨fun P Q =>
  ⟨(P.x * Q.y + Q.x * P.y) / (1 + C.d * P.x * Q.x * P.y * Q.y),
    (P.y * Q.y + P.x * Q.x) / (1 - C.d * P.x * Q.x * P.y * Q.y), C.on_add P.on Q.on⟩⟩

@[simp] theorem zero_x : (0 : Point C).x = 0 := rfl

@[simp] theorem zero_y : (0 : Point C).y = 1 := rfl

@[simp] theorem neg_x : (-P).x = -P.x := rfl

@[simp] theorem neg_y : (-P).y = P.y := rfl

theorem add_x : (P + Q).x = (P.x * Q.y + Q.x * P.y) / (1 + C.d * P.x * Q.x * P.y * Q.y) := rfl

theorem add_y : (P + Q).y = (P.y * Q.y + P.x * Q.x) / (1 - C.d * P.x * Q.x * P.y * Q.y) := rfl

protected theorem add_comm : P + Q = Q + P := by
  ext
  · rw [add_x, add_x]
    congr 1 <;> ring
  · rw [add_y, add_y]
    congr 1 <;> ring

protected theorem zero_add : 0 + P = P := by
  ext
  · simp [add_x]
  · simp [add_y]

protected theorem neg_add_cancel : -P + P = 0 := by
  have hminus := C.one_sub_ne_zero (-P).on P.on
  have hon : P.y ^ 2 - P.x ^ 2 = 1 + C.d * P.x ^ 2 * P.y ^ 2 := P.on
  ext
  · rw [add_x, zero_x, div_eq_zero_iff]
    left
    rw [neg_x, neg_y]
    ring
  · rw [add_y, zero_y, div_eq_one_iff_eq hminus, neg_x, neg_y]
    linear_combination hon

end Point

/-! ## Associativity -/

section Associativity

variable {d e a b : F} (hplus : 1 + e ≠ 0) (hminus : 1 - e ≠ 0) (x y : F)

include hplus hminus

/-- The denominator of the sum of a third point with a sum of two, cleared. -/
theorem outer_denominator : 1 + d * (a / (1 + e)) * x * (b / (1 - e)) * y
    = ((1 - e) * (1 + e) + d * a * b * x * y) / ((1 - e) * (1 + e)) := by
  field_simp

theorem outer_x :
    (a / (1 + e) * y + x * (b / (1 - e))) / (1 + d * (a / (1 + e)) * x * (b / (1 - e)) * y)
      = (a * (1 - e) * y + b * (1 + e) * x) / ((1 - e) * (1 + e) + d * a * b * x * y) := by
  have hnum : a / (1 + e) * y + x * (b / (1 - e))
      = (a * (1 - e) * y + b * (1 + e) * x) / ((1 - e) * (1 + e)) := by
    field_simp
  rw [hnum, outer_denominator hplus hminus,
    div_div_div_cancel_right₀ (mul_ne_zero hminus hplus)]

theorem outer_denominator_sub : 1 - d * (a / (1 + e)) * x * (b / (1 - e)) * y
    = ((1 - e) * (1 + e) - d * a * b * x * y) / ((1 - e) * (1 + e)) := by
  have hneg := @outer_denominator F _ (-d) e a b hplus hminus x y
  simpa only [neg_mul, ← sub_eq_add_neg] using hneg

theorem outer_y :
    (b / (1 - e) * y + a / (1 + e) * x) / (1 - d * (a / (1 + e)) * x * (b / (1 - e)) * y)
      = (b * (1 + e) * y + a * (1 - e) * x) / ((1 - e) * (1 + e) - d * a * b * x * y) := by
  have hnum : b / (1 - e) * y + a / (1 + e) * x
      = (b * (1 + e) * y + a * (1 - e) * x) / ((1 - e) * (1 + e)) := by
    field_simp
  rw [hnum, outer_denominator_sub hplus hminus,
    div_div_div_cancel_right₀ (mul_ne_zero hminus hplus)]

variable {x y}

theorem outer_add_ne_zero (h : 1 + d * (a / (1 + e)) * x * (b / (1 - e)) * y ≠ 0) :
    (1 - e) * (1 + e) + d * a * b * x * y ≠ 0 := by
  rw [outer_denominator hplus hminus] at h
  exact (div_ne_zero_iff.mp h).1

theorem outer_sub_ne_zero (h : 1 - d * (a / (1 + e)) * x * (b / (1 - e)) * y ≠ 0) :
    (1 - e) * (1 + e) - d * a * b * x * y ≠ 0 := by
  rw [outer_denominator_sub hplus hminus] at h
  exact (div_ne_zero_iff.mp h).1

end Associativity

/-- The first coordinate of a sum of three does not change with the outer two exchanged. -/
theorem cross_x (h1 : C.On x1 y1) (h2 : C.On x2 y2) (h3 : C.On x3 y3) {e f a b g h : F}
    (he : e = C.d * x1 * x2 * y1 * y2) (hf : f = C.d * x3 * x2 * y3 * y2)
    (ha : a = x1 * y2 + x2 * y1) (hb : b = y1 * y2 + x1 * x2)
    (hg : g = x3 * y2 + x2 * y3) (hh : h = y3 * y2 + x3 * x2) :
    (a * (1 - e) * y3 + b * (1 + e) * x3) * ((1 - f) * (1 + f) + C.d * g * h * x1 * y1)
      = (g * (1 - f) * y1 + h * (1 + f) * x1) * ((1 - e) * (1 + e) + C.d * a * b * x3 * y3) := by
  unfold Curve.On at h1 h2 h3
  subst he hf ha hb hg hh
  linear_combination
    -(C.d * x3 * x2 * y3 * y2 * ((x3 * y2 + x2 * y3) * (1 - C.d * x3 * x2 * y3 * y2) * y1
      - (y3 * y2 + x3 * x2) * (1 + C.d * x3 * x2 * y3 * y2) * x1)) * h1
    + C.d ^ 2 * x1 * y1 * x2 * y2 * x3 * y3
      * (x3 * y3 * ((y1 * y2 + x1 * x2) * x3 - (x1 * y2 + x2 * y1) * y3)
        + x1 * y1 * ((x3 * y2 + x2 * y3) * y1 - (y3 * y2 + x3 * x2) * x1)) * h2
    + C.d * x1 * x2 * y1 * y2 * ((x1 * y2 + x2 * y1) * (1 - C.d * x1 * x2 * y1 * y2) * y3
      - (y1 * y2 + x1 * x2) * (1 + C.d * x1 * x2 * y1 * y2) * x3) * h3

theorem cross_y (h1 : C.On x1 y1) (h2 : C.On x2 y2) (h3 : C.On x3 y3) {e f a b g h : F}
    (he : e = C.d * x1 * x2 * y1 * y2) (hf : f = C.d * x3 * x2 * y3 * y2)
    (ha : a = x1 * y2 + x2 * y1) (hb : b = y1 * y2 + x1 * x2)
    (hg : g = x3 * y2 + x2 * y3) (hh : h = y3 * y2 + x3 * x2) :
    (b * (1 + e) * y3 + a * (1 - e) * x3) * ((1 - f) * (1 + f) - C.d * g * h * x1 * y1)
      = (h * (1 + f) * y1 + g * (1 - f) * x1) * ((1 - e) * (1 + e) - C.d * a * b * x3 * y3) := by
  unfold Curve.On at h1 h2 h3
  subst he hf ha hb hg hh
  linear_combination
    C.d * x3 * x2 * y3 * y2 * ((y3 * y2 + x3 * x2) * (1 + C.d * x3 * x2 * y3 * y2) * y1
      - (x3 * y2 + x2 * y3) * (1 - C.d * x3 * x2 * y3 * y2) * x1) * h1
    + C.d ^ 2 * x1 * y1 * x2 * y2 * x3 * y3
      * (x3 * y3 * ((y1 * y2 + x1 * x2) * y3 - (x1 * y2 + x2 * y1) * x3)
        - x1 * y1 * ((y3 * y2 + x3 * x2) * y1 - (x3 * y2 + x2 * y3) * x1)) * h2
    - C.d * x1 * x2 * y1 * y2 * ((y1 * y2 + x1 * x2) * (1 + C.d * x1 * x2 * y1 * y2) * y3
      - (x1 * y2 + x2 * y1) * (1 - C.d * x1 * x2 * y1 * y2) * x3) * h3

namespace Point

variable (P Q R : Point C)

/-- The outer two of three points may change places; with commutativity this is associativity. -/
theorem add_add_exchange : P + Q + R = R + Q + P := by
  have hplus := C.one_add_ne_zero P.on Q.on
  have hminus := C.one_sub_ne_zero P.on Q.on
  have hplus' := C.one_add_ne_zero R.on Q.on
  have hminus' := C.one_sub_ne_zero R.on Q.on
  have hleft := outer_add_ne_zero hplus hminus (C.one_add_ne_zero (P + Q).on R.on)
  have hright := outer_add_ne_zero hplus' hminus' (C.one_add_ne_zero (R + Q).on P.on)
  have hleft' := outer_sub_ne_zero hplus hminus (C.one_sub_ne_zero (P + Q).on R.on)
  have hright' := outer_sub_ne_zero hplus' hminus' (C.one_sub_ne_zero (R + Q).on P.on)
  ext
  · calc (P + Q + R).x = _ / _ := outer_x hplus hminus R.x R.y
      _ = _ / _ := (div_eq_div_iff hleft hright).mpr
          (cross_x P.on Q.on R.on rfl rfl rfl rfl rfl rfl)
      _ = (R + Q + P).x := (outer_x hplus' hminus' P.x P.y).symm
  · calc (P + Q + R).y = _ / _ := outer_y hplus hminus R.x R.y
      _ = _ / _ := (div_eq_div_iff hleft' hright').mpr
          (cross_y P.on Q.on R.on rfl rfl rfl rfl rfl rfl)
      _ = (R + Q + P).y := (outer_y hplus' hminus' P.x P.y).symm

protected theorem add_assoc : P + Q + R = P + (Q + R) := by
  rw [add_add_exchange, Point.add_comm R Q, Point.add_comm]

protected theorem add_zero : P + 0 = P := by
  rw [Point.add_comm, Point.zero_add]

/-- **The points of a curve are a commutative group.** -/
instance : AddCommGroup (Point C) where
  add_assoc := Point.add_assoc
  zero_add := Point.zero_add
  add_zero := Point.add_zero
  neg_add_cancel := Point.neg_add_cancel
  add_comm := Point.add_comm
  nsmul := nsmulRec
  zsmul := zsmulRec

end Point

/-! ## Extended coordinates -/

/-- A point as `x / z` and `y / z`, with `t` for `x y / z`. -/
structure Extended (R : Type) where
  x : R
  y : R
  z : R
  t : R

namespace Extended

/-- The equations of extended coordinates. -/
structure On (C : Curve F) (p : Extended F) : Prop where
  z_ne_zero : p.z ≠ 0
  x_mul_y : p.x * p.y = p.z * p.t
  curve : (p.y ^ 2 - p.x ^ 2) * p.z ^ 2 = p.z ^ 4 + C.d * p.x ^ 2 * p.y ^ 2

/-- The coordinates are those of a point, all multiplied by `z`. -/
structure Represents (p : Extended F) (P : Point C) : Prop where
  z_ne_zero : p.z ≠ 0
  x_eq : p.x = P.x * p.z
  y_eq : p.y = P.y * p.z
  t_eq : p.t = P.x * P.y * p.z

/-- The sum of two points without a division. -/
def add {R : Type} [CommRing R] (d : R) (p r : Extended R) : Extended R :=
  let a := (p.y - p.x) * (r.y - r.x)
  let b := (p.y + p.x) * (r.y + r.x)
  let c := p.t * 2 * d * r.t
  let dd := p.z * 2 * r.z
  ⟨(b - a) * (dd - c), (dd + c) * (b + a), (dd - c) * (dd + c), (b - a) * (b + a)⟩

variable {p r : Extended F} {P R : Point C}

/-- The affine point of extended coordinates. -/
def On.point (h : p.On C) : Point C where
  x := p.x / p.z
  y := p.y / p.z
  on := by
    have hz := h.z_ne_zero
    have hcurve := h.curve
    unfold Curve.On
    field_simp
    linear_combination hcurve

/-- Extended coordinates on the curve represent the point of their quotients. -/
theorem On.represents (h : p.On C) : p.Represents h.point := by
  have hz := h.z_ne_zero
  refine ⟨hz, (div_mul_cancel₀ p.x hz).symm, (div_mul_cancel₀ p.y hz).symm, ?_⟩
  have hxy := h.x_mul_y
  dsimp only [On.point]
  field_simp
  linear_combination -hxy

theorem Represents.on (h : p.Represents P) : p.On C := by
  have hon : P.y ^ 2 - P.x ^ 2 = 1 + C.d * P.x ^ 2 * P.y ^ 2 := P.on
  refine ⟨h.z_ne_zero, ?_, ?_⟩
  · rw [h.x_eq, h.y_eq, h.t_eq]
    ring
  · rw [h.x_eq, h.y_eq]
    linear_combination p.z ^ 4 * hon

/-- Coordinates represent no more than one point. -/
theorem Represents.unique {P' : Point C} (h : p.Represents P) (h' : p.Represents P') : P = P' := by
  ext
  · exact mul_right_cancel₀ h.z_ne_zero (h.x_eq.symm.trans h'.x_eq)
  · exact mul_right_cancel₀ h.z_ne_zero (h.y_eq.symm.trans h'.y_eq)

theorem represents_zero : (⟨0, 1, 1, 0⟩ : Extended F).Represents (0 : Point C) := by
  refine ⟨one_ne_zero, ?_, ?_, ?_⟩ <;> simp

/-- **The sum without a division represents the sum of the points.** -/
theorem Represents.add (hp : p.Represents P) (hr : r.Represents R) :
    (p.add C.d r).Represents (P + R) := by
  have hplus := C.one_add_ne_zero P.on R.on
  have hminus := C.one_sub_ne_zero P.on R.on
  have hscale : 2 * p.z * r.z ≠ 0 :=
    mul_ne_zero (mul_ne_zero C.two_ne_zero hp.z_ne_zero) hr.z_ne_zero
  -- the four factors of the coordinates, over the denominators
  have hb : (p.y + p.x) * (r.y + r.x) - (p.y - p.x) * (r.y - r.x)
      = 2 * p.z * r.z * ((P + R).x * (1 + C.d * P.x * R.x * P.y * R.y)) := by
    rw [Point.add_x, div_mul_cancel₀ _ hplus, hp.x_eq, hp.y_eq, hr.x_eq, hr.y_eq]
    ring
  have ha : (p.y + p.x) * (r.y + r.x) + (p.y - p.x) * (r.y - r.x)
      = 2 * p.z * r.z * ((P + R).y * (1 - C.d * P.x * R.x * P.y * R.y)) := by
    rw [Point.add_y, div_mul_cancel₀ _ hminus, hp.x_eq, hp.y_eq, hr.x_eq, hr.y_eq]
    ring
  have hf : p.z * 2 * r.z - p.t * 2 * C.d * r.t
      = 2 * p.z * r.z * (1 - C.d * P.x * R.x * P.y * R.y) := by
    rw [hp.t_eq, hr.t_eq]
    ring
  have hg : p.z * 2 * r.z + p.t * 2 * C.d * r.t
      = 2 * p.z * r.z * (1 + C.d * P.x * R.x * P.y * R.y) := by
    rw [hp.t_eq, hr.t_eq]
    ring
  refine ⟨?_, ?_, ?_, ?_⟩
  · dsimp only [Extended.add]
    rw [hf, hg]
    exact mul_ne_zero (mul_ne_zero hscale hminus) (mul_ne_zero hscale hplus)
  · dsimp only [Extended.add]
    rw [hb, hf, hg]
    ring
  · dsimp only [Extended.add]
    rw [ha, hf, hg]
    ring
  · dsimp only [Extended.add]
    rw [ha, hb, hf, hg]
    ring

/-- **Doubling half of a multiple, and adding the point once where the number is odd.** -/
theorem Represents.doubleAndAdd {half : Extended F} {e : Nat} (hp : p.Represents P)
    (h : half.Represents ((e / 2) • P)) :
    (if e % 2 = 1 then (half.add C.d half).add C.d p else half.add C.d half).Represents
      (e • P) := by
  have htwice := h.add h
  rw [← add_nsmul, ← two_mul] at htwice
  by_cases hodd : e % 2 = 1
  · have hsum := htwice.add hp
    rw [← succ_nsmul, show 2 * (e / 2) + 1 = e by omega] at hsum
    rwa [if_pos hodd]
  · rw [show 2 * (e / 2) = e by omega] at htwice
    rwa [if_neg hodd]

/-! ## Coordinates modulo a number -/

/-- Integers as coordinates of a prime field. -/
def cast (m : Nat) (p : Extended Int) : Extended (ZMod m) := ⟨p.x, p.y, p.z, p.t⟩

/-- The sum with every product reduced. -/
def addMod (m d : Int) (p r : Extended Int) : Extended Int :=
  let a := (p.y - p.x) * (r.y - r.x) % m
  let b := (p.y + p.x) * (r.y + r.x) % m
  let c := p.t * 2 * d * r.t % m
  let dd := p.z * 2 * r.z % m
  ⟨(b - a) * (dd - c) % m, (dd + c) * (b + a) % m, (dd - c) * (dd + c) % m, (b - a) * (b + a) % m⟩

/-- A multiple of a point by double-and-add, of a number of at most as many bits as are said. -/
def multipleMod (m d : Int) (p : Extended Int) : Nat → Nat → Extended Int
  | 0, _ => ⟨0, 1, 1, 0⟩
  | bits + 1, e =>
    let half := multipleMod m d p bits (e / 2)
    if e % 2 = 1 then addMod m d (addMod m d half half) p else addMod m d half half

/-- A remainder and its dividend are one element of the field. -/
theorem intCast_emod (m : Nat) (x : Int) : ((x % m : Int) : ZMod m) = x := by
  rw [ZMod.intCast_mod]

theorem cast_addMod (m : Nat) (d : Int) (p r : Extended Int) :
    (addMod m d p r).cast m = (p.cast m).add (d : ZMod m) (r.cast m) := by
  simp only [addMod, cast, add, intCast_emod, Int.cast_mul, Int.cast_add, Int.cast_sub,
    Int.cast_ofNat]

theorem Represents.multipleMod {m : Nat} [Fact m.Prime] {C : Curve (ZMod m)} {P : Point C}
    {d : Int} (hd : (d : ZMod m) = C.d) {p : Extended Int} (h : (p.cast m).Represents P)
    {bits e : Nat} (he : e < 2 ^ bits) :
    ((multipleMod m d p bits e).cast m).Represents (e • P) := by
  induction bits generalizing e with
  | zero =>
    rw [Nat.lt_one_iff.mp he, zero_nsmul]
    have hzero : (⟨0, 1, 1, 0⟩ : Extended Int).cast m = ⟨0, 1, 1, 0⟩ := by simp [cast]
    rw [Extended.multipleMod, hzero]
    exact represents_zero
  | succ bits ih =>
    have hhalf := h.doubleAndAdd (ih (by omega : e / 2 < 2 ^ bits))
    rw [Extended.multipleMod]
    split
    · rename_i hodd
      rw [if_pos hodd] at hhalf
      rwa [cast_addMod, cast_addMod, hd]
    · rename_i hodd
      rw [if_neg hodd] at hhalf
      rwa [cast_addMod, hd]

end Extended

end AutoDiag.Edwards
