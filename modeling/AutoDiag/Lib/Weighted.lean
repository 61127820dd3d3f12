import Mathlib.Algebra.Ring.Defs
import Mathlib.Tactic.Ring

/-!
# Weighted sums

A check value that is a sum of values times weights. A change of one value moves
the sum by the change times the weight (`total_set`), an exchange of two by the
difference of the values times the difference of the weights (`total_swap`); where
a product is zero only if a factor is, such a sum tells the texts apart.
-/

namespace AutoDiag.Weighted

variable {R : Type} [CommRing R]

/-- The sum of the values times their weights. -/
def total : List R → List R → R
  | w :: ws, v :: vs => v * w + total ws vs
  | _, _ => 0

/-- The values at `i` and at `j` exchanged. -/
def swap {α : Type} (vs : List α) (i j : Nat) (x y : α) : List α := (vs.set i y).set j x

theorem total_set {ws vs : List R} {i : Nat} {w v : R} (hw : ws[i]? = some w)
    (hv : vs[i]? = some v) (x : R) : total ws (vs.set i x) = total ws vs + (x - v) * w := by
  induction ws generalizing vs i with
  | nil => cases hw
  | cons w0 ws ih =>
    cases vs with
    | nil => cases hv
    | cons v0 vs =>
      cases i with
      | zero =>
        cases hw
        cases hv
        rw [List.set_cons_zero, total, total]
        ring
      | succ i =>
        rw [List.set_cons_succ, total, total, ih hw hv]
        ring

/-- Without weight a value does not matter. -/
theorem total_set_zero {ws vs : List R} {i : Nat} {v : R} (hw : ws[i]? = some 0)
    (hv : vs[i]? = some v) (x : R) : total ws (vs.set i x) = total ws vs := by
  rw [total_set hw hv, mul_zero, add_zero]

theorem total_swap {ws vs : List R} {i j : Nat} {w w' x y : R} (hij : i ≠ j)
    (hw : ws[i]? = some w) (hw' : ws[j]? = some w') (hx : vs[i]? = some x) (hy : vs[j]? = some y) :
    total ws (swap vs i j x y) = total ws vs + (y - x) * (w - w') := by
  have hy' : (vs.set i y)[j]? = some y := by rw [List.getElem?_set_ne hij, hy]
  rw [swap, total_set hw' hy', total_set hw hx]
  ring

section NoZeroDivisors

variable [NoZeroDivisors R]

/-- **A change of one value that has a weight is seen.** -/
theorem total_set_ne {ws vs : List R} {i : Nat} {w v x : R} (hw : ws[i]? = some w) (h0 : w ≠ 0)
    (hv : vs[i]? = some v) (hx : x ≠ v) : total ws (vs.set i x) ≠ total ws vs := by
  rw [total_set hw hv]
  exact add_ne_left.mpr (mul_ne_zero (sub_ne_zero.mpr hx) h0)

/-- **An exchange of two values of different weights is seen.** -/
theorem total_swap_ne {ws vs : List R} {i j : Nat} {w w' x y : R} (hij : i ≠ j)
    (hw : ws[i]? = some w) (hw' : ws[j]? = some w') (hne : w ≠ w') (hx : vs[i]? = some x)
    (hy : vs[j]? = some y) (hxy : x ≠ y) : total ws (swap vs i j x y) ≠ total ws vs := by
  rw [total_swap hij hw hw' hx hy]
  exact add_ne_left.mpr (mul_ne_zero (sub_ne_zero.mpr hxy.symm) (sub_ne_zero.mpr hne))

end NoZeroDivisors

end AutoDiag.Weighted
