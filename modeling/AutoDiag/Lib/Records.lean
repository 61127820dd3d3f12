import AutoDiag.Lib.Raise
import Mathlib.Data.List.Flatten

/-!
# Records of one size in a row

A list that begins with records of `n` items each and ends with less than one more.
An item of a record is found by the number of its record and its place in it, so a
loop over the numbers is a map over the records (`mapM_range`).
-/

namespace AutoDiag.Records

variable {ε α β : Type} {n : Nat} {rs : List (List α)} {tail : List α}

theorem length_flatten (h : ∀ r ∈ rs, r.length = n) : rs.flatten.length = n * rs.length := by
  induction rs with
  | nil => rfl
  | cons r rs ih =>
    rw [List.flatten_cons, List.length_append, h r (List.mem_cons_self ..),
      ih fun r hr => h r (List.mem_cons_of_mem _ hr), List.length_cons, Nat.mul_succ]
    omega

/-- The number of whole records. -/
theorem count (h : ∀ r ∈ rs, r.length = n) (htail : tail.length < n) :
    (rs.flatten ++ tail).length / n = rs.length := by
  rw [List.length_append, length_flatten h, Nat.mul_add_div (by omega),
    Nat.div_eq_of_lt htail, Nat.add_zero]

/-- **An item is found by the number of its record and its place there.** -/
theorem getElem?_flatten (h : ∀ r ∈ rs, r.length = n) {j k : Nat} {r : List α}
    (hr : rs[j]? = some r) (hk : k < n) : (rs.flatten ++ tail)[n * j + k]? = r[k]? := by
  induction rs generalizing j with
  | nil => cases hr
  | cons r₀ rs ih =>
    have hlen := h r₀ (List.mem_cons_self ..)
    rw [List.flatten_cons, List.append_assoc]
    cases j with
    | zero =>
      cases hr
      rw [Nat.mul_zero, Nat.zero_add, List.getElem?_append_left (by omega)]
    | succ j =>
      have hplace : n * (j + 1) + k - r₀.length = n * j + k := by
        rw [hlen, Nat.mul_succ]
        omega
      rw [List.getElem?_append_right (by rw [hlen, Nat.mul_succ]; omega), hplace]
      exact ih (fun r hr => h r (List.mem_cons_of_mem _ hr)) hr

/-- **A loop over the numbers of the records is a map over the records.** -/
theorem mapM_range {f : Nat → Except ε β} {g : List α → β}
    (h : ∀ j r, rs[j]? = some r → f j = .ok (g r)) :
    (List.range rs.length).mapM f = .ok (rs.map g) := by
  induction rs generalizing f with
  | nil => rfl
  | cons r rs ih =>
    rw [List.length_cons, List.range_succ_eq_map, List.mapM_cons, h 0 r rfl, Raise.ok_bind,
      List.mapM_map, ih (f := f ∘ Nat.succ) fun j r hr => h (j + 1) r hr]
    rfl

end AutoDiag.Records
