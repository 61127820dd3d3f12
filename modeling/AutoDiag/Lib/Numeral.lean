import Mathlib.Data.Int.ModEq
import Mathlib.Data.List.Forall2

/-!
# Numerals with tables of digits

A numeral whose places each have a table of digits of their own. The digits may be
negative or beyond the base, so that they are carried into the places before. They
can be read back all the same if no table has two digits with one residue.
-/

namespace AutoDiag.Numeral

/-- The value of a row of digits, the most significant one first. -/
def value (b : Int) : List Int → Int
  | [] => 0
  | d :: ds => d * b ^ ds.length + value b ds

/-- No two digits of a table have one residue. -/
def Distinct (b : Int) (table : List Int) : Prop :=
  ∀ x ∈ table, ∀ y ∈ table, x ≡ y [ZMOD b] → x = y

instance (b : Int) (table : List Int) : Decidable (Distinct b table) :=
  inferInstanceAs (Decidable (∀ x ∈ table, ∀ y ∈ table, x ≡ y [ZMOD b] → x = y))

/-- The places after the first one are left over when its power of the base is divided out. -/
theorem value_cons_modEq (b d : Int) (ds : List Int) :
    value b (d :: ds) ≡ value b ds [ZMOD b ^ ds.length] := by
  have hpower : d * b ^ ds.length ≡ 0 [ZMOD b ^ ds.length] :=
    Int.modEq_zero_iff_dvd.mpr (dvd_mul_left _ _)
  calc value b (d :: ds) = d * b ^ ds.length + value b ds := rfl
    _ ≡ 0 + value b ds [ZMOD b ^ ds.length] := hpower.add_right _
    _ = value b ds := zero_add _

/--
**The digits can be read back** from the value modulo the power of the base: the last
places first, since nothing is carried into them.
-/
theorem eq_of_value_modEq {b : Int} (hb : b ≠ 0) {tables : List (List Int)}
    (hdistinct : ∀ table ∈ tables, Distinct b table) {ds ds' : List Int}
    (hds : List.Forall₂ (· ∈ ·) ds tables) (hds' : List.Forall₂ (· ∈ ·) ds' tables)
    (h : value b ds ≡ value b ds' [ZMOD b ^ tables.length]) : ds = ds' := by
  induction tables generalizing ds ds' with
  | nil =>
    cases hds
    cases hds'
    rfl
  | cons table tables ih =>
    cases hds with
    | cons hd htail =>
      cases hds' with
      | cons hd' htail' =>
        rename_i d es d' es'
        obtain ⟨htable, htables⟩ := List.forall_mem_cons.mp hdistinct
        have hlen := htail.length_eq
        have hlen' := htail'.length_eq
        rw [List.length_cons] at h
        -- the digits of the later places, modulo the smaller power
        have hlast : value b es ≡ value b es' [ZMOD b ^ tables.length] := by
          have hsmall := h.of_dvd (pow_dvd_pow b (Nat.le_succ tables.length))
          have hes := value_cons_modEq b d es
          have hes' := value_cons_modEq b d' es'
          rw [hlen] at hes
          rw [hlen'] at hes'
          exact hes.symm.trans (hsmall.trans hes')
        have heq : es = es' := ih htables htail htail' hlast
        subst heq
        -- and with these the same, the first digit modulo the base
        have hfirst : d ≡ d' [ZMOD b] := by
          rw [value, value, hlen, pow_succ', ← hlen] at h
          exact Int.ModEq.mul_right_cancel' (pow_ne_zero _ hb) (h.add_right_cancel' _)
        rw [htable d hd d' hd' hfirst]

end AutoDiag.Numeral
