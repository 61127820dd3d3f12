import Mathlib.NumberTheory.LucasPrimality

/-!
# Certificates of primality

A number is prime when some number has the order of a prime's generator modulo it.
A certificate is a table of such witnesses: each row may use the primes of the rows
before it as the factors of its predecessor.
-/

namespace AutoDiag.Pratt

/-! ## Powers modulo a number -/

/-- `a ^ e` modulo `m` by squaring, where `e` has at most as many bits as is said first. -/
def powMod (m a : Nat) : Nat → Nat → Nat
  | 0, _ => 1 % m
  | bits + 1, e =>
    let half := powMod m a bits (e / 2)
    if e % 2 = 1 then half * half % m * a % m else half * half % m

theorem powMod_eq (m a : Nat) {bits e : Nat} (h : e < 2 ^ bits) :
    powMod m a bits e = a ^ e % m := by
  induction bits generalizing e with
  | zero => rw [powMod, Nat.lt_one_iff.mp h, pow_zero]
  | succ bits ih =>
    rw [Nat.pow_succ] at h
    have hsquare : powMod m a bits (e / 2) * powMod m a bits (e / 2) % m
        = a ^ (2 * (e / 2)) % m := by
      rw [ih (by omega), ← Nat.mul_mod, ← pow_add, ← two_mul]
    rw [powMod]
    by_cases hodd : e % 2 = 1
    · have he : e = 2 * (e / 2) + 1 := by omega
      rw [if_pos hodd, hsquare, Nat.mod_mul_mod, ← pow_succ, ← he]
    · have he : e = 2 * (e / 2) := by omega
      rw [if_neg hodd, hsquare, ← he]

theorem cast_powMod (m a : Nat) {bits e : Nat} (h : e < 2 ^ bits) :
    ((powMod m a bits e : Nat) : ZMod m) = (a : ZMod m) ^ e := by
  rw [powMod_eq m a h, ZMod.natCast_mod, Nat.cast_pow]

/-! ## Certificates -/

/-- A number, a witness, and the prime factors of the number less one. -/
structure Row where
  p : Nat
  witness : Nat
  factors : List Nat

/-- The witness has order `p - 1`, given that the primes are known. -/
def Row.check (known : List Nat) (row : Row) : Bool :=
  let bits := row.p.log2 + 1
  row.factors.prod + 1 == row.p && row.factors.all (known.contains ·)
    && powMod row.p row.witness bits (row.p - 1) == 1 % row.p
    && row.factors.all fun f => powMod row.p row.witness bits ((row.p - 1) / f) != 1 % row.p

def check : List Nat → List Row → Bool
  | _, [] => true
  | known, row :: rows => row.check known && check (row.p :: known) rows

/-- A prime that divides a product of primes is one of them. -/
theorem mem_of_dvd_prod {q : Nat} (hq : q.Prime) {factors : List Nat}
    (h : ∀ f ∈ factors, f.Prime) (hdvd : q ∣ factors.prod) : q ∈ factors := by
  obtain ⟨f, hf, hqf⟩ := (hq.prime.dvd_prod_iff).mp hdvd
  rwa [(Nat.prime_dvd_prime_iff_eq hq (h f hf)).mp hqf]

theorem Row.prime {known : List Nat} (hknown : ∀ f ∈ known, f.Prime) {row : Row}
    (h : row.check known = true) : row.p.Prime := by
  simp only [Row.check, Bool.and_eq_true, List.all_eq_true, List.contains_iff_mem, beq_iff_eq,
    bne_iff_ne] at h
  obtain ⟨⟨⟨hprod, hfactors⟩, hone⟩, hne⟩ := h
  have hsize : ∀ e, e ≤ row.p → e < 2 ^ (row.p.log2 + 1) := fun e he =>
    Nat.lt_of_le_of_lt he Nat.lt_log2_self
  have hcast : ((1 % row.p : Nat) : ZMod row.p) = 1 := by rw [ZMod.natCast_mod, Nat.cast_one]
  refine lucas_primality row.p row.witness ?_ fun q hq hdvd hpow => ?_
  · rw [← cast_powMod row.p _ (hsize _ (Nat.sub_le _ _)), hone, hcast]
  · have hmem : q ∈ row.factors := by
      refine mem_of_dvd_prod hq (fun f hf => hknown f (hfactors f hf)) ?_
      rwa [← hprod, Nat.add_sub_cancel] at hdvd
    refine hne q hmem ?_
    have hlt : powMod row.p row.witness (row.p.log2 + 1) ((row.p - 1) / q) < row.p := by
      rw [powMod_eq _ _ (hsize _ ((Nat.div_le_self _ _).trans (Nat.sub_le _ _)))]
      exact Nat.mod_lt _ (by omega)
    rw [← cast_powMod row.p _ (hsize _ ((Nat.div_le_self _ _).trans (Nat.sub_le _ _))), ← hcast,
      ZMod.natCast_eq_natCast_iff'] at hpow
    rwa [Nat.mod_eq_of_lt hlt, Nat.mod_mod] at hpow

/-- **What a certificate lists is prime.** -/
theorem prime_of_check {known : List Nat} (hknown : ∀ f ∈ known, f.Prime) {rows : List Row}
    (h : check known rows = true) : ∀ row ∈ rows, row.p.Prime := by
  induction rows generalizing known with
  | nil => exact fun _ hrow => absurd hrow List.not_mem_nil
  | cons first rows ih =>
    rw [check, Bool.and_eq_true] at h
    have hfirst : first.p.Prime := Row.prime hknown h.1
    intro row hrow
    rcases List.mem_cons.mp hrow with rfl | hrow
    · exact hfirst
    · exact ih (List.forall_mem_cons.mpr ⟨hfirst, hknown⟩) h.2 row hrow

end AutoDiag.Pratt
