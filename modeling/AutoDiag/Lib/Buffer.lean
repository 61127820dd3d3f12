import Mathlib.Logic.Function.Iterate
import Mathlib.Tactic.IntervalCases

/-!
# Buffers and their regions

A buffer of fixed size, the regions code reads and overwrites in it, and the loops
that work on a buffer one place at a time. A loop whose turns each write their own
place writes one region; what another region holds is not affected.

Reading is total, with the default item beyond the end, so the bounds are conditions
of the lemmas and not arguments of the operations.
-/

namespace AutoDiag.Buffer

variable {α : Type} [Inhabited α] {n k m : Nat}

/-! ## Places -/

/-- `buf[i] = x`. -/
def put (buf : Vector α n) (i : Nat) (x : α) : Vector α n := buf.setIfInBounds i x

/-- The first `n` items of a list. -/
def ofList (n : Nat) (l : List α) : Vector α n := Vector.ofFn fun i => l[i.val]!

theorem get_eq (v : Vector α n) {i : Nat} (h : i < n) : v[i]! = v[i] := getElem!_pos v i h

@[ext] theorem ext_get {v w : Vector α n} (h : ∀ i < n, v[i]! = w[i]!) : v = w := by
  refine Vector.ext ?_
  intro i hi
  rw [← get_eq v hi, ← get_eq w hi]
  exact h i hi

theorem get_ofFn (f : Fin n → α) {i : Nat} (h : i < n) : (Vector.ofFn f)[i]! = f ⟨i, h⟩ := by
  rw [get_eq _ h, Vector.getElem_ofFn]

/-- A write changes the place it writes to and no other. -/
theorem get_put (buf : Vector α n) {i j : Nat} (x : α) (h : j < n) :
    (put buf i x)[j]! = if i = j then x else buf[j]! := by
  rw [get_eq _ h, get_eq _ h, put, Vector.getElem_setIfInBounds h]

theorem get_put_self (buf : Vector α n) {i : Nat} (x : α) (h : i < n) : (put buf i x)[i]! = x := by
  rw [get_put buf x h, if_pos rfl]

theorem get_put_ne (buf : Vector α n) {i j : Nat} (x : α) (h : j < n) (hij : i ≠ j) :
    (put buf i x)[j]! = buf[j]! := by
  rw [get_put buf x h, if_neg hij]

theorem put_put (buf : Vector α n) (i : Nat) (x y : α) : put (put buf i x) i y = put buf i y := by
  ext j hj
  rw [get_put _ _ hj, get_put _ _ hj, get_put _ _ hj]
  split <;> rfl

theorem put_get (buf : Vector α n) (i : Nat) : put buf i buf[i]! = buf := by
  ext j hj
  rw [get_put _ _ hj]
  split
  · rename_i hij
    rw [hij]
  · rfl

theorem toList_ofList {l : List α} (h : l.length = n) : (ofList n l).toList = l := by
  refine List.ext_getElem (by simp [h]) ?_
  intro i hi hl
  rw [Vector.getElem_toList, ← get_eq _ (by omega), ofList, get_ofFn _ (by omega),
    getElem!_pos l i hl]

/-! ## Regions -/

/-- `buf[o:o + k]`. -/
def region (buf : Vector α n) (o k : Nat) : Vector α k := Vector.ofFn fun i => buf[o + i.val]!

/-- `buf[o:o + k] = v`, for `k` items. -/
def patch (buf : Vector α n) (o : Nat) (v : Vector α k) : Vector α n :=
  Vector.ofFn fun i => if o ≤ i.val ∧ i.val < o + k then v[i.val - o]! else buf[i.val]!

theorem get_region (buf : Vector α n) (o : Nat) {i : Nat} (h : i < k) :
    (region buf o k)[i]! = buf[o + i]! := get_ofFn _ h

/-- A patch is read inside its bounds, the buffer outside of them. -/
theorem get_patch (buf : Vector α n) (o : Nat) (v : Vector α k) {i : Nat} (h : i < n) :
    (patch buf o v)[i]! = if o ≤ i ∧ i < o + k then v[i - o]! else buf[i]! := get_ofFn _ h

theorem get_patch_of_not (buf : Vector α n) {o : Nat} (v : Vector α k) {i : Nat} (hi : i < n)
    (h : i < o ∨ o + k ≤ i) : (patch buf o v)[i]! = buf[i]! := by
  rw [get_patch buf o v hi, if_neg (by omega)]

theorem get_patch_of_mem (buf : Vector α n) {o : Nat} (v : Vector α k) {i : Nat} (hi : i < n)
    (h : o ≤ i ∧ i < o + k) : (patch buf o v)[i]! = v[i - o]! := by
  rw [get_patch buf o v hi, if_pos h]

/-- **What was written is what is read.** -/
theorem region_patch_self (buf : Vector α n) {o : Nat} (v : Vector α k) (h : o + k ≤ n) :
    region (patch buf o v) o k = v := by
  ext i hi
  rw [get_region _ _ hi, get_patch _ _ _ (by omega), if_pos (by omega), Nat.add_sub_cancel_left]

/-- **Writing one region leaves the others alone.** -/
theorem region_patch_disjoint (buf : Vector α n) {o p : Nat} (v : Vector α k) (h : p + m ≤ n)
    (hd : p + m ≤ o ∨ o + k ≤ p) : region (patch buf o v) p m = region buf p m := by
  ext i hi
  rw [get_region _ _ hi, get_region _ _ hi, get_patch _ _ _ (by omega), if_neg (by omega)]

/-- A buffer with `v` in one place and `buf` around it is `buf` with `v` written. -/
theorem eq_patch {buf w : Vector α n} {v : Vector α k} {o : Nat}
    (hin : ∀ i < k, w[o + i]! = v[i]!)
    (hout : ∀ j < n, ¬ (o ≤ j ∧ j < o + k) → w[j]! = buf[j]!) : w = patch buf o v := by
  ext j hj
  rw [get_patch _ _ _ hj]
  by_cases hd : o ≤ j ∧ j < o + k
  · rw [if_pos hd, ← hin (j - o) (by omega), Nat.add_sub_cancel' hd.1]
  · rw [if_neg hd, hout j hj hd]

/-- A region that is written back where it was read changes nothing. -/
theorem patch_region (buf : Vector α n) (o k : Nat) : patch buf o (region buf o k) = buf :=
  (eq_patch (fun _ hi => (get_region buf o hi).symm) (fun _ _ _ => rfl)).symm

theorem patch_zero (buf v : Vector α n) : patch buf 0 v = v :=
  (eq_patch (fun i _ => by rw [Nat.zero_add]) (fun j hj h => absurd hj (by omega))).symm

/-- The second of two writes to one region is what stays. -/
theorem patch_patch (buf : Vector α n) (o : Nat) (v w : Vector α k) :
    patch (patch buf o v) o w = patch buf o w := by
  ext j hj
  rw [get_patch _ _ _ hj, get_patch _ _ _ hj, get_patch _ _ _ hj]
  split <;> rfl

theorem get_append (v : Vector α k) (w : Vector α m) {i : Nat} (h : i < k + m) :
    (v ++ w)[i]! = if i < k then v[i]! else w[i - k]! := by
  rw [get_eq _ h, Vector.getElem_append]
  split
  · rename_i hi
    rw [get_eq v hi]
  · rw [get_eq w (by omega)]

/-- Two writes side by side are one. -/
theorem patch_append (buf : Vector α n) {o : Nat} (v : Vector α k) (w : Vector α m)
    (h : o + (k + m) ≤ n) : patch (patch buf o v) (o + k) w = patch buf o (v ++ w) := by
  refine eq_patch ?_ ?_
  · intro i hi
    rw [get_append _ _ hi]
    by_cases hik : i < k
    · rw [if_pos hik, get_patch_of_not _ _ (by omega) (by omega), get_patch _ _ _ (by omega),
        if_pos (by omega), Nat.add_sub_cancel_left]
    · rw [if_neg hik, get_patch _ _ _ (by omega), if_pos (by omega), Nat.add_sub_add_left]
  · intro j hj hout
    rw [get_patch_of_not _ _ hj (by omega), get_patch_of_not _ _ hj (by omega)]

/-- A region of a region is a region of the buffer, further on. -/
theorem region_region (buf : Vector α n) {o p : Nat} (h : p + m ≤ k) :
    region (region buf o k) p m = region buf (o + p) m := by
  ext i hi
  rw [get_region _ _ hi, get_region _ _ (by omega), get_region _ _ hi, Nat.add_assoc]

/-- Two adjacent regions are one. -/
theorem region_append (buf : Vector α n) (o : Nat) :
    region buf o k ++ region buf (o + k) m = region buf o (k + m) := by
  ext i hi
  rw [get_append _ _ hi, get_region _ _ hi]
  split
  · rename_i hlt
    rw [get_region _ _ hlt]
  · rw [get_region _ _ (by omega)]
    congr 1
    omega

/-- A write inside a region is a patch with the region after the write. -/
theorem put_eq_patch (buf : Vector α n) {o i : Nat} (hi : i < k) (h : o + k ≤ n) (x : α) :
    put buf (o + i) x = patch buf o (put (region buf o k) i x) := by
  refine eq_patch ?_ ?_
  · intro j hj
    rw [get_put _ _ (by omega), get_put _ _ hj, get_region _ _ hj]
    simp
  · intro j hj hout
    rw [get_put_ne _ _ hj (by omega)]

/-! ## Four places -/

theorem eta_four (v : Vector α 4) : #v[v[0]!, v[1]!, v[2]!, v[3]!] = v := by
  ext i hi
  interval_cases i <;> rfl

theorem put_four_eq_patch (buf : Vector α n) {o : Nat} (h : o + 4 ≤ n) (b0 b1 b2 b3 : α) :
    put (put (put (put buf o b0) (o + 1) b1) (o + 2) b2) (o + 3) b3
      = patch buf o #v[b0, b1, b2, b3] := by
  refine eq_patch ?_ ?_
  · intro i hi
    interval_cases i <;> simp (disch := omega) only [Nat.add_zero, get_put_self, get_put_ne] <;> rfl
  · intro j hj hout
    simp (disch := omega) only [get_put_ne]

/-! ## Loops -/

/-- `for i in range(k): s = body(i, s)`. -/
def loop {σ : Type} : (k : Nat) → (Nat → σ → σ) → σ → σ
  | 0, _, s => s
  | k + 1, body, s => body k (loop k body s)

/-- Bodies that agree on the counts of the loop make the same loop. -/
theorem loop_congr {σ : Type} {body body' : Nat → σ → σ}
    (h : ∀ i < k, ∀ s, body i s = body' i s) (s : σ) : loop k body s = loop k body' s := by
  induction k with
  | zero => rfl
  | succ k ih => rw [loop, loop, ih (fun i hi => h i (by omega)), h k (by omega)]

/-- What each turn preserves holds after the loop; `P i` is the state before turn `i`. -/
theorem loop_invariant {σ : Type} (P : Nat → σ → Prop) (body : Nat → σ → σ) {s : σ}
    (h0 : P 0 s) (hstep : ∀ i < k, ∀ s, P i s → P (i + 1) (body i s)) : P k (loop k body s) := by
  induction k with
  | zero => exact h0
  | succ k ih => exact hstep k (by omega) _ (ih (fun i hi => hstep i (by omega)))

/-- **A loop that writes one place a turn writes one region.** What a turn writes may depend on
the buffer, but not on the places the turns before it wrote. -/
theorem loop_put_eq_patch (buf : Vector α n) (o : Nat) (v : Vector α k)
    {f : Nat → Vector α n → α}
    (hf : ∀ i < k, ∀ b : Vector α n,
      (∀ j < n, ¬ (o ≤ j ∧ j < o + i) → b[j]! = buf[j]!) → f i b = v[i]!) :
    loop k (fun i b => put b (o + i) (f i b)) buf = patch buf o v := by
  -- before turn `i` the first `i` places of the region are written and the rest is as it was
  have hinv := loop_invariant (fun i (b : Vector α n) => ∀ j < n,
      b[j]! = if o ≤ j ∧ j < o + i then v[j - o]! else buf[j]!)
    (fun i b => put b (o + i) (f i b)) (s := buf) (k := k) ?_ ?_
  · ext j hj
    rw [hinv j hj, get_patch _ _ _ hj]
  · intro j hj
    rw [if_neg (by omega)]
  · intro i hi b hb j hj
    have hv : f i b = v[i]! := hf i hi b (fun j hj hout => by rw [hb j hj, if_neg hout])
    rw [get_put _ _ hj, hv, hb j hj]
    by_cases hji : o + i = j
    · rw [if_pos hji, if_pos (by omega), ← hji, Nat.add_sub_cancel_left]
    · by_cases hin : o ≤ j ∧ j < o + i
      · rw [if_neg hji, if_pos hin, if_pos (by omega)]
      · rw [if_neg hji, if_neg hin, if_neg (by omega)]

/-- `for i in range(k): buf[d + i] = g(buf[d + i], buf[s + i])`. -/
def zipInto (g : α → α → α) (buf : Vector α n) (d s k : Nat) : Vector α n :=
  loop k (fun i b => put b (d + i) (g b[d + i]! b[s + i]!)) buf

/-- `for i in range(k): buf[d + i] = buf[s + i]`. -/
def copyInto (buf : Vector α n) (d s k : Nat) : Vector α n := zipInto (fun _ y => y) buf d s k

theorem get_zipWith (g : α → α → α) (v w : Vector α k) {i : Nat} (h : i < k) :
    (Vector.zipWith g v w)[i]! = g v[i]! w[i]! := by
  rw [get_eq _ h, get_eq _ h, get_eq _ h, Vector.getElem_zipWith]

theorem zipInto_eq_patch (g : α → α → α) (buf : Vector α n) {d s : Nat} (hd : d + k ≤ n)
    (hs : s + k ≤ n) (hsep : s + k ≤ d ∨ d + k ≤ s) :
    zipInto g buf d s k = patch buf d (Vector.zipWith g (region buf d k) (region buf s k)) := by
  refine loop_put_eq_patch buf d _ ?_
  intro i hi b hb
  rw [hb (d + i) (by omega) (by omega), hb (s + i) (by omega) (by omega), get_zipWith _ _ _ hi,
    get_region _ _ hi, get_region _ _ hi]

theorem copyInto_eq_patch (buf : Vector α n) {d s : Nat} (hd : d + k ≤ n) (hs : s + k ≤ n)
    (hsep : s + k ≤ d ∨ d + k ≤ s) : copyInto buf d s k = patch buf d (region buf s k) := by
  rw [copyInto, zipInto_eq_patch _ buf hd hs hsep]
  congr 1
  ext i hi
  rw [get_zipWith _ _ _ hi]

/-- An operation on one region, repeated. -/
theorem iterate_eq_patch {op : Vector α n → Vector α n} {g : Vector α k → Vector α k} {o : Nat}
    (h : o + k ≤ n) (hop : ∀ buf, op buf = patch buf o (g (region buf o k))) (t : Nat)
    (buf : Vector α n) : op^[t] buf = patch buf o (g^[t] (region buf o k)) := by
  induction t generalizing buf with
  | zero => exact (patch_region buf o k).symm
  | succ t ih =>
      rw [Function.iterate_succ_apply, ih, hop, region_patch_self _ _ h, patch_patch,
        Function.iterate_succ_apply]

end AutoDiag.Buffer
