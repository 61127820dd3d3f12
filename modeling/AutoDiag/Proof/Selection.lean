import AutoDiag.Proof.Asked
import AutoDiag.Security.Powertrain
import AutoDiag.Security.ShortProviders

/-!
# What selects a row

The powertrain providers shift, mask and set bits to arrive at the number of a row
or at an index of a table. Here is which number that is, in terms of the bits of
the seed word.
-/

namespace AutoDiag.Proof

open Raise Security BitUtility

/-! ## Bits of a word -/

/-- The number that three bits make. -/
def rowOf (bit2 bit1 bit0 : Bool) : Nat := 4 * bit2.toNat + 2 * bit1.toNat + bit0.toNat

/-- Three bits number eight rows. -/
theorem rowOf_lt (bit2 bit1 bit0 : Bool) : rowOf bit2 bit1 bit0 < 8 := by
  cases bit2 <;> cases bit1 <;> cases bit0 <;> decide

theorem rowNumber_eq (bit2 bit1 bit0 : Nat) :
    rowNumber bit2 bit1 bit0 = .ok (rowOf (bit2 != 0) (bit1 != 0) (bit0 != 0)) := by
  have hbit : ∀ (bit j : Nat) (k : Int), rowBit bit j k = rowBit (bit != 0).toNat j k := by
    intro bit j k
    cases bit with
    | zero => rfl
    | succ bit => rw [rowBit, if_pos (Nat.succ_ne_zero bit)]; rfl
  rw [rowNumber, hbit bit0]
  simp only [hbit bit1, hbit bit2]
  cases bit2 != 0 <;> cases bit1 != 0 <;> cases bit0 != 0 <;> rfl

theorem getBit_eq (x : Nat) {k : Nat} (h : k ≤ 7) : getBit x k = .ok (x.testBit k).toNat := by
  unfold getBit
  rw [if_neg (by omega), shiftCount, if_neg (by omega), ok_bind, Int.toNat_natCast,
    Nat.toNat_testBit, Nat.shiftRight_eq_div_pow, Nat.and_one_is_mod]
  rfl

theorem getByte_eq (x : Nat) {k : Nat} (h : k ≤ 3) :
    getByte x k = .ok (x >>> (8 * k) &&& 0xFF) := by
  unfold getByte
  rw [if_neg (by omega), shiftCount, if_neg (by omega), ok_bind,
    show (8 * (k : Int)).toNat = 8 * k by omega]
  rfl

/-- A bit of a byte of a word is a bit of the word. -/
theorem testBit_byte (x j : Nat) {k : Nat} (h : k < 8) :
    (x >>> (8 * j) &&& 0xFF).testBit k = x.testBit (8 * j + k) := by
  rw [Nat.testBit_and, Nat.testBit_shiftRight, show (0xFF : Nat) = 2 ^ 8 - 1 from rfl,
    Nat.testBit_two_pow_sub_one, decide_eq_true h, Bool.and_true]

theorem testBit_u32 (x : Nat) {k : Nat} (h : k < 32) : (x &&& u32).testBit k = x.testBit k := by
  rw [Nat.testBit_and, show u32 = 2 ^ 32 - 1 from rfl, Nat.testBit_two_pow_sub_one,
    decide_eq_true h, Bool.and_true]

/-- The bits of a number are those of its bytes. -/
theorem testBit_cons (n : Nat) (b : UInt8) (k : Nat) :
    (256 * n + b.toNat).testBit k = if k < 8 then b.toNat.testBit k else n.testBit (k - 8) :=
  Nat.testBit_two_pow_mul_add n b.toNat_lt k

theorem testBit_word (b0 b1 b2 b3 : UInt8) {k : Nat} (h : k < 8) :
    (bytesToInt [b0, b1, b2, b3] .big 0).testBit k = b3.toNat.testBit k
      ∧ (bytesToInt [b0, b1, b2, b3] .big 0).testBit (8 + k) = b2.toNat.testBit k
      ∧ (bytesToInt [b0, b1, b2, b3] .big 0).testBit (16 + k) = b1.toNat.testBit k
      ∧ (bytesToInt [b0, b1, b2, b3] .big 0).testBit (24 + k) = b0.toNat.testBit k := by
  have hword : bytesToInt [b0, b1, b2, b3] .big 0
      = (256 * (256 * (256 * (256 * 0 + b0.toNat) + b1.toNat) + b2.toNat) + b3.toNat) &&& u32 := rfl
  rw [hword]
  refine ⟨?_, ?_, ?_, ?_⟩
  · rw [testBit_u32 _ (by omega), testBit_cons, if_pos h]
  · rw [testBit_u32 _ (by omega), testBit_cons, if_neg (by omega), testBit_cons, if_pos (by omega)]
    simp
  · rw [testBit_u32 _ (by omega), testBit_cons, if_neg (by omega), testBit_cons, if_neg (by omega),
      testBit_cons, if_pos (by omega)]
    congr 1
    omega
  · rw [testBit_u32 _ (by omega), testBit_cons, if_neg (by omega), testBit_cons, if_neg (by omega),
      testBit_cons, if_neg (by omega), testBit_cons, if_pos (by omega)]
    congr 1
    omega

/-! ## The word of a row -/

/-- A byte of a word whose bytes from there on are zero. -/
theorem setByte_eq {x b k : Nat} (hx : x < 2 ^ (8 * k)) (hb : b < 256) (hk : k ≤ 3) :
    setByte x b k = .ok (2 ^ (8 * k) * b + x) := by
  have hkeep : x &&& (u32 ^^^ 0xFF <<< (8 * k)) = x := by
    refine Nat.eq_of_testBit_eq fun i => ?_
    by_cases hi : i < 8 * k
    · rw [Nat.testBit_and, Nat.testBit_xor, show u32 = 2 ^ 32 - 1 from rfl,
        Nat.testBit_two_pow_sub_one, decide_eq_true (by omega : i < 32), Nat.testBit_shiftLeft,
        decide_eq_false (by omega : ¬ 8 * k ≤ i)]
      simp
    · have hlt : x < 2 ^ i := Nat.lt_of_lt_of_le hx (Nat.pow_le_pow_right (by decide) (by omega))
      rw [Nat.testBit_and, Nat.testBit_lt_two_pow hlt, Bool.false_and]
  have hor : x ||| b <<< (8 * k) = 2 ^ (8 * k) * b + x := by
    rw [Nat.two_pow_add_eq_or_of_lt hx, Nat.or_comm, Nat.shiftLeft_eq, Nat.mul_comm]
  have hlt : 2 ^ (8 * k) * b + x < 2 ^ 32 := by
    calc 2 ^ (8 * k) * b + x < 2 ^ (8 * k) * (b + 1) := by rw [Nat.mul_succ]; omega
      _ ≤ 2 ^ (8 * k) * 2 ^ 8 := Nat.mul_le_mul_left _ hb
      _ = 2 ^ (8 * k + 8) := (Nat.pow_add ..).symm
      _ ≤ 2 ^ 32 := Nat.pow_le_pow_right (by decide) (by omega)
  unfold setByte
  rw [if_neg (by omega), shiftCount, if_neg (by omega), ok_bind,
    show (8 * (k : Int)).toNat = 8 * k by omega]
  dsimp only
  rw [hkeep, show (0xFF : Nat) = 2 ^ 8 - 1 from rfl, Nat.and_two_pow_sub_one_eq_mod,
    Nat.mod_eq_of_lt hb, hor, show u32 = 2 ^ 32 - 1 from rfl, Nat.and_two_pow_sub_one_eq_mod,
    Nat.mod_eq_of_lt hlt]
  rfl

theorem setByte_returns {x b k : Nat} (hk : k ≤ 3) : Returns (setByte x b k) := by
  unfold setByte
  rw [if_neg (by omega), shiftCount, if_neg (by omega)]
  exact returns_ok _

theorem place_ends (row : List Nat) (place x : Nat) {k : Nat} (hk : k ≤ 3) :
    ReturnsIff Fault (place < row.length) (do setByte x (← Py.item row place) k) :=
  returnsIff_bind_left (item_ends row place) fun _ _ => setByte_returns hk

/-- A row makes a word when it holds all the four places. -/
theorem rowWord_ends {matrix : List (List Nat)} {row : List Nat} {bit2 bit1 bit0 : Nat}
    (h : matrix[rowOf (bit2 != 0) (bit1 != 0) (bit0 != 0)]? = some row) (p0 p1 p2 p3 : Nat) :
    ReturnsIff Fault (p0 < row.length ∧ p1 < row.length ∧ p2 < row.length ∧ p3 < row.length)
      (rowWord [p0, p1, p2, p3] bit2 bit1 bit0 matrix) := by
  unfold rowWord
  rw [rowNumber_eq, ok_bind, Py.item_ok_iff.mpr h, ok_bind]
  refine returnsIff_bind_left ?_ fun _ _ => returns_pure _
  simp only [List.zip_cons_cons, List.zip_nil_right, List.foldlM_cons, List.foldlM_nil]
  refine returnsIff_bind (place_ends row p0 _ (by decide : 0 ≤ 3)) fun _ _ => ?_
  refine returnsIff_bind (place_ends row p1 _ (by decide : 1 ≤ 3)) fun _ _ => ?_
  refine returnsIff_bind (place_ends row p2 _ (by decide : 2 ≤ 3)) fun _ _ => ?_
  exact returnsIff_bind_left (place_ends row p3 _ (by decide : 3 ≤ 3)) fun _ _ => returns_pure _

/-- Any row makes a word when all of them hold four bytes. -/
theorem anyRow_returns {matrix : List (List Nat)} (h8 : matrix.length = 8)
    (hrows : ∀ row ∈ matrix, row.length = 4) {p0 p1 p2 p3 : Nat} (h0 : p0 < 4) (h1 : p1 < 4)
    (h2 : p2 < 4) (h3 : p3 < 4) (bit2 bit1 bit0 : Nat) :
    Returns (rowWord [p0, p1, p2, p3] bit2 bit1 bit0 matrix) := by
  have hlt := rowOf_lt (bit2 != 0) (bit1 != 0) (bit0 != 0)
  have hrow := List.getElem?_eq_getElem (Nat.lt_of_lt_of_eq hlt h8.symm)
  refine (rowWord_ends hrow p0 p1 p2 p3).iff.mpr ?_
  rw [hrows _ (List.getElem_mem _)]
  exact ⟨h0, h1, h2, h3⟩

theorem createDValue_ends {matrix : List (List Nat)} {row : Bytes} {bit2 bit1 bit0 : Nat}
    (h : matrix[rowOf (bit2 != 0) (bit1 != 0) (bit0 != 0)]? = some (row.map UInt8.toNat)) :
    ReturnsIff Fault (4 ≤ row.length) (createDValue bit2 bit1 bit0 matrix) := by
  refine (rowWord_ends h 3 2 1 0).congr ?_
  rw [List.length_map]
  omega

/-- The D value is the word of the selected row, the first byte at the top. -/
theorem createDValue_eq {matrix : List (List Nat)} {row : Bytes} {bit2 bit1 bit0 : Nat}
    (h : matrix[rowOf (bit2 != 0) (bit1 != 0) (bit0 != 0)]? = some (row.map UInt8.toNat))
    (hlen : 4 ≤ row.length) :
    createDValue bit2 bit1 bit0 matrix = .ok (bytesToInt row .big 0) := by
  obtain ⟨r0, r1, r2, r3, more, rfl⟩ : ∃ r0 r1 r2 r3 more, row = r0 :: r1 :: r2 :: r3 :: more := by
    match row, hlen with
    | r0 :: r1 :: r2 :: r3 :: more, _ => exact ⟨r0, r1, r2, r3, more, rfl⟩
  have h0 := r0.toNat_lt
  have h1 := r1.toNat_lt
  have h2 := r2.toNat_lt
  have h3 := r3.toNat_lt
  -- the bytes are set from the last one, at the bottom, upwards
  have e0 : setByte 0 r3.toNat 0 = .ok _ := @setByte_eq 0 r3.toNat 0 (by omega) h3 (by omega)
  have e1 : setByte _ r2.toNat 1 = .ok _ :=
    @setByte_eq (2 ^ 0 * r3.toNat + 0) r2.toNat 1 (by omega) h2 (by omega)
  have e2 : setByte _ r1.toNat 2 = .ok _ :=
    @setByte_eq (2 ^ 8 * r2.toNat + (2 ^ 0 * r3.toNat + 0)) r1.toNat 2 (by omega) h1 (by omega)
  have e3 : setByte _ r0.toNat 3 = .ok _ :=
    @setByte_eq (2 ^ 16 * r1.toNat + (2 ^ 8 * r2.toNat + (2 ^ 0 * r3.toNat + 0))) r0.toNat 3
      (by omega) h0 (by omega)
  have hword : bytesToInt (r0 :: r1 :: r2 :: r3 :: more) .big 0
      = (256 * (256 * (256 * (256 * 0 + r0.toNat) + r1.toNat) + r2.toNat) + r3.toNat) &&& u32 := rfl
  have hitems : ∀ row : List Nat, row = (r0 :: r1 :: r2 :: r3 :: more).map UInt8.toNat →
      Py.item row 0 = .ok r0.toNat ∧ Py.item row 1 = .ok r1.toNat
        ∧ Py.item row 2 = .ok r2.toNat ∧ Py.item row 3 = .ok r3.toNat := by
    rintro row rfl
    exact ⟨rfl, rfl, rfl, rfl⟩
  obtain ⟨i0, i1, i2, i3⟩ := hitems _ rfl
  unfold createDValue rowWord
  rw [rowNumber_eq, ok_bind, Py.item_ok_iff.mpr h, ok_bind]
  simp only [List.zip_cons_cons, List.zip_nil_right, List.foldlM_cons, List.foldlM_nil, i0, i1, i2,
    i3, ok_bind, e0, e1, e2, e3, pure_eq_ok, hword]
  congr 2
  omega

/-! ## Indices of the Bosch and Conti tables -/

/-- The bits of a number that are set in a mask, below a place. -/
def maskedBits (x mask n : Nat) : List Nat :=
  ((List.range n).filter fun i => mask.testBit i).map fun i => (x.testBit i).toNat

/-- The bits of `x` at the places of a mask of sixteen bits, closed up. -/
def closedUp (x mask : Nat) : Nat := Nat.ofDigits 2 (maskedBits x mask 16)

theorem maskedBits_succ (x mask n : Nat) : maskedBits x mask (n + 1)
    = maskedBits x mask n ++ if mask.testBit n then [(x.testBit n).toNat] else [] := by
  unfold maskedBits
  rw [List.range_succ, List.filter_append, List.map_append]
  cases h : mask.testBit n <;> simp [h]

theorem ofDigits_maskedBits_lt (x mask n : Nat) :
    Nat.ofDigits 2 (maskedBits x mask n) < 2 ^ (maskedBits x mask n).length := by
  refine Nat.ofDigits_lt_base_pow_length (by decide) ?_
  intro d hd
  obtain ⟨i, -, rfl⟩ := List.mem_map.mp hd
  exact Bool.toNat_lt _

theorem maskedBits_length_le (x mask n : Nat) : (maskedBits x mask n).length ≤ n := by
  unfold maskedBits
  rw [List.length_map]
  exact (List.length_filter_le _ _).trans (List.length_range ..).le

/-- After `n` turns, the bits below place `n` are closed up. -/
theorem turns_eq (x mask : Nat) {n : Nat} (h : n ≤ 16) :
    (PowertrainBoschContiSecurityAlgo2.turn x mask)^[n] ⟨1, 1, 0⟩
      = ⟨2 ^ n, 2 ^ (maskedBits x mask n).length, Nat.ofDigits 2 (maskedBits x mask n)⟩ := by
  induction n with
  | zero => rfl
  | succ n ih =>
    have hbit : ∀ y : Nat, 0 < 2 ^ n &&& y ↔ y.testBit n = true := by
      intro y
      rw [Nat.and_comm, Nat.and_two_pow]
      cases y.testBit n <;> simp
    have hlen := maskedBits_length_le x mask n
    have hdouble : ∀ k, k ≤ n → 2 ^ k * 2 &&& u32 = 2 ^ (k + 1) := by
      intro k hk
      rw [show u32 = 2 ^ 32 - 1 from rfl, Nat.and_two_pow_sub_one_eq_mod, ← Nat.pow_succ]
      exact Nat.mod_eq_of_lt (Nat.pow_lt_pow_right (by decide) (by omega))
    rw [Function.iterate_succ_apply', ih (by omega), PowertrainBoschContiSecurityAlgo2.turn]
    simp only [hbit, hdouble n (Nat.le_refl n), hdouble _ hlen]
    rw [maskedBits_succ]
    cases hm : mask.testBit n with
    | false => simp
    | true =>
      cases hx : x.testBit n with
      | false => simp [Nat.ofDigits_append]
      | true =>
        have hor := Nat.two_pow_add_eq_or_of_lt (ofDigits_maskedBits_lt x mask n) 1
        simp only [Nat.mul_one] at hor
        simp [Nat.ofDigits_append, Nat.or_comm, ← hor]
        omega

theorem activatedBits_eq (x mask : Nat) :
    PowertrainBoschContiSecurityAlgo2.activatedBits x mask = closedUp x mask := by
  rw [PowertrainBoschContiSecurityAlgo2.activatedBits, turns_eq x mask (Nat.le_refl 16)]
  rfl

/-- The three switch bits make the number of a row. -/
theorem switchBits_eq (x mask : Nat) :
    (x &&& mask &&& 0x4000) >>> 12 ||| (x &&& mask &&& 0x200) >>> 8 ||| (x &&& mask &&& 0x100) >>> 8
      = rowOf ((x &&& mask).testBit 14) ((x &&& mask).testBit 9) ((x &&& mask).testBit 8) := by
  rw [show (0x4000 : Nat) = 2 ^ 14 from rfl, show (0x200 : Nat) = 2 ^ 9 from rfl,
    show (0x100 : Nat) = 2 ^ 8 from rfl, Nat.and_two_pow, Nat.and_two_pow, Nat.and_two_pow]
  cases (x &&& mask).testBit 14 <;> cases (x &&& mask).testBit 9
    <;> cases (x &&& mask).testBit 8 <;> decide

end AutoDiag.Proof
