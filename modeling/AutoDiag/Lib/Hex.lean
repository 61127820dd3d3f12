import Mathlib.Data.List.Basic
import Mathlib.Tactic.IntervalCases
import Mathlib.Tactic.Ring

/-!
# Hexadecimal text

Digits, bytes and fixed-width numbers as upper-case hexadecimal text, and the
reading of digits in either letter case. The one fact everything above rests on
is `value_digit`: a digit that was written is read back.
-/

namespace AutoDiag.Hex

/-- The sixteen digits, in the order of their values. -/
def digits : List Char :=
  ['0', '1', '2', '3', '4', '5', '6', '7', '8', '9', 'A', 'B', 'C', 'D', 'E', 'F']

/-- The digit of a value below sixteen. -/
def digit (n : Nat) : Char := digits.getD n '0'

/-- What a digit is worth, in either letter case. -/
def value (c : Char) : Option Nat :=
  if '0' ≤ c ∧ c ≤ '9' then some (c.toNat - 48)
  else if 'A' ≤ c ∧ c ≤ 'F' then some (c.toNat - 55)
  else if 'a' ≤ c ∧ c ≤ 'f' then some (c.toNat - 87)
  else none

def ofByte (b : UInt8) : List Char := [digit (b.toNat / 16), digit (b.toNat % 16)]

def ofBytes (bs : List UInt8) : List Char := bs.flatMap ofByte

/-- The last three digits of a number. -/
def ofNat3 (n : Nat) : List Char := [digit (n / 256 % 16), digit (n / 16 % 16), digit (n % 16)]

/-- A digit string read as a number; characters that are no digits count as zero. -/
def toNat (cs : List Char) : Nat := cs.foldl (fun n c => 16 * n + (value c).getD 0) 0

theorem digit_mem {n : Nat} (h : n < 16) : digit n ∈ digits := by
  interval_cases n <;> decide

/-- The sixteen digits are the values of `digit`. -/
theorem mem_digits {c : Char} (h : c ∈ digits) : ∃ n, n < 16 ∧ c = digit n := by
  obtain ⟨n, hn, rfl⟩ := List.mem_iff_getElem.mp h
  exact ⟨n, hn, (List.getElem_eq_getD '0').trans rfl⟩

/-- Where the digits lie, in either letter case. -/
theorem value_some {c : Char} {n : Nat} (h : value c = some n) :
    n < 16 ∧ ((48 ≤ c.toNat ∧ c.toNat ≤ 57) ∨ (65 ≤ c.toNat ∧ c.toNat ≤ 70)
      ∨ (97 ≤ c.toNat ∧ c.toNat ≤ 102)) := by
  have hle : ∀ a b : Char, a ≤ b ↔ a.toNat ≤ b.toNat := fun a b => UInt32.le_iff_toNat_le
  simp only [value, hle] at h
  simp only [show '0'.toNat = 48 from rfl, show '9'.toNat = 57 from rfl,
    show 'A'.toNat = 65 from rfl, show 'F'.toNat = 70 from rfl, show 'a'.toNat = 97 from rfl,
    show 'f'.toNat = 102 from rfl] at h
  split at h
  · have hn := Option.some.inj h
    omega
  split at h
  · have hn := Option.some.inj h
    omega
  split at h
  · have hn := Option.some.inj h
    omega
  · cases h

/-- **A written digit is read back.** -/
@[simp] theorem value_digit {n : Nat} (h : n < 16) : value (digit n) = some n := by
  interval_cases n <;> decide

theorem value_of_mem_digits {c : Char} (h : c ∈ digits) : (value c).isSome = true := by
  obtain ⟨n, hn, rfl⟩ := mem_digits h
  rw [value_digit hn]
  rfl

/-- Two numbers with one digit are the same. -/
theorem digit_injective {m n : Nat} (hm : m < 16) (hn : n < 16) (h : digit m = digit n) :
    m = n := by
  have hv := congrArg value h
  rw [value_digit hm, value_digit hn] at hv
  exact Option.some.inj hv

theorem ofByte_mem {b : UInt8} {c : Char} (h : c ∈ ofByte b) : c ∈ digits := by
  have hb := b.toNat_lt
  simp only [ofByte, List.mem_cons, List.not_mem_nil, or_false] at h
  rcases h with rfl | rfl
  · exact digit_mem (by omega)
  · exact digit_mem (by omega)

theorem ofBytes_mem {bs : List UInt8} {c : Char} (h : c ∈ ofBytes bs) : c ∈ digits := by
  obtain ⟨b, _, hc⟩ := List.mem_flatMap.mp h
  exact ofByte_mem hc

theorem ofNat3_mem {n : Nat} {c : Char} (h : c ∈ ofNat3 n) : c ∈ digits := by
  simp only [ofNat3, List.mem_cons, List.not_mem_nil, or_false] at h
  rcases h with rfl | rfl | rfl <;> exact digit_mem (Nat.mod_lt _ (by omega))

@[simp] theorem ofBytes_cons (b : UInt8) (bs : List UInt8) :
    ofBytes (b :: bs) = digit (b.toNat / 16) :: digit (b.toNat % 16) :: ofBytes bs := rfl

@[simp] theorem ofBytes_length (bs : List UInt8) : (ofBytes bs).length = 2 * bs.length := by
  induction bs with
  | nil => rfl
  | cons b bs ih => simp only [ofBytes_cons, List.length_cons, ih]; omega

@[simp] theorem ofNat3_length (n : Nat) : (ofNat3 n).length = 3 := rfl

/-- **Three digits hold every number below 4096.** -/
theorem toNat_ofNat3 {n : Nat} (h : n < 4096) : toNat (ofNat3 n) = n := by
  simp only [toNat, ofNat3, List.foldl_cons, List.foldl_nil,
    value_digit (Nat.mod_lt _ (by omega : 16 > 0)), Option.getD_some]
  omega

/-- A longer number is the first part, moved up by the digits of the second, and the second part. -/
theorem toNat_append (s t : List Char) : toNat (s ++ t) = toNat s * 16 ^ t.length + toNat t := by
  have hfold : ∀ (t : List Char) (acc : Nat),
      t.foldl (fun n c => 16 * n + (value c).getD 0) acc = acc * 16 ^ t.length + toNat t := by
    intro t
    induction t with
    | nil => intro acc; simp [toNat]
    | cons c t ih =>
      intro acc
      rw [toNat, List.foldl_cons, List.foldl_cons, ih, ih, List.length_cons, Nat.pow_succ]
      ring
  rw [toNat, List.foldl_append, hfold]
  rfl

/-- A text of `k` digits writes a number below `16 ^ k`. -/
theorem toNat_lt (s : List Char) : toNat s < 16 ^ s.length := by
  have hfold : ∀ (s : List Char) (acc : Nat),
      s.foldl (fun n c => 16 * n + (value c).getD 0) acc < 16 ^ s.length * (acc + 1) := by
    intro s
    induction s with
    | nil => intro acc; simp
    | cons c s ih =>
      intro acc
      have hv : (value c).getD 0 < 16 := by
        cases h : value c with
        | none => exact Nat.zero_lt_succ 15
        | some n => exact (value_some h).1
      refine Nat.lt_of_lt_of_le (ih _) ?_
      rw [List.length_cons, Nat.pow_succ, Nat.mul_assoc]
      refine Nat.mul_le_mul_left _ ?_
      dsimp only
      omega
  have h := hfold s 0
  rwa [Nat.zero_add, Nat.mul_one] at h

end AutoDiag.Hex
