import AutoDiag.Lib.Buffer

/-!
# Bytes as one bit field

A row of bytes read as one bit field, most significant bit first, and its rotation
to the right by one place: every byte shifts, and the lowest bit of the byte before
it, cyclically, comes in at the top.
-/

namespace AutoDiag.BitField

open Buffer

variable {n : Nat}

/-- The place before, cyclically. -/
def prev (n i : Nat) : Nat := if i = 0 then n - 1 else i - 1

theorem prev_lt {i : Nat} (h : i < n) : prev n i < n := by
  unfold prev
  split <;> omega

/-- The bit field rotated to the right by one place. -/
def rotateRight (v : Vector UInt8 n) : Vector UInt8 n :=
  Vector.ofFn fun i => v[i.val]! >>> 1 ||| v[prev n i]! <<< 7

/-- A byte of the rotated buffer: its own high bits, under the low bit of the byte before it. -/
theorem get_rotateRight (v : Vector UInt8 n) {i : Nat} (h : i < n) :
    (rotateRight v)[i]! = v[i]! >>> 1 ||| v[prev n i]! <<< 7 := get_ofFn _ h

theorem forall_byte {P : UInt8 → Prop} (h : ∀ i : Fin 256, P (UInt8.ofNat i.val)) (b : UInt8) :
    P b := by
  have hb := h ⟨b.toNat, b.toNat_lt⟩
  rwa [UInt8.ofNat_toNat] at hb

/-- The lowest bit of a byte, moved to its top. -/
theorem carry_eq : ∀ b : UInt8, (if b &&& 1 = 0 then (0 : UInt8) else 0x80) = b <<< 7 :=
  forall_byte (by decide +kernel)

/-- A byte shifted to the right has its top bit clear. -/
theorem shift_and : ∀ b : UInt8, b >>> 1 &&& (0x7F : UInt8) = b >>> 1 :=
  forall_byte (by decide +kernel)

end AutoDiag.BitField
