import AutoDiag.CSharp.WordProviders
import AutoDiag.Lib.Wrap
import AutoDiag.Proof.Parameters

/-!
# Words on both sides

Where four bytes are there to be read, Python's number and C#'s `uint` are the
same word; where they are not, C# throws and Python reads what is left. A key is
written from the last 32 bits on either side.
-/

namespace AutoDiag.Proof

open Raise Security

/-! ## Reading -/

/-- The number of the word, digit by digit in base 256. -/
theorem ofBytes_toNat (b0 b1 b2 b3 : UInt8) :
    (Word.ofBytes b0 b1 b2 b3).toNat = Py.ofBytesBig [b0, b1, b2, b3] := by
  have h0 := b0.toNat_lt
  have h1 := b1.toNat_lt
  have h2 := b2.toNat_lt
  have h3 := b3.toNat_lt
  -- each byte is below the ones that are shifted further
  have e1 : b0.toNat <<< 24 ||| b1.toNat <<< 16 = (256 * b0.toNat + b1.toNat) <<< 16 := by
    rw [← Nat.shiftLeft_add_eq_or_of_lt (by rw [Nat.shiftLeft_eq]; omega), Nat.shiftLeft_eq,
      Nat.shiftLeft_eq, Nat.shiftLeft_eq]
    omega
  have e2 : (256 * b0.toNat + b1.toNat) <<< 16 ||| b2.toNat <<< 8
      = (65536 * b0.toNat + 256 * b1.toNat + b2.toNat) <<< 8 := by
    rw [← Nat.shiftLeft_add_eq_or_of_lt (by rw [Nat.shiftLeft_eq]; omega), Nat.shiftLeft_eq,
      Nat.shiftLeft_eq, Nat.shiftLeft_eq]
    omega
  have e3 : (65536 * b0.toNat + 256 * b1.toNat + b2.toNat) <<< 8 ||| b3.toNat
      = Py.ofBytesBig [b0, b1, b2, b3] := by
    rw [← Nat.shiftLeft_add_eq_or_of_lt (by omega), Nat.shiftLeft_eq]
    simp only [Py.ofBytesBig, List.foldl_cons, List.foldl_nil]
    omega
  have hs : ∀ b n : Nat, b < 256 → n ≤ 24 → b <<< n % 2 ^ 32 = b <<< n := by
    intro b n hb hn
    refine Nat.mod_eq_of_lt ?_
    rw [Nat.shiftLeft_eq]
    calc b * 2 ^ n < 2 ^ 8 * 2 ^ n := by
          exact Nat.mul_lt_mul_of_pos_right hb (Nat.two_pow_pos n)
      _ = 2 ^ (8 + n) := (Nat.pow_add 2 8 n).symm
      _ ≤ 2 ^ 32 := Nat.pow_le_pow_right (by decide) (by omega)
  simp only [Word.ofBytes, UInt32.toNat_or, UInt32.toNat_shiftLeft, UInt8.toNat_toUInt32,
    UInt32.reduceToNat, Nat.reduceMod]
  rw [hs _ 24 h0 (by decide), hs _ 16 h1 (by decide), hs _ 8 h2 (by decide), e1, e2, e3]

/-- **Four bytes are the bytes of their word.** -/
theorem toBytes_ofBytes (b0 b1 b2 b3 : UInt8) :
    Word.toBytes (Word.ofBytes b0 b1 b2 b3) = [b0, b1, b2, b3] := by
  have h0 := b0.toNat_lt
  have h1 := b1.toNat_lt
  have h2 := b2.toNat_lt
  have h3 := b3.toNat_lt
  have hword : (Word.ofBytes b0 b1 b2 b3).toNat
      = 256 * (256 * (256 * b0.toNat + b1.toNat) + b2.toNat) + b3.toNat := by
    rw [ofBytes_toNat]
    simp [Py.ofBytesBig]
  simp only [Word.toBytes, List.cons.injEq, and_true, ← UInt8.toNat_inj, UInt32.toNat_toUInt8,
    UInt32.toNat_shiftRight, hword, Nat.shiftRight_eq_div_pow, UInt32.reduceToNat, Nat.reduceMod]
  omega

/-- The four bytes at an offset. -/
theorem slice_four {data : Bytes} {offset : Nat} (h : offset + 4 ≤ data.length) :
    ∃ b0 b1 b2 b3, Py.slice data offset (offset + 4) = [b0, b1, b2, b3]
      ∧ data[offset]? = some b0 ∧ data[offset + 1]? = some b1 ∧ data[offset + 2]? = some b2
      ∧ data[offset + 3]? = some b3 := by
  refine ⟨data[offset], data[offset + 1], data[offset + 2], data[offset + 3], ?_,
    List.getElem?_eq_getElem _, List.getElem?_eq_getElem _, List.getElem?_eq_getElem _,
    List.getElem?_eq_getElem _⟩
  unfold Py.slice
  refine List.ext_getElem (by simp; omega) ?_
  intro i hi hi'
  simp only [List.length_cons, List.length_nil] at hi'
  rw [List.getElem_drop, List.getElem_take]
  interval_cases i <;> rfl

/-- A place inside is read by either side. -/
theorem item_ofNat {α : Type} {a : List α} {i : Nat} {x : α} (h : a[i]? = some x) :
    CSharp.item a (i : Int) = .ok x := by
  unfold CSharp.item
  rw [if_neg (by omega), Int.toNat_natCast, h]

/-- A place that is not below zero is read alike. -/
theorem indexOf_related (data : Bytes) (i : Nat) :
    Related Eq (Py.index data i) (CSharp.item data i) := by
  unfold Py.index CSharp.item
  rw [if_neg (by omega), Int.toNat_natCast]
  cases data[i]? with
  | none => exact related_error _ _
  | some b => exact related_ok rfl

theorem and_u32 (x : Nat) : x &&& BitUtility.u32 = x % 2 ^ 32 :=
  Nat.and_two_pow_sub_one_eq_mod x 32

/-- A word is below the mask. -/
theorem toNat_and_u32 (w : UInt32) : w.toNat &&& BitUtility.u32 = w.toNat := by
  rw [and_u32, Nat.mod_eq_of_lt w.toNat_lt]

/-- **A word that is all there is read alike.** -/
theorem bytesToInt_agree {data : Bytes} {offset : Nat} (h : offset + 4 ≤ data.length)
    (e : BitUtility.Endian) :
    ∃ w, CSharp.BitUtility.bytesToInt data e offset = .ok w
      ∧ BitUtility.bytesToInt data e offset = w.toNat := by
  obtain ⟨b0, b1, b2, b3, hslice, h0, h1, h2, h3⟩ := slice_four h
  have h1 : CSharp.item data ((offset : Int) + 1) = .ok b1 := item_ofNat h1
  have h2 : CSharp.item data ((offset : Int) + 2) = .ok b2 := item_ofNat h2
  have h3 : CSharp.item data ((offset : Int) + 3) = .ok b3 := item_ofNat h3
  unfold CSharp.BitUtility.bytesToInt BitUtility.bytesToInt
  rw [item_ofNat h0, h1, h2, h3, hslice]
  cases e with
  | big =>
    refine ⟨Word.ofBytes b0 b1 b2 b3, ?_, ?_⟩
    · simp [Word.ofBytes]
    · dsimp only
      rw [← ofBytes_toNat, toNat_and_u32]
  | little =>
    refine ⟨Word.ofBytes b3 b2 b1 b0, ?_, ?_⟩
    · simp only [ok_bind, pure_eq_ok, Word.ofBytes, UInt32.shiftLeft_zero]
      rw [UInt32.or_comm _ (b3.toUInt32 <<< 24), UInt32.or_comm _ (b2.toUInt32 <<< 16),
        UInt32.or_comm b0.toUInt32, UInt32.or_assoc, UInt32.or_assoc]
    · dsimp only
      rw [Py.ofBytesLittle, show [b0, b1, b2, b3].reverse = [b3, b2, b1, b0] from rfl,
        ← ofBytes_toNat, toNat_and_u32]

theorem item_ok {α : Type} {a : List α} {i : Nat} {x : α} (h : CSharp.item a (i : Int) = .ok x) :
    i < a.length := by
  unfold CSharp.item at h
  rw [if_neg (by omega), Int.toNat_natCast] at h
  split at h
  · rename_i hx
    exact (List.getElem?_eq_some_iff.mp hx).1
  · cases h

/-- C# reads all four bytes of a word, or throws. -/
theorem bytesToInt_ok {data : Bytes} {e : BitUtility.Endian} {offset : Nat} {w : UInt32}
    (h : CSharp.BitUtility.bytesToInt data e offset = .ok w) : offset + 4 ≤ data.length := by
  obtain ⟨b0, -, h⟩ := bind_ok h
  obtain ⟨b1, -, h⟩ := bind_ok h
  obtain ⟨b2, -, h⟩ := bind_ok h
  obtain ⟨b3, h3, -⟩ := bind_ok h
  have hlt : offset + 3 < data.length := item_ok h3
  omega

/-- Beyond the end the original throws. -/
theorem bytesToInt_short {data : Bytes} {offset : Nat} (h : data.length < offset + 4)
    (e : BitUtility.Endian) : ∃ ex, CSharp.BitUtility.bytesToInt data e offset = .error ex := by
  cases hw : CSharp.BitUtility.bytesToInt data e offset with
  | error ex => exact ⟨ex, rfl⟩
  | ok w => exact absurd (bytesToInt_ok hw) (by omega)

/-! ## Writing -/

/-- The word is written over the four bytes of the key, whatever they were. -/
theorem wordKey_eq (w : UInt32) {outKey : Bytes} (h : outKey.length = 4) :
    CSharp.wordKey w outKey = .ok (some (Word.toBytes w)) := by
  match outKey, h with
  | [_, _, _, _], _ => rw [CSharp.wordKey]; simp [CSharp.BitUtility.intToBytes, CSharp.store,
      Word.toBytes]

theorem intToBytes_big (z : Int) :
    BitUtility.intToBytes z .big = Word.toBytes (UInt32.ofInt z) := by
  have hbyte : ∀ k, k < 32 → UInt8.ofNat ((z % 0x100000000).toNat >>> k)
      = (UInt32.ofInt z >>> UInt32.ofNat k).toUInt8 := by
    intro k hk
    have hz : (UInt32.ofInt z).toNat = (z % 0x100000000).toNat := by
      simp [UInt32.ofInt]
      omega
    rw [← UInt8.toNat_inj, UInt32.toNat_toUInt8, UInt32.toNat_shiftRight, hz, UInt32.toNat_ofNat',
      Nat.mod_eq_of_lt (by omega : k < 2 ^ 32), Nat.mod_eq_of_lt hk, UInt8.toNat_ofNat']
  simp only [BitUtility.intToBytes, Py.toBytesBig, Word.toBytes]
  rw [show List.range 4 = [0, 1, 2, 3] from rfl]
  simp only [List.map_cons, List.map_nil]
  rw [hbyte 24 (by decide), hbyte 16 (by decide), hbyte 8 (by decide), hbyte 0 (by decide)]
  simp

theorem ofInt_toNat (w : UInt32) : UInt32.ofInt w.toNat = w := by
  have hlt := w.toNat_lt
  rw [← UInt32.toNat_inj]
  simp [UInt32.ofInt]
  omega

theorem intToBytes_little (w : UInt32) :
    BitUtility.intToBytes w.toNat .little = (Word.toBytes w).reverse := by
  rw [← ofInt_toNat w, ← intToBytes_big, ofInt_toNat]
  rfl

/-! ## The steps two providers share -/

theorem byteOfInt_xor (a b : UInt8) :
    CSharp.byteOfInt (CSharp.intOfByte a ^^^ CSharp.intOfByte b) = a ^^^ b := by
  rw [CSharp.byteOfInt, Int32.toUInt32_xor]
  simp [CSharp.intOfByte]

/-- The last byte of a `uint`, cut out before the cast. -/
theorem masked_byte (w : UInt32) : (w &&& 0xFF).toUInt8 = UInt8.ofNat w.toNat := by
  have hmask : (w &&& 0xFF).toNat = w.toNat % 256 := by
    rw [UInt32.toNat_and]
    exact Nat.and_two_pow_sub_one_eq_mod w.toNat 8
  rw [← UInt8.toNat_inj, UInt32.toNat_toUInt8, hmask, UInt8.toNat_ofNat', Nat.mod_mod]

variable {parameters : List Parameter}

/-- Rows as the database writes them, with byte arrays of four bytes or more. -/
structure Written (parameters : List Parameter) : Prop where
  wellFormed : ∀ row ∈ parameters, WellFormed row
  upperCase : ∀ row ∈ parameters, UpperCase row
  wordSized : ∀ row ∈ parameters, WordSized row

theorem paramWord_related (h : Written parameters) (key : String) (e : BitUtility.Endian) :
    Related (fun (x : Nat) (w : UInt32) => x = w.toNat)
      (BitUtility.paramWord parameters key e) (CSharp.getParameterWord parameters key e) := by
  refine related_bind (paramBytes_related h.wellFormed key) ?_
  intro k k' hk
  rw [hk.eq h.upperCase]
  obtain ⟨w, hw, hk⟩ := @bytesToInt_agree _ 0 (hk.wordSized h.wordSized) e
  rw [hk]
  exact hw ▸ related_ok rfl

/-- Rows as the database writes them, byte arrays of any length. -/
structure WrittenAny (parameters : List Parameter) : Prop where
  wellFormed : ∀ row ∈ parameters, WellFormed row
  upperCase : ∀ row ∈ parameters, UpperCase row

theorem paramBytes_alike (h : WrittenAny parameters) (key : String) :
    Related Eq (paramBytes parameters key) (CSharp.getParameterBytearray parameters key) := by
  rcases related_cases (paramBytes_related h.wellFormed key) with
    ⟨e, e', hx, hy⟩ | ⟨k, k', hx, hy, hk⟩
  · rw [hx, hy]
    exact related_error e e'
  · rw [hx, hy]
    exact related_ok (hk.eq h.upperCase).symm

/-- Both turn a seed away, or both go on with the lengths known. -/
theorem related_guard {n m : Nat} {seed outKey : Bytes} {x : Except Exn (Option Bytes)}
    {y : Except CSharp.Exception (Option Bytes)}
    (h : seed.length = n → outKey.length = m → Related Eq x y) :
    Related Eq (if seed.length ≠ n ∨ (outKey.length : Int) ≠ m then pure none else x)
      (if seed.length ≠ n ∨ outKey.length ≠ m then pure none else y) := by
  refine related_ite (by omega) (fun _ => related_pure rfl) fun hg => ?_
  obtain ⟨hseed, hkey⟩ := not_or.mp hg
  exact h (not_not.mp hseed) (by omega)

theorem related_key {z : Int} {w : UInt32} {outKey : Bytes} (h : outKey.length = 4)
    (hw : UInt32.ofInt z = w) :
    Related Eq (pure (some (BitUtility.intToBytes z .big)) : Except Exn (Option Bytes))
      (CSharp.wordKey w outKey) := by
  rw [wordKey_eq w h, intToBytes_big, hw]
  exact related_ok rfl

end AutoDiag.Proof
