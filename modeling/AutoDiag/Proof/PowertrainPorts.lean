import AutoDiag.CSharp.Powertrain
import AutoDiag.Lib.BitField
import AutoDiag.Proof.Words
import AutoDiag.Security.Powertrain

/-!
# The powertrain providers are the C# originals

As long as no index is below zero: then the places and bits that both select are
the same ones, and a place or bit that is out of range stops both.
-/

namespace AutoDiag.Proof

open Raise BitField Security BitUtility

/-! ## Reading -/

/-- A place that is not below zero is read alike; below zero C# throws. -/
theorem indexFrom_related (data : Bytes) {i : Int} (h : 0 ≤ i) :
    Related Eq (Py.indexFrom data i) (CSharp.item data i) := by
  have hindex := indexOf_related data i.toNat
  rw [Int.toNat_of_nonneg h] at hindex
  rw [Py.indexFrom, if_pos h]
  exact hindex

/-- Two lists that are related place by place. -/
theorem listItem_related {α β : Type} {R : α → β → Prop} {xs : List α} {ys : List β}
    (h : List.Forall₂ R xs ys) (i : Nat) : Related R (Py.item xs i) (CSharp.item ys i) := by
  unfold Py.item CSharp.item
  rw [if_neg (by omega), Int.toNat_natCast]
  induction h generalizing i with
  | nil => exact related_error _ _
  | cons hab _ ih =>
    cases i with
    | zero => exact related_ok hab
    | succ i => exact ih i

/-! ## Bits and bytes -/

/-- The bit that Python shifts down is the one C# masks. -/
theorem bit_eq : ∀ b : UInt8, ∀ k < 8,
    (CSharp.byteOfInt (CSharp.intOfByte b >>> Int32.ofNat k &&& 1)).toNat = b.toNat >>> k &&& 1 :=
  forall_byte (by decide +kernel)

/-- A bit of a byte: both stop beyond the eighth. -/
theorem getBit_related (b : UInt8) {j : Int32} (h : 0 ≤ j.toInt) :
    Related (fun (x : Nat) (x' : UInt8) => x = x'.toNat)
      (getBit b.toNat j.toInt) (CSharp.BitUtility.getBit b j) := by
  unfold getBit CSharp.BitUtility.getBit
  refine related_ite ?_ (fun _ => related_error _ _) fun hj => ?_
  · rw [gt_iff_lt, Int32.lt_iff_toInt_lt]
    rfl
  · obtain ⟨k, hk⟩ := Int.eq_ofNat_of_zero_le h
    have hjk : j = Int32.ofNat k := by rw [← Int32.ofInt_toInt j, hk, Int32.ofInt_eq_ofNat]
    rw [hk, shiftCount, if_neg (by omega), Int.toNat_natCast, hjk]
    exact related_ok (bit_eq b k (by omega)).symm

/-- A byte of a word: both stop beyond the fourth. -/
theorem getByte_related (w : UInt32) {p : Int32} (h : 0 ≤ p.toInt) :
    Related (fun (x : Nat) (x' : UInt8) => x = x'.toNat)
      (getByte w.toNat p.toInt) (CSharp.BitUtility.getByte w p) := by
  unfold getByte CSharp.BitUtility.getByte
  refine related_ite ?_ (fun _ => related_error _ _) fun hp => ?_
  · rw [gt_iff_lt, Int32.lt_iff_toInt_lt]
    rfl
  · obtain ⟨k, hk⟩ := Int.eq_ofNat_of_zero_le h
    have hpk : p = Int32.ofNat k := by rw [← Int32.ofInt_toInt p, hk, Int32.ofInt_eq_ofNat]
    have hcount : (8 * Int32.ofNat k).toUInt32 = UInt32.ofNat (8 * k) ∧ k < 4 := by
      have hk4 : k < 4 := by omega
      interval_cases k <;> decide
    rw [hk, shiftCount, if_neg (by omega), hpk, hcount.1,
      show (8 * (k : Int)).toNat = 8 * k by omega]
    refine related_ok ?_
    rw [UInt32.toNat_toUInt8, UInt32.toNat_shiftRight, UInt32.toNat_ofNat',
      Nat.mod_eq_of_lt (by omega : 8 * k < 2 ^ 32), Nat.mod_eq_of_lt (by omega : 8 * k < 32),
      show (0xFF : Nat) = 2 ^ 8 - 1 from rfl, Nat.and_two_pow_sub_one_eq_mod]

/-- A byte in one of the four places of a word. -/
theorem shiftLeft_byte : ∀ b : UInt8, ∀ k < 4,
    (CSharp.intOfByte b <<< (8 * Int32.ofNat k)).toUInt32.toNat = (b.toNat &&& 0xFF) <<< (8 * k) :=
  forall_byte (by decide +kernel)

/-- A byte of a word is replaced. -/
theorem setByte_related (w : UInt32) (b : UInt8) {k : Nat} (h : k < 4) :
    Related (fun (x : Nat) (w' : UInt32) => x = w'.toNat)
      (setByte w.toNat b.toNat k) (CSharp.BitUtility.setByte w b (Int32.ofNat k)) := by
  have hmask : (~~~(0xFF <<< (8 * Int32.ofNat k) : Int32).toUInt32).toNat
      = u32 ^^^ 0xFF <<< (8 * k) ∧ ¬ Int32.ofNat k > 3 := by
    interval_cases k <;> decide
  unfold setByte CSharp.BitUtility.setByte
  rw [if_neg (by omega), if_neg hmask.2, shiftCount, if_neg (by omega),
    show (8 * (k : Int)).toNat = 8 * k by omega]
  refine related_ok ?_
  rw [← shiftLeft_byte b k h, ← hmask.1, ← UInt32.toNat_and, ← UInt32.toNat_or, toNat_and_u32]

/-- Of two bytes the mask takes nothing away. -/
theorem xorByte_toNat (a b : UInt8) :
    (a.toNat ^^^ b.toNat) &&& 0xFF = (CSharp.xorByte a b).toNat := by
  rw [CSharp.xorByte, byteOfInt_xor, ← UInt8.toNat_xor, show (0xFF : Nat) = 2 ^ 8 - 1 from rfl,
    Nat.and_two_pow_sub_one_eq_mod, Nat.mod_eq_of_lt (a ^^^ b).toNat_lt]

theorem xorWord_toNat (a b : UInt32) : (a.toNat ^^^ b.toNat) &&& u32 = (a ^^^ b).toNat := by
  rw [← UInt32.toNat_xor, toNat_and_u32]

/-! ## Rows of a matrix -/

theorem intOfByte_ne_zero (b : UInt8) : CSharp.intOfByte b ≠ 0 ↔ b.toNat ≠ 0 := by
  refine not_congr ⟨fun h => ?_, fun h => ?_⟩
  · have hword := congrArg (fun x : Int32 => x.toUInt32.toNat) h
    simp only [CSharp.intOfByte, UInt32.toUInt32_toInt32, UInt8.toNat_toUInt32] at hword
    exact hword
  · have hzero : b = 0 := UInt8.toNat_inj.mp h
    rw [hzero]
    rfl

/-- C# sets the bit in an `int` and casts, Python masks to eight bits. -/
theorem setBit_eq : ∀ b : UInt8, ∀ k < 8,
    (b ||| CSharp.byteOfInt (1 <<< Int32.ofNat k)).toNat = (b.toNat ||| 1 <<< k) &&& 0xFF :=
  forall_byte (by decide +kernel)

theorem setBit_related (b : UInt8) {k : Nat} (h : k < 8) :
    Related (fun (x : Nat) (x' : UInt8) => x = x'.toNat)
      (setBit b.toNat k) (CSharp.BitUtility.setBit b (Int32.ofNat k)) := by
  have hk : ¬ Int32.ofNat k > 7 := by interval_cases k <;> decide
  unfold setBit CSharp.BitUtility.setBit
  rw [if_neg (by omega), if_neg hk, shiftCount, if_neg (by omega), Int.toNat_natCast]
  exact related_ok (setBit_eq b k h).symm

theorem rowBit_related (bit b : UInt8) {k : Nat} (h : k < 8) :
    Related (fun (x : Nat) (x' : UInt8) => x = x'.toNat)
      (rowBit bit.toNat b.toNat k)
      (CSharp.rowBit (CSharp.intOfByte bit) b (Int32.ofNat k)) :=
  related_ite (intOfByte_ne_zero bit).symm (fun _ => setBit_related b h) fun _ => related_ok rfl

/-- Three bits make the same number of a row. -/
theorem rowNumber_related (bit2 bit1 bit0 : UInt8) :
    Related (fun (x : Nat) (x' : UInt8) => x = x'.toNat)
      (rowNumber bit2.toNat bit1.toNat bit0.toNat)
      (CSharp.rowNumber (CSharp.intOfByte bit2) (CSharp.intOfByte bit1)
        (CSharp.intOfByte bit0)) := by
  refine related_bind (rowBit_related bit0 0 (by decide : 0 < 8)) ?_
  rintro _ j rfl
  refine related_bind (rowBit_related bit1 j (by decide : 1 < 8)) ?_
  rintro _ j rfl
  exact rowBit_related bit2 j (by decide : 2 < 8)

/-- A matrix of bytes, as numbers and as bytes. -/
def SameMatrix : List (List Nat) → List Bytes → Prop :=
  List.Forall₂ (List.Forall₂ fun (x : Nat) (b : UInt8) => x = b.toNat)

/-- One byte of the word that a row makes. -/
theorem place_related {row : List Nat} {row' : Bytes}
    (h : List.Forall₂ (fun (x : Nat) (b : UInt8) => x = b.toNat) row row') (w : UInt32)
    (place : Nat) {k : Nat} (hk : k < 4) :
    Related (fun (x : Nat) (w' : UInt32) => x = w'.toNat)
      (do setByte w.toNat (← Py.item row place) k)
      (do CSharp.BitUtility.setByte w (← CSharp.item row' place) (Int32.ofNat k)) := by
  refine related_bind (listItem_related h place) ?_
  rintro _ b rfl
  exact setByte_related w b hk

/-- The four places of a row are read in the same order, so both stop at the same one. -/
theorem places_related {row : List Nat} {row' : Bytes}
    (h : List.Forall₂ (fun (x : Nat) (b : UInt8) => x = b.toNat) row row') (p0 p1 p2 p3 : Nat) :
    Related (fun (x : Nat) (w : UInt32) => x = w.toNat)
      (([p0, p1, p2, p3].zip [0, 1, 2, 3]).foldlM
        (fun i (place, position) => do setByte i (← Py.item row place) position) 0)
      (([p0, p1, p2, p3].zip [0, 1, 2, 3]).foldlM (fun i (place, position) => do
        CSharp.BitUtility.setByte i (← CSharp.item row' place) position) 0) := by
  simp only [List.zip_cons_cons, List.zip_nil_right, List.foldlM_cons, List.foldlM_nil]
  refine related_bind (place_related h 0 p0 (by decide : 0 < 4)) ?_
  rintro _ w rfl
  refine related_bind (place_related h w p1 (by decide : 1 < 4)) ?_
  rintro _ w rfl
  refine related_bind (place_related h w p2 (by decide : 2 < 4)) ?_
  rintro _ w rfl
  refine related_bind (place_related h w p3 (by decide : 3 < 4)) ?_
  rintro _ w rfl
  exact related_pure rfl

/-- The row is selected and written as a word, or is too short on both sides. -/
theorem rowWord_related (p0 p1 p2 p3 : Nat) (bit2 bit1 bit0 : UInt8) {matrix : List (List Nat)}
    {matrix' : List Bytes} (h : SameMatrix matrix matrix') :
    Related (fun (x : Nat) (w : UInt32) => x = w.toNat)
      (rowWord [p0, p1, p2, p3] bit2.toNat bit1.toNat bit0.toNat matrix)
      (CSharp.rowWord [p0, p1, p2, p3] (CSharp.intOfByte bit2) (CSharp.intOfByte bit1)
        (CSharp.intOfByte bit0) matrix') := by
  refine related_bind (rowNumber_related bit2 bit1 bit0) ?_
  rintro _ j rfl
  -- C# reads the row again for each byte of it
  rcases related_cases (listItem_related h j.toNat) with ⟨e, e', hx, hy⟩ | ⟨row, row', hx, hy, hrow⟩
  · rw [hx, hy]
    exact related_error _ _
  · rw [hx, hy]
    simp only [ok_bind]
    rcases related_cases (places_related hrow p0 p1 p2 p3) with
      ⟨e, e', hx, hy⟩ | ⟨_, w, hx, hy, rfl⟩
    · rw [hx, hy]
      exact related_error _ _
    · rw [hx, hy, ok_bind, toNat_and_u32]
      exact related_ok rfl

/-! ## Selection by parameters -/

/-- Both read the last byte first, and so stop at the same seeds. -/
theorem reversedSeed_related (seed : Bytes) :
    Related (fun s s' => s = s' ∧ s.length = 4)
      (reversedSeed seed) (CSharp.reversedSeed seed) := by
  refine related_bind (indexOf_related seed 3) ?_
  rintro s3 _ rfl
  refine related_bind (indexOf_related seed 2) ?_
  rintro s2 _ rfl
  refine related_bind (indexOf_related seed 1) ?_
  rintro s1 _ rfl
  refine related_bind (indexOf_related seed 0) ?_
  rintro s0 _ rfl
  exact related_pure ⟨rfl, rfl⟩

/-- A bit of a byte of the seed, with the byte read first. -/
theorem seedBit_related (workingSeed : Bytes) {i j : Int32} (hi : 0 ≤ i.toInt) (hj : 0 ≤ j.toInt) :
    Related (fun (x : Nat) (x' : UInt8) => x = x'.toNat)
      (seedBit workingSeed i.toInt j.toInt) (CSharp.seedBit workingSeed i j) := by
  refine related_bind (indexFrom_related workingSeed hi) ?_
  rintro b _ rfl
  exact getBit_related b hj

/-- Index parameters, of which none is below zero. -/
def SameIndices : List Int → List Int32 → Prop :=
  List.Forall₂ fun (x : Int) (x' : Int32) => x = x'.toInt ∧ 0 ≤ x'.toInt

/-- A way to make the G value that is the same on both sides. -/
def SameRows (g : Nat → Nat → Nat → List (List Nat) → Except Exn Nat)
    (g' : Int32 → Int32 → Int32 → List Bytes → Except CSharp.Exception UInt32) : Prop :=
  ∀ (bit2 bit1 bit0 : UInt8) (matrix : List (List Nat)) (matrix' : List Bytes),
    SameMatrix matrix matrix' → Related (fun (x : Nat) (w : UInt32) => x = w.toNat)
      (g bit2.toNat bit1.toNat bit0.toNat matrix)
      (g' (CSharp.intOfByte bit2) (CSharp.intOfByte bit1) (CSharp.intOfByte bit0) matrix')

/-- Step by step through the two sets of indices, in the order of the source. -/
theorem selectedKey_related {g : Nat → Nat → Nat → List (List Nat) → Except Exn Nat}
    {g' : Int32 → Int32 → Int32 → List Bytes → Except CSharp.Exception UInt32}
    (hg : SameRows g g') {matrix : List (List Nat)} {matrix' : List Bytes}
    (hm : SameMatrix matrix matrix') {i j : List Int} {i' j' : List Int32}
    (hi : SameIndices i i') (hj : SameIndices j j') (seed : Bytes) :
    Related (fun (x : Nat) (w : UInt32) => x = w.toNat)
      (selectedKey g matrix i j seed) (CSharp.selectedKey g' matrix' i' j' seed) := by
  refine related_bind (reversedSeed_related seed) ?_
  rintro ws _ ⟨rfl, hlen⟩
  refine related_bind (listItem_related hi 0) ?_
  rintro _ i0 ⟨rfl, h0⟩
  refine related_bind (indexFrom_related ws h0) ?_
  rintro a _ rfl
  refine related_bind (listItem_related hi 1) ?_
  rintro _ i1 ⟨rfl, h1⟩
  refine related_bind (indexFrom_related ws h1) ?_
  rintro b _ rfl
  dsimp only
  rw [xorByte_toNat, show CSharp.byteOfInt (CSharp.intOfByte a ^^^ CSharp.intOfByte b)
    = CSharp.xorByte a b from rfl]
  -- the three bits of the D value
  refine related_bind (listItem_related hi 2) ?_
  rintro _ i2 ⟨rfl, h2⟩
  refine related_bind (listItem_related hj 0) ?_
  rintro _ j0 ⟨rfl, k0⟩
  refine related_bind (seedBit_related ws h2 k0) ?_
  rintro _ dBit2 rfl
  refine related_bind (listItem_related hi 3) ?_
  rintro _ i3 ⟨rfl, h3⟩
  refine related_bind (listItem_related hj 1) ?_
  rintro _ j1 ⟨rfl, k1⟩
  refine related_bind (seedBit_related ws h3 k1) ?_
  rintro _ dBit1 rfl
  refine related_bind (listItem_related hj 2) ?_
  rintro _ j2 ⟨rfl, k2⟩
  refine related_bind (getBit_related (CSharp.xorByte a b) k2) ?_
  rintro _ dBit0 rfl
  refine related_bind (rowWord_related 3 2 1 0 dBit2 dBit1 dBit0 hm) ?_
  rintro _ dValue rfl
  obtain ⟨word, hread, hword'⟩ := @bytesToInt_agree ws 0 (by omega) .little
  rw [hword', show CSharp.BitUtility.bytesToInt ws .little 0 = .ok word from hread, ok_bind,
    xorWord_toNat]
  -- the three bits of the G value, the last of them out of the mixed word
  refine related_bind (listItem_related hi 4) ?_
  rintro _ i4 ⟨rfl, h4⟩
  refine related_bind (listItem_related hj 3) ?_
  rintro _ j3 ⟨rfl, k3⟩
  refine related_bind (seedBit_related ws h4 k3) ?_
  rintro _ gBit2 rfl
  refine related_bind (listItem_related hj 4) ?_
  rintro _ j4 ⟨rfl, k4⟩
  refine related_bind (getBit_related (CSharp.xorByte a b) k4) ?_
  rintro _ gBit1 rfl
  refine related_bind (listItem_related hi 5) ?_
  rintro _ i5 ⟨rfl, h5⟩
  refine related_bind (getByte_related (word ^^^ dValue) h5) ?_
  rintro _ byte rfl
  refine related_bind (listItem_related hj 5) ?_
  rintro _ j5 ⟨rfl, k5⟩
  refine related_bind (getBit_related byte k5) ?_
  rintro _ gBit0 rfl
  refine related_bind (hg gBit2 gBit1 gBit0 matrix matrix' hm) ?_
  rintro _ gValue rfl
  rw [xorWord_toNat]
  exact related_pure rfl

variable {parameters : List Parameter}

/-- None of the parameters with these names is below zero. -/
def NoneNegative (parameters : List Parameter) (names : List String) : Prop :=
  ∀ name ∈ names, ∀ x, paramInt parameters name = .ok x → 0 ≤ x

/-- The indices are read one after the other, and none is below zero. -/
theorem indices_related (h : ∀ row ∈ parameters, WellFormed row) {names : List String}
    (hpos : NoneNegative parameters names) :
    Related SameIndices (names.mapM (paramInt parameters))
      (names.mapM (CSharp.getParameterInteger parameters)) := by
  refine related_mapM fun name hname => ?_
  rcases related_cases (related_returned (paramInt_related h name)) with
    ⟨e, e', hx, hy⟩ | ⟨_, x, hx, hy, rfl, hread, -⟩
  · rw [hx, hy]
    exact related_error _ _
  · rw [hx, hy]
    exact related_ok ⟨rfl, hpos name hname _ hread⟩

/-- The cells of the matrix, row by row. -/
theorem matrix_related (h : ∀ row ∈ parameters, WellFormed row) (names : List (List String)) :
    Related SameMatrix (names.mapM fun row => row.mapM (paramByte parameters))
      (names.mapM fun row => row.mapM (CSharp.getParameterByte parameters)) :=
  related_mapM fun _ _ => related_mapM fun name _ => paramByte_related h name

/-- **With indices that are not below zero, a provider selects what its original does.** -/
theorem selectByParameters_related (h : ∀ row ∈ parameters, WellFormed row)
    (cells i j : String) {g : Nat → Nat → Nat → List (List Nat) → Except Exn Nat}
    {g' : Int32 → Int32 → Int32 → List Bytes → Except CSharp.Exception UInt32}
    (hg : SameRows g g') (hi : NoneNegative parameters (indexNames i))
    (hj : NoneNegative parameters (indexNames j)) (seed outKey : Bytes) (level : Int) :
    Related Eq (selectByParameters cells i j g seed outKey.length level parameters)
      (CSharp.selectByParameters (cellNames cells) (indexNames i) (indexNames j) g' seed outKey level
        parameters) := by
  refine related_bind (matrix_related h _) ?_
  intro matrix matrix' hm
  refine related_bind (indices_related h hi) ?_
  intro is is' his
  refine related_bind (indices_related h hj) ?_
  intro js js' hjs
  refine related_guard fun hseed hkey => ?_
  refine related_bind (selectedKey_related hg hm his hjs seed) ?_
  rintro _ key rfl
  exact related_key hkey (ofInt_toNat key)

/-- The names that the original spells out are those of the port. -/
theorem PowertrainSecurityAlgo.original_names : CSharp.PowertrainSecurityAlgo.generateKey
    = CSharp.selectByParameters (cellNames "X") (indexNames "i") (indexNames "j")
      CSharp.PowertrainSecurityAlgo.createGValue := rfl

theorem PowertrainSecurityAlgo2.original_names : CSharp.PowertrainSecurityAlgo2.generateKey
    = CSharp.selectByParameters (cellNames "XX") (indexNames "ii") (indexNames "jj")
      CSharp.PowertrainSecurityAlgo2.createGValue := rfl

/-! ## Selection at fixed places -/

/-- Three bits that are the same on both sides. -/
def SameBits (a : Security.Selection) (b : CSharp.Selection) : Prop :=
  a = (b.1.toNat, b.2.1.toNat, b.2.2.toNat)

/-- Places of bits that are the same on both sides. -/
structure SamePlaces (dBits : UInt8 → UInt8 → UInt8 → UInt8 → Except Exn Security.Selection)
    (gBits : UInt8 → UInt8 → UInt8 → UInt8 → Nat → Except Exn Security.Selection)
    (dBits' : UInt8 → UInt8 → UInt8 → UInt8 → Except CSharp.Exception CSharp.Selection)
    (gBits' : UInt8 → UInt8 → UInt8 → UInt8 → UInt32 →
      Except CSharp.Exception CSharp.Selection) : Prop where
  dValue : ∀ w0 w1 w2 w3, Related SameBits (dBits w0 w1 w2 w3) (dBits' w0 w1 w2 w3)
  gValue : ∀ w0 w1 w2 w3 (x : UInt32),
    Related SameBits (gBits w0 w1 w2 w3 x.toNat) (gBits' w0 w1 w2 w3 x)

theorem PowertrainDelphiSecurityAlgo.samePlaces :
    SamePlaces Security.PowertrainDelphiSecurityAlgo.dBits
      Security.PowertrainDelphiSecurityAlgo.gBits CSharp.PowertrainDelphiSecurityAlgo.dBits
      CSharp.PowertrainDelphiSecurityAlgo.gBits := by
  refine ⟨?_, ?_⟩
  · intro w0 w1 w2 w3
    unfold Security.PowertrainDelphiSecurityAlgo.dBits CSharp.PowertrainDelphiSecurityAlgo.dBits
    rw [xorByte_toNat]
    refine related_bind (getBit_related _ (j := 3) (by decide)) ?_
    rintro _ dBit2 rfl
    refine related_bind (getBit_related w2 (j := 3) (by decide)) ?_
    rintro _ dBit1 rfl
    refine related_bind (getBit_related w3 (j := 6) (by decide)) ?_
    rintro _ dBit0 rfl
    exact related_pure rfl
  · intro w0 w1 w2 w3 x
    unfold Security.PowertrainDelphiSecurityAlgo.gBits CSharp.PowertrainDelphiSecurityAlgo.gBits
    dsimp only
    rw [xorByte_toNat]
    refine related_bind (getBit_related w1 (j := 3) (by decide)) ?_
    rintro _ gBit0 rfl
    refine related_bind (getBit_related _ (j := 7) (by decide)) ?_
    rintro _ gBit1 rfl
    refine related_bind (getByte_related x (p := 1) (by decide)) ?_
    rintro _ byte rfl
    refine related_bind (getBit_related byte (j := 2) (by decide)) ?_
    rintro _ gBit2 rfl
    exact related_pure rfl

theorem PowertrainSecurityAlgoNFZ.samePlaces :
    SamePlaces Security.PowertrainSecurityAlgoNFZ.dBits Security.PowertrainSecurityAlgoNFZ.gBits
      CSharp.PowertrainSecurityAlgoNFZ.dBits CSharp.PowertrainSecurityAlgoNFZ.gBits := by
  refine ⟨?_, ?_⟩
  · intro w0 w1 w2 w3
    unfold Security.PowertrainSecurityAlgoNFZ.dBits CSharp.PowertrainSecurityAlgoNFZ.dBits
    rw [xorByte_toNat]
    refine related_bind (getBit_related _ (j := 1) (by decide)) ?_
    rintro _ dBit2 rfl
    refine related_bind (getBit_related w2 (j := 4) (by decide)) ?_
    rintro _ dBit1 rfl
    refine related_bind (getBit_related w0 (j := 6) (by decide)) ?_
    rintro _ dBit0 rfl
    exact related_pure rfl
  · intro w0 w1 w2 w3 x
    unfold Security.PowertrainSecurityAlgoNFZ.gBits CSharp.PowertrainSecurityAlgoNFZ.gBits
    refine related_bind (getByte_related x (p := 3) (by decide)) ?_
    rintro _ byte rfl
    refine related_bind (getBit_related byte (j := 4) (by decide)) ?_
    rintro _ gBit0 rfl
    refine related_bind (getBit_related w0 (j := 1) (by decide)) ?_
    rintro _ gBit1 rfl
    refine related_bind (getBit_related w2 (j := 6) (by decide)) ?_
    rintro _ gBit2 rfl
    exact related_pure rfl

/-- **The key at fixed places is that of the original**, or both stop at a row that is too short. -/
theorem fixedKey_related
    {dBits : UInt8 → UInt8 → UInt8 → UInt8 → Except Exn Security.Selection}
    {gBits : UInt8 → UInt8 → UInt8 → UInt8 → Nat → Except Exn Security.Selection}
    {dBits' : UInt8 → UInt8 → UInt8 → UInt8 → Except CSharp.Exception CSharp.Selection}
    {gBits' : UInt8 → UInt8 → UInt8 → UInt8 → UInt32 → Except CSharp.Exception CSharp.Selection}
    (h : SamePlaces dBits gBits dBits' gBits') {d g : List (List Nat)} {d' g' : List Bytes}
    (hd : SameMatrix d d') (hg : SameMatrix g g') (seed : Bytes) :
    Related (fun (x : Nat) (w : UInt32) => x = w.toNat)
      (fixedKey dBits gBits d g seed) (CSharp.fixedKey dBits' gBits' d' g' seed) := by
  refine related_bind (reversedSeed_related seed) ?_
  rintro ws _ ⟨rfl, hlen⟩
  refine related_bind (indexOf_related ws 0) ?_
  rintro w0 _ rfl
  refine related_bind (indexOf_related ws 1) ?_
  rintro w1 _ rfl
  refine related_bind (indexOf_related ws 2) ?_
  rintro w2 _ rfl
  refine related_bind (indexOf_related ws 3) ?_
  rintro w3 _ rfl
  refine related_bind (h.dValue w0 w1 w2 w3) ?_
  rintro _ ⟨dBit2, dBit1, dBit0⟩ rfl
  refine related_bind (rowWord_related 3 2 1 0 dBit2 dBit1 dBit0 hd) ?_
  rintro _ dValue rfl
  obtain ⟨word, hread, hword⟩ := @bytesToInt_agree ws 0 (by omega) .little
  rw [hword, show CSharp.BitUtility.bytesToInt ws .little 0 = .ok word from hread, ok_bind]
  dsimp only
  rw [xorWord_toNat]
  refine related_bind (h.gValue w0 w1 w2 w3 (word ^^^ dValue)) ?_
  rintro _ ⟨gBit2, gBit1, gBit0⟩ rfl
  refine related_bind (rowWord_related 3 2 1 0 gBit2 gBit1 gBit0 hg) ?_
  rintro _ gValue rfl
  rw [xorWord_toNat]
  exact related_pure rfl

end AutoDiag.Proof
