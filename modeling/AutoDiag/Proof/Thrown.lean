import AutoDiag.Proof.Given
import AutoDiag.Proof.Words

/-!
# Where an original throws

Where a port gives a key, its original may still throw. Here it does so for a constant
of fewer than four bytes: the original reads beyond its end, and the port a shorter
word.
-/

namespace AutoDiag.Proof

open Raise Security BitUtility

variable {parameters : List Parameter} {seed outKey : Bytes} {level : Int}

/-! ## Reading -/

/-- The original returns exactly if `P` holds; what it throws otherwise does not matter. -/
abbrev Ends {α : Type} (P : Prop) (x : Except CSharp.Exception α) : Prop :=
  ReturnsIff (fun _ => True) P x

/-- An index beyond the end throws. -/
theorem csItem_ends {α : Type} (xs : List α) (i : Nat) :
    Ends (i < xs.length) (CSharp.item xs i) := by
  unfold CSharp.item
  rw [if_neg (by omega), Int.toNat_natCast]
  cases h : xs[i]? with
  | none => exact .error (Nat.not_lt.mpr (List.getElem?_eq_none_iff.mp h)) trivial
  | some x => exact .ok (List.getElem?_eq_some_iff.mp h).1

theorem csItem_returns {α : Type} {xs : List α} {i : Nat} (h : i < xs.length) :
    Returns (CSharp.item xs i) :=
  (csItem_ends xs i).iff.mpr h

/-- The original reads four bytes, and throws where there are fewer. -/
theorem csBytesToInt_ends (data : Bytes) (e : Endian) (n : Nat) :
    Ends (n + 4 ≤ data.length) (CSharp.BitUtility.bytesToInt data e n) := by
  by_cases h : n + 4 ≤ data.length
  · obtain ⟨w, hw, -⟩ := bytesToInt_agree h e
    rw [hw]
    exact .ok h
  · obtain ⟨ex, hex⟩ := bytesToInt_short (Nat.not_le.mp h) e
    rw [hex]
    exact .error h trivial

theorem csBytesToInt_returns {data : Bytes} {n : Nat} (h : n + 4 ≤ data.length)
    (e : Endian) : Returns (CSharp.BitUtility.bytesToInt data e n) :=
  (csBytesToInt_ends data e n).iff.mpr h

/-- The bytes a parameter holds, as the original reads them. -/
def csBytesAt (parameters : List Parameter) (key : String) : Bytes :=
  (CSharp.getParameterBytearray parameters key).toOption.getD []

/-- As many bytes are read, and zeros where zeros are written. -/
theorem getParameterBytearray_asked (h : ∀ row ∈ parameters, WellFormed row) {key : String}
    (hasked : Asked parameters (key, "ByteArray")) :
    CSharp.getParameterBytearray parameters key = .ok (csBytesAt parameters key)
      ∧ List.Forall₂ (fun b b' => b' = 0 ↔ b = 0) (bytesAt parameters key)
        (csBytesAt parameters key) := by
  have hrelated := paramBytes_related h key
  rw [paramBytes_asked hasked] at hrelated
  unfold csBytesAt
  generalize CSharp.getParameterBytearray parameters key = x at hrelated
  cases hrelated with
  | ok hsame => exact ⟨rfl, hsame.zeros⟩

/-- The original reads as many bytes as the port. -/
theorem csBytesAt_length (h : ∀ row ∈ parameters, WellFormed row) {key : String}
    (hasked : Asked parameters (key, "ByteArray")) :
    (csBytesAt parameters key).length = (bytesAt parameters key).length :=
  (getParameterBytearray_asked h hasked).2.length_eq.symm

/-- The parameter holds a word. -/
def HoldsWord (parameters : List Parameter) (key : String) : Prop :=
  4 ≤ (bytesAt parameters key).length

instance (key : String) : Decidable (HoldsWord parameters key) :=
  inferInstanceAs (Decidable (4 ≤ _))

/-- A constant is a word of the original exactly if it has four bytes. -/
theorem csWord_ends (h : ∀ row ∈ parameters, WellFormed row) {key : String}
    (hasked : Asked parameters (key, "ByteArray")) (e : Endian) :
    Ends (HoldsWord parameters key)
      (CSharp.BitUtility.bytesToInt (csBytesAt parameters key) e 0) := by
  have hends := csBytesToInt_ends (csBytesAt parameters key) e 0
  rw [csBytesAt_length h hasked] at hends
  exact hends.congr (by rw [Nat.zero_add]; rfl)

/-- A constant that is there is parsed, and then read as a word. -/
theorem getParameterWord_asked (h : ∀ row ∈ parameters, WellFormed row) {key : String}
    (hasked : Asked parameters (key, "ByteArray")) (e : Endian) :
    CSharp.getParameterWord parameters key e
      = CSharp.BitUtility.bytesToInt (csBytesAt parameters key) e 0 := by
  unfold CSharp.getParameterWord
  rw [(getParameterBytearray_asked h hasked).1, ok_bind]

theorem getParameterWord_ends (h : ∀ row ∈ parameters, WellFormed row) {key : String}
    (hasked : Asked parameters (key, "ByteArray")) (e : Endian) :
    Ends (HoldsWord parameters key) (CSharp.getParameterWord parameters key e) := by
  rw [getParameterWord_asked h hasked]
  exact csWord_ends h hasked e

/-- The integer a parameter holds, as the original reads it. -/
def csIntAt (parameters : List Parameter) (key : String) : Int32 :=
  (CSharp.getParameterInteger parameters key).toOption.getD 0

/-- Both sides read the same integer, in 32 bits. -/
theorem getParameterInteger_asked (h : ∀ row ∈ parameters, WellFormed row) {key : String}
    (hasked : Asked parameters (key, "Int32")) :
    CSharp.getParameterInteger parameters key = .ok (csIntAt parameters key)
      ∧ intAt parameters key = (csIntAt parameters key).toInt := by
  have hrelated := paramInt_related h key
  rw [paramInt_asked hasked] at hrelated
  unfold csIntAt
  generalize CSharp.getParameterInteger parameters key = x at hrelated
  cases hrelated with
  | ok heq => exact ⟨rfl, heq⟩

theorem getParameterLong_returns (h : ∀ row ∈ parameters, WellFormed row) {key : String}
    (hasked : Asked parameters (key, "Int64")) :
    Returns (CSharp.getParameterLong parameters key) :=
  (related_returns (paramLong_related h key)).mpr (paramLong_asked hasked)

theorem getParameterByte_returns (h : ∀ row ∈ parameters, WellFormed row) {key : String}
    (hasked : Asked parameters (key, "Byte")) :
    Returns (CSharp.getParameterByte parameters key) :=
  (related_returns (paramByte_related h key)).mpr ⟨_, (paramByte_asked hasked).1⟩

/-! ## Words that are divided by -/

/-- A word is zero exactly if its four bytes are. -/
theorem bytesToInt_eq_zero {data : Bytes} (h : 4 ≤ data.length) :
    bytesToInt data .big 0 = 0 ↔ ∀ i < 4, data[i]? = some 0 := by
  obtain ⟨b0, b1, b2, b3, hslice, h0, h1, h2, h3⟩ := @slice_four data 0 (by omega)
  have hword : bytesToInt data .big 0
      = (256 * (256 * (256 * (256 * 0 + b0.toNat) + b1.toNat) + b2.toNat) + b3.toNat) % 2 ^ 32 := by
    unfold bytesToInt
    rw [hslice]
    dsimp only
    rw [and_u32]
    rfl
  have hzero : ∀ b : UInt8, b = 0 ↔ b.toNat = 0 := fun b => UInt8.toNat_inj.symm
  have hlt0 := b0.toNat_lt
  have hlt1 := b1.toNat_lt
  have hlt2 := b2.toNat_lt
  have hlt3 := b3.toNat_lt
  -- the bytes at the four places are those that the word is made of
  have hall : (∀ i < 4, data[i]? = some 0) ↔ b0 = 0 ∧ b1 = 0 ∧ b2 = 0 ∧ b3 = 0 := by
    constructor
    · intro hi
      refine ⟨?_, ?_, ?_, ?_⟩
      · exact Option.some.inj (h0.symm.trans (hi 0 (by decide)))
      · exact Option.some.inj (h1.symm.trans (hi 1 (by decide)))
      · exact Option.some.inj (h2.symm.trans (hi 2 (by decide)))
      · exact Option.some.inj (h3.symm.trans (hi 3 (by decide)))
    · rintro ⟨rfl, rfl, rfl, rfl⟩ i hi
      interval_cases i
      · exact h0
      · exact h1
      · exact h2
      · exact h3
  rw [hall, hword, hzero, hzero, hzero, hzero]
  omega

/-- A word that is not zero is not read as zero. -/
theorem csWord_ne_zero (h : ∀ row ∈ parameters, WellFormed row) {key : String}
    (hasked : Asked parameters (key, "ByteArray")) (hne : wordAt parameters key ≠ 0) {w : UInt32}
    (hw : CSharp.BitUtility.bytesToInt (csBytesAt parameters key) .big 0 = .ok w) : w ≠ 0 := by
  rintro rfl
  -- a byte is read as zero on both sides or on neither
  have hzeros := (getParameterBytearray_asked h hasked).2
  have hlen : 0 + 4 ≤ (csBytesAt parameters key).length := bytesToInt_ok hw
  obtain ⟨w, hw', hval⟩ := bytesToInt_agree hlen .big
  obtain rfl : w = 0 := Except.ok.inj (hw'.symm.trans hw)
  refine hne ((bytesToInt_eq_zero ?_).mpr fun i hi => ?_)
  · rw [hzeros.length_eq]
    omega
  · have hi' : i < (csBytesAt parameters key).length := by omega
    have hb' := (bytesToInt_eq_zero (by omega)).mp hval i hi
    rw [List.getElem?_eq_getElem (by rw [hzeros.length_eq]; exact hi')]
    rw [List.getElem?_eq_getElem hi', Option.some.injEq] at hb'
    exact congrArg some ((hzeros.get _ hi').mp hb')

/-- A `long` made of a `uint` is neither zero nor minus one, so `%` does not throw. -/
theorem remLong_returns (x : Int64) {w : UInt32} (h : w ≠ 0) :
    Returns (CSharp.remLong x (CSharp.longOfUint w)) := by
  have hw := w.toNat_lt
  have hlong : (CSharp.longOfUint w).toInt = w.toNat := by
    rw [CSharp.longOfUint, ← Wrap.ofInt_toNat, Int64.toInt_ofInt_of_le (by omega) (by omega)]
  have hne : CSharp.longOfUint w ≠ 0 := by
    intro hzero
    rw [hzero, show (0 : Int64).toInt = 0 from rfl] at hlong
    exact h (UInt32.toNat_inj.mp (Int.natCast_eq_zero.mp hlong.symm))
  have hpos : CSharp.longOfUint w ≠ -1 := by
    intro hneg
    rw [hneg, show (-1 : Int64).toInt = -1 from rfl] at hlong
    omega
  unfold CSharp.remLong
  rw [if_neg hne, if_neg fun hmin => hpos hmin.2]
  exact returns_ok _

/-! ## Writing -/

/-- A key of four bytes has room for a word. -/
theorem wordKey_returns (w : UInt32) (h : (outKey.length : Int) = 4) :
    Returns (CSharp.wordKey w outKey) :=
  ⟨_, wordKey_eq w (by omega)⟩

/-- A key that is computed from the first word of the seed. -/
theorem seedKey_returns (hseed : 4 ≤ seed.length) (hkey : (outKey.length : Int) = 4)
    (key : UInt32 → UInt32) :
    Returns (do
      let seedVal ← CSharp.BitUtility.bytesToInt seed .big 0
      CSharp.wordKey (key seedVal) outKey) :=
  returns_bind (csBytesToInt_returns (n := 0) hseed .big) fun _ _ => wordKey_returns _ hkey

/-- The lengths are taken. -/
theorem taken {n m : Nat} (hseed : seed.length ∈ [n]) (hkey : (outKey.length : Int) = m) :
    ¬ (seed.length ≠ n ∨ outKey.length ≠ m) := by
  rw [not_or, not_not, not_not]
  exact ⟨List.mem_singleton.mp hseed, by omega⟩

/-- Where the port gives a key, the original returns exactly if what it reads is inside. -/
def ThrowsOutside (p : CSharp.Provider) (c : Contract) (seedLengths : List Nat) (length : Int)
    (inside : Bytes → List Parameter → Prop) : Prop :=
  ∀ seed outKey level parameters, (∀ row ∈ parameters, WellFormed row) →
    (∀ ask ∈ c.asks, Asked parameters ask) → seed.length ∈ seedLengths →
      (outKey.length : Int) = length → c.accepts seed outKey.length parameters →
        Ends (inside seed parameters) (p seed outKey level parameters)

/-! ## Words -/

/-- Each of these parameters holds a word. -/
def WordsHeld (keys : List String) (_seed : Bytes) (parameters : List Parameter) : Prop :=
  ∀ key ∈ keys, HoldsWord parameters key

/-- The constant is read as a word before the lengths are checked. -/
theorem throws_affine {key : String} {asks : List (String × String)}
    {constants : List Parameter → Except CSharp.Exception (Int64 × Int64 × Int64 × Int64)}
    (hc : ∀ parameters, (∀ row ∈ parameters, WellFormed row) →
      (∀ ask ∈ asks, Asked parameters ask) → Returns (constants parameters)) :
    ThrowsOutside (CSharp.affine key constants) (.always ((key, "ByteArray") :: asks)) [8] 4
      (WordsHeld [key]) := by
  intro seed outKey level parameters h hasked hseed hkey _
  have hlen := List.mem_singleton.mp hseed
  obtain ⟨hK, hasks⟩ := List.forall_mem_cons.mp hasked
  refine (returnsIff_bind_left (getParameterWord_ends h hK .big) fun _ _ => ?_).congr
    (by simp [WordsHeld])
  refine returns_bind (hc parameters h hasks) fun (kA, kC, kA', kC') _ => ?_
  dsimp only
  rw [if_neg (taken hseed hkey)]
  refine returns_bind (csBytesToInt_returns (n := 0) (by omega) .big) fun _ _ => ?_
  refine returns_bind (csBytesToInt_returns (n := 4) (by omega) .big) fun _ _ => ?_
  exact wordKey_returns _ hkey

theorem throws_DaimlerStandardSecurityAlgoMod :
    ThrowsOutside CSharp.DaimlerStandardSecurityAlgoMod.generateKey
      (.always [("K", "ByteArray"), ("kA", "Int64"), ("kC", "Int64")]) [8] 4
      (WordsHeld ["K"]) := by
  refine throws_affine fun parameters h hasked => ?_
  refine returns_bind (getParameterLong_returns h (hasked _ (by simp))) fun _ _ => ?_
  exact returns_bind (getParameterLong_returns h (hasked _ (by simp))) fun _ _ => returns_pure _

/-- The port divides by the same constant, so it is not zero where the port gave a key. -/
theorem throws_EDIFF290 :
    ThrowsOutside CSharp.EDIFF290.generateKey .EDIFF290 [8] 4 (WordsHeld ["KeyK"]) := by
  intro seed outKey level parameters h hasked hseed hkey hne
  have hlen := List.mem_singleton.mp hseed
  have hK : Asked parameters ("KeyK", "ByteArray") := hasked _ (by simp)
  have hA : Asked parameters ("kA", "Int32") := hasked _ (by simp)
  have hC : Asked parameters ("kC", "Int32") := hasked _ (by simp)
  refine (returnsIff_bind_left (getParameterWord_ends h hK .big) fun cryptoKey hword => ?_).congr
    (by simp [WordsHeld])
  rw [(getParameterInteger_asked h hA).1, ok_bind, (getParameterInteger_asked h hC).1, ok_bind,
    if_neg (taken hseed hkey)]
  refine returns_bind (csBytesToInt_returns (n := 0) (by omega) .big) fun _ _ => ?_
  -- the remainder is the only other step that can throw
  refine returns_bind (remLong_returns _ ?_) fun _ _ => wordKey_returns _ hkey
  rw [getParameterWord_asked h hK] at hword
  exact csWord_ne_zero h hK (hne hlen hkey) hword

theorem throws_DRVU_PROF :
    ThrowsOutside CSharp.DRVU_PROF.generateKey .DRVU_PROF [4] 4 (WordsHeld ["KeyConst"]) := by
  intro seed outKey level parameters h hasked hseed hkey hne
  have hlen := List.mem_singleton.mp hseed
  have hK : Asked parameters ("KeyConst", "ByteArray") := hasked _ (by simp)
  refine (returnsIff_bind_left (getParameterWord_ends h hK .big) fun cryptoKey hword => ?_).congr
    (by simp [WordsHeld])
  rw [if_neg (taken hseed hkey)]
  refine returns_bind (csBytesToInt_returns (n := 0) (by omega) .big) fun _ _ => ?_
  refine returns_bind (remLong_returns _ ?_) fun _ _ => wordKey_returns _ hkey
  rw [getParameterWord_asked h hK] at hword
  exact csWord_ne_zero h hK (hne hlen hkey) hword

theorem throws_MarquardtSecurityAlgo :
    ThrowsOutside CSharp.MarquardtSecurityAlgo.generateKey .MarquardtSecurityAlgo [4] 4
      (WordsHeld ["const_M", "const_C", "const_A"]) := by
  intro seed outKey level parameters h hasked hseed hkey hne
  have hlen := List.mem_singleton.mp hseed
  have hM : Asked parameters ("const_M", "ByteArray") := hasked _ (by simp)
  have hC : Asked parameters ("const_C", "ByteArray") := hasked _ (by simp)
  have hA : Asked parameters ("const_A", "ByteArray") := hasked _ (by simp)
  unfold CSharp.MarquardtSecurityAlgo.generateKey
  -- all the constants are parsed before the first of them is read as a word
  rw [(getParameterBytearray_asked h hM).1, ok_bind, (getParameterBytearray_asked h hC).1, ok_bind,
    (getParameterBytearray_asked h hA).1, ok_bind]
  refine (returnsIff_bind (csWord_ends h hM .big) fun constM hconst =>
    returnsIff_bind (csWord_ends h hC .big) fun _ _ =>
    returnsIff_bind_left (csWord_ends h hA .big) fun _ _ => ?_).congr (by simp [WordsHeld])
  refine returns_bind (csBytesToInt_returns (n := 0) (by omega) .big) fun _ _ => ?_
  rw [if_neg (taken hseed hkey)]
  have hzero := csWord_ne_zero h hM (hne hlen hkey) hconst
  refine returns_bind ?_ fun _ _ => wordKey_returns _ hkey
  unfold CSharp.remUint
  rw [if_neg hzero]
  exact returns_ok _

theorem throws_VGSSecurityAlgo :
    ThrowsOutside CSharp.VGSSecurityAlgo.generateKey (.always [("K", "ByteArray")]) [4] 4
      (WordsHeld ["K"]) := by
  intro seed outKey level parameters h hasked hseed hkey _
  have hlen := List.mem_singleton.mp hseed
  have hK : Asked parameters ("K", "ByteArray") := hasked _ (.head _)
  refine (returnsIff_bind_left (getParameterWord_ends h hK .big) fun _ _ => ?_).congr
    (by simp [WordsHeld])
  rw [if_neg (taken hseed hkey)]
  exact seedKey_returns (by omega) hkey _

theorem throws_VGSSecurityAlgoExt :
    ThrowsOutside CSharp.VGSSecurityAlgoExt.generateKey
      (.always [("M", "ByteArray"), ("X", "ByteArray")]) [4] 4 (WordsHeld ["M", "X"]) := by
  intro seed outKey level parameters h hasked hseed hkey _
  have hlen := List.mem_singleton.mp hseed
  have hM : Asked parameters ("M", "ByteArray") := hasked _ (.head _)
  have hX : Asked parameters ("X", "ByteArray") := hasked _ (.tail _ (.head _))
  refine (returnsIff_bind (getParameterWord_ends h hM .big) fun _ _ =>
    returnsIff_bind_left (getParameterWord_ends h hX .big) fun _ _ => ?_).congr
    (by simp [WordsHeld])
  rw [if_neg (taken hseed hkey)]
  exact seedKey_returns (by omega) hkey _

theorem throws_maskXorAdd (a b c : String) (finish : Int64 → Int64) :
    ThrowsOutside (CSharp.maskXorAdd a b c finish)
      (.always [(a, "ByteArray"), (b, "ByteArray"), (c, "ByteArray")]) [4] 4
      (WordsHeld [a, b, c]) := by
  intro seed outKey level parameters h hasked hseed hkey _
  have hlen := List.mem_singleton.mp hseed
  have ha : Asked parameters (a, "ByteArray") := hasked _ (.head _)
  have hb : Asked parameters (b, "ByteArray") := hasked _ (.tail _ (.head _))
  have hc : Asked parameters (c, "ByteArray") := hasked _ (.tail _ (.tail _ (.head _)))
  refine (returnsIff_bind (getParameterWord_ends h ha .big) fun _ _ =>
    returnsIff_bind (getParameterWord_ends h hb .big) fun _ _ =>
    returnsIff_bind_left (getParameterWord_ends h hc .big) fun _ _ => ?_).congr
    (by simp [WordsHeld])
  rw [if_neg (taken hseed hkey)]
  exact seedKey_returns (by omega) hkey _

/-- The constants are read as words behind the guard. -/
theorem throws_KI221Algo2 :
    ThrowsOutside CSharp.KI221Algo2.generateKey
      (.always [("Xor", "ByteArray"), ("Add", "ByteArray")])
      [4] 4 (WordsHeld ["Xor", "Add"]) := by
  intro seed outKey level parameters h hasked hseed hkey _
  have hlen := List.mem_singleton.mp hseed
  have hX : Asked parameters ("Xor", "ByteArray") := hasked _ (.head _)
  have hA : Asked parameters ("Add", "ByteArray") := hasked _ (.tail _ (.head _))
  unfold CSharp.KI221Algo2.generateKey
  rw [if_neg (taken hseed hkey), (getParameterBytearray_asked h hX).1, ok_bind,
    (getParameterBytearray_asked h hA).1, ok_bind]
  refine (returnsIff_bind (csWord_ends h hX .little) fun _ _ =>
    returnsIff_bind_left (csWord_ends h hA .little) fun _ _ => ?_).congr (by simp [WordsHeld])
  exact seedKey_returns (by omega) hkey _

/-- A seed of eight bytes is read at its first four. -/
theorem throws_ORC166 :
    ThrowsOutside CSharp.ORC166.generateKey (.always [("staticKey", "ByteArray")]) [4, 8] 4
      (WordsHeld ["staticKey"]) := by
  intro seed outKey level parameters h hasked hseed hkey _
  have hlen : seed.length = 4 ∨ seed.length = 8 := by simpa using hseed
  have hK : Asked parameters ("staticKey", "ByteArray") := hasked _ (.head _)
  refine (returnsIff_bind_left (getParameterWord_ends h hK .big) fun _ _ => ?_).congr
    (by simp [WordsHeld])
  rw [if_neg (by omega), if_neg (not_not.mpr hlen)]
  refine returns_bind (csItem_returns (i := 0) (by omega)) fun _ _ => ?_
  refine returns_bind (csItem_returns (i := 1) (by omega)) fun _ _ => ?_
  refine returns_bind (csItem_returns (i := 2) (by omega)) fun _ _ => ?_
  refine returns_bind (csItem_returns (i := 3) (by omega)) fun _ _ => ?_
  exact wordKey_returns _ hkey

theorem throws_SWSP177 :
    ThrowsOutside CSharp.SWSP177.generateKey (.always [("KeyConst", "ByteArray")]) [4] 4
      (WordsHeld ["KeyConst"]) := by
  intro seed outKey level parameters h hasked hseed hkey _
  have hlen := List.mem_singleton.mp hseed
  have hK : Asked parameters ("KeyConst", "ByteArray") := hasked _ (.head _)
  refine (returnsIff_bind_left (getParameterWord_ends h hK .big) fun _ _ => ?_).congr
    (by simp [WordsHeld])
  rw [if_neg (taken hseed hkey)]
  exact seedKey_returns (by omega) hkey _

end AutoDiag.Proof
