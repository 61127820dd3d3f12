import AutoDiag.Proof.Selection
import AutoDiag.Security.WordProviders

/-!
# Contracts of the providers of words and pairs

A provider that divides by a word stumbles over a word of zero, and one that reads
single bytes of a constant over a constant that is too short.
-/

namespace AutoDiag.Proof

open Raise Security BitUtility

/-! ## Words -/

/-- The word that a parameter holds. -/
def wordAt (parameters : List Parameter) (key : String) : Nat :=
  bytesToInt (bytesAt parameters key) .big 0

/-- Nothing is divided by: reading the constants is all that can fail. -/
theorem meets_affine {key : String} {asks : List (String × String)}
    {constants : List Parameter → Except Exn (Int × Int × Int × Int)}
    (h : ∀ parameters, (∀ ask ∈ asks, Asked parameters ask) → Returns (constants parameters)) :
    Meets (affine key constants) (.always ((key, "ByteArray") :: asks)) := by
  refine meets_always ?_
  intro seed keyLength accessLevel parameters hasked
  obtain ⟨hkey, hasked⟩ := List.forall_mem_cons.mp hasked
  unfold affine
  rw [paramWord_asked hkey, ok_bind]
  refine returns_bind (h parameters hasked) fun (kA, kC, kA', kC') _ => ?_
  exact guard_returns fun _ => returns_pure _

theorem meets_DaimlerStandardSecurityAlgoMod :
    Meets DaimlerStandardSecurityAlgoMod.generateKey
      (.always [("K", "ByteArray"), ("kA", "Int64"), ("kC", "Int64")]) := by
  refine meets_affine fun parameters hasked => ?_
  refine returns_bind (paramLong_asked (hasked _ (by simp))) fun kA _ => ?_
  exact returns_bind (paramLong_asked (hasked _ (by simp))) fun kC _ => returns_pure _

/-- `KeyK` divides. -/
@[simps asks] def Contract.EDIFF290 : Contract where
  asks := [("KeyK", "ByteArray"), ("kA", "Int32"), ("kC", "Int32")]
  accepts seed keyLength parameters :=
    seed.length = 8 → keyLength = 4 → wordAt parameters "KeyK" ≠ 0

/-- `%` by the key is the only step behind the guard that can fail. -/
theorem meets_EDIFF290 : Meets EDIFF290.generateKey .EDIFF290 := by
  intro seed keyLength accessLevel parameters hasked
  unfold EDIFF290.generateKey
  rw [paramWord_asked (hasked _ (by simp)), ok_bind, paramInt_asked (hasked _ (by simp)), ok_bind,
    paramInt_asked (hasked _ (by simp)), ok_bind]
  refine guard_ends fun _ _ => ?_
  exact returnsIff_bind_left (mod_ends _ _) fun _ _ => returns_pure _

/-- `KeyConst` divides. -/
@[simps asks] def Contract.DRVU_PROF : Contract where
  asks := [("KeyConst", "ByteArray")]
  accepts seed keyLength parameters :=
    seed.length = 4 → keyLength = 4 → wordAt parameters "KeyConst" ≠ 0

theorem meets_DRVU_PROF : Meets DRVU_PROF.generateKey .DRVU_PROF := by
  intro seed keyLength accessLevel parameters hasked
  unfold DRVU_PROF.generateKey
  rw [paramWord_asked (hasked _ (by simp)), ok_bind]
  refine guard_ends fun _ _ => ?_
  exact returnsIff_bind_left (mod_ends _ _) fun _ _ => returns_pure _

/-- `const_M` divides. -/
@[simps asks] def Contract.MarquardtSecurityAlgo : Contract where
  asks := [("const_M", "ByteArray"), ("const_C", "ByteArray"), ("const_A", "ByteArray")]
  accepts seed keyLength parameters :=
    seed.length = 4 → keyLength = 4 → wordAt parameters "const_M" ≠ 0

theorem meets_MarquardtSecurityAlgo :
    Meets MarquardtSecurityAlgo.generateKey .MarquardtSecurityAlgo := by
  intro seed keyLength accessLevel parameters hasked
  unfold MarquardtSecurityAlgo.generateKey
  rw [paramBytes_asked (hasked _ (by simp)), ok_bind, paramBytes_asked (hasked _ (by simp)),
    ok_bind, paramBytes_asked (hasked _ (by simp)), ok_bind]
  refine guard_ends fun _ _ => ?_
  exact returnsIff_bind_left (mod_ends _ _) fun _ _ => returns_pure _

/-- `bytes_to_int` reads a short constant as a short word, so nothing fails. -/
theorem meets_VGSSecurityAlgo :
    Meets VGSSecurityAlgo.generateKey (.always [("K", "ByteArray")]) := by
  refine meets_always fun seed keyLength accessLevel parameters hasked => ?_
  unfold VGSSecurityAlgo.generateKey
  rw [paramWord_asked (hasked _ (by simp)), ok_bind]
  exact guard_returns fun _ => returns_pure _

theorem meets_VGSSecurityAlgoExt :
    Meets VGSSecurityAlgoExt.generateKey (.always [("M", "ByteArray"), ("X", "ByteArray")]) := by
  refine meets_always fun seed keyLength accessLevel parameters hasked => ?_
  unfold VGSSecurityAlgoExt.generateKey
  rw [paramWord_asked (hasked _ (by simp)), ok_bind, paramWord_asked (hasked _ (by simp)), ok_bind]
  exact guard_returns fun _ => returns_pure _

/-- Words are masked, mixed and added, which never fails. -/
theorem meets_maskXorAdd (a b c : String) (finish : Nat → Nat) :
    Meets (maskXorAdd a b c finish)
      (.always [(a, "ByteArray"), (b, "ByteArray"), (c, "ByteArray")]) := by
  refine meets_always fun seed keyLength accessLevel parameters hasked => ?_
  unfold maskXorAdd
  rw [paramWord_asked (hasked _ (by simp)), ok_bind, paramWord_asked (hasked _ (by simp)), ok_bind,
    paramWord_asked (hasked _ (by simp)), ok_bind]
  exact guard_returns fun _ => returns_pure _

theorem meets_KI221Algo2 :
    Meets KI221Algo2.generateKey (.always [("Xor", "ByteArray"), ("Add", "ByteArray")]) := by
  refine meets_always fun seed keyLength accessLevel parameters hasked => ?_
  unfold KI221Algo2.generateKey
  rw [paramBytes_asked (hasked _ (by simp)), ok_bind, paramBytes_asked (hasked _ (by simp)),
    ok_bind]
  exact guard_returns fun _ => returns_pure _

/-- Four bytes of the seed are read, and a seed of four or eight has them. -/
theorem meets_ORC166 : Meets ORC166.generateKey (.always [("staticKey", "ByteArray")]) := by
  refine meets_always fun seed keyLength accessLevel parameters hasked => ?_
  unfold ORC166.generateKey
  rw [paramWord_asked (hasked _ (by simp)), ok_bind]
  split
  · exact returns_pure none
  split
  · exact returns_pure none
  · rename_i hlen
    refine returns_bind (index_returns (by omega)) fun _ _ => ?_
    refine returns_bind (index_returns (by omega)) fun _ _ => ?_
    refine returns_bind (index_returns (by omega)) fun _ _ => ?_
    exact returns_bind (index_returns (by omega)) fun _ _ => returns_pure _

theorem meets_SWSP177 : Meets SWSP177.generateKey (.always [("KeyConst", "ByteArray")]) := by
  refine meets_always fun seed keyLength accessLevel parameters hasked => ?_
  unfold SWSP177.generateKey
  rw [paramWord_asked (hasked _ (by simp)), ok_bind]
  exact guard_returns fun _ => returns_pure _

/-- Each byte that is read is one of four. -/
theorem meets_KI203Algo : Meets KI203Algo.generateKey (.always [("K", "ByteArray")]) := by
  refine meets_always fun seed keyLength accessLevel parameters hasked => ?_
  unfold KI203Algo.generateKey
  refine guard_returns fun hseed => ?_
  rw [paramWord_asked (hasked _ (by simp)), ok_bind]
  refine returns_bind (index_returns (by omega)) fun _ _ => ?_
  refine returns_bind (index_returns (by omega)) fun _ _ => ?_
  refine returns_bind (index_returns (by omega)) fun _ _ => ?_
  refine returns_bind (index_returns (by omega)) fun _ _ => ?_
  refine returns_bind ((getByte_ends _ _).iff.mpr (by decide)) fun _ _ => ?_
  refine returns_bind ((getByte_ends _ _).iff.mpr (by decide)) fun _ _ => ?_
  refine returns_bind ((getByte_ends _ _).iff.mpr (by decide)) fun _ _ => ?_
  exact returns_bind ((getByte_ends _ _).iff.mpr (by decide)) fun _ _ => returns_pure _

/-! ## Two bytes, and copies -/

/-- Nothing is asked for and nothing is read. -/
theorem meets_ArrayReverseAlgo : Meets ArrayReverseAlgo.generateKey (.always []) := by
  refine meets_always fun seed keyLength accessLevel parameters _ => ?_
  unfold ArrayReverseAlgo.generateKey
  split <;> exact returns_ok _

/-- `zip` reads the constant only as far as it goes. -/
theorem meets_XorAlgo : Meets XorAlgo.generateKey (.always [("K", "ByteArray")]) := by
  refine meets_always fun seed keyLength accessLevel parameters hasked => ?_
  unfold XorAlgo.generateKey
  rw [paramBytes_asked (hasked _ (by simp)), ok_bind]
  split <;> exact returns_pure _

theorem meets_copySeed (n : Nat) : Meets (copySeed n) (.always []) := by
  refine meets_always fun seed keyLength accessLevel parameters _ => ?_
  unfold copySeed
  split <;> exact returns_ok _

/-- Behind the guard the seed has the two bytes. -/
theorem meets_ofTwoBytes (key : UInt8 → UInt8 → Bytes) : Meets (ofTwoBytes key) (.always []) := by
  refine meets_always fun seed keyLength accessLevel parameters _ => ?_
  unfold ofTwoBytes
  refine guard_returns fun hseed => ?_
  refine returns_bind (index_returns (by omega)) fun _ _ => ?_
  exact returns_bind (index_returns (by omega)) fun _ _ => returns_pure _

/-- The constant is read before the lengths are checked. -/
@[simps asks] def Contract.VGSSecurityAlgo2Bytes : Contract where
  asks := [("K", "ByteArray")]
  accepts _ _ parameters := 2 ≤ (bytesAt parameters "K").length

theorem meets_VGSSecurityAlgo2Bytes :
    Meets VGSSecurityAlgo2Bytes.generateKey .VGSSecurityAlgo2Bytes := by
  intro seed keyLength accessLevel parameters hasked
  unfold VGSSecurityAlgo2Bytes.generateKey
  rw [paramBytes_asked (hasked _ (by simp)), ok_bind]
  -- the second byte is read first
  refine returnsIff_bind_left (index_ends _ 1) fun k1 hk1 => ?_
  have hlen := lt_of_index hk1
  refine returns_bind (index_returns (by omega)) fun _ _ => ?_
  refine guard_returns fun hseed => ?_
  refine returns_bind (index_returns (by omega)) fun _ _ => ?_
  exact returns_bind (index_returns (by omega)) fun _ _ => returns_pure _

/-- Six bytes of the constant are read, but only behind the guard. -/
@[simps asks] def Contract.HondaAlgo1 : Contract where
  asks := [("K", "ByteArray")]
  accepts seed keyLength parameters :=
    seed.length = 2 → keyLength = 2 → 6 ≤ (bytesAt parameters "K").length

/-- The constant is read before the seed, and only the constant can be too short. -/
theorem meets_HondaAlgo1 : Meets HondaAlgo1.generateKey .HondaAlgo1 := by
  intro seed keyLength accessLevel parameters hasked
  unfold HondaAlgo1.generateKey
  refine guard_ends fun hseed _ => ?_
  rw [paramBytes_asked (hasked _ (by simp)), ok_bind]
  -- the seed is read last, and has the two bytes
  have hseed01 : ∀ f : UInt8 → UInt8 → Option Bytes, Returns (do
      let s0 ← Py.index seed 0
      let s1 ← Py.index seed 1
      return f s0 s1) := fun f =>
    returns_bind (index_returns (by omega)) fun _ _ =>
      returns_bind (index_returns (by omega)) fun _ _ => returns_pure _
  refine (returnsIff_bind (index_ends _ 0) fun _ _ => returnsIff_bind (index_ends _ 1) fun _ _ =>
    returnsIff_bind (index_ends _ 2) fun _ _ => returnsIff_bind (index_ends _ 3) fun _ _ =>
    returnsIff_bind (index_ends _ 4) fun _ _ =>
    returnsIff_bind_left (index_ends _ 5) fun _ _ => hseed01 _).congr (by omega)

/-- The two bytes of the pin are read, but only behind both checks. -/
@[simps asks] def Contract.NetaAlgo1 : Contract where
  asks := [("Pin", "ByteArray")]
  accepts seed keyLength parameters :=
    keyLength = 2 → seed.length = 2 → 2 ≤ (bytesAt parameters "Pin").length

theorem meets_NetaAlgo1 : Meets NetaAlgo1.generateKey .NetaAlgo1 := by
  intro seed keyLength accessLevel parameters hasked
  have hread : ∀ f : UInt8 → UInt8 → Option Bytes,
      ReturnsIff Fault (2 ≤ (bytesAt parameters "Pin").length) (do
        let p1 ← Py.index (bytesAt parameters "Pin") 1
        let p0 ← Py.index (bytesAt parameters "Pin") 0
        return f p0 p1) := by
    intro f
    -- the second byte is read first, and where it is there the first one is too
    refine returnsIff_bind_left (index_ends _ 1) fun p1 hp1 => ?_
    have hlen := lt_of_index hp1
    exact returns_bind (index_returns (by omega)) fun _ _ => returns_pure _
  unfold NetaAlgo1.generateKey
  rw [paramBytes_asked (hasked _ (by simp))]
  have hends := fun f => returnsIff_ite (returns_pure none) fun (_ : ¬ keyLength ≠ 2) =>
    returnsIff_ite (returns_pure none) fun (_ : ¬ seed.length ≠ 2) => hread f
  exact (hends _).congr (by rw [not_not, not_not]; rfl)

/-- The number that the first two bytes make. -/
def pairOf (data : Bytes) : Nat := joinBytes (data.getD 0 0) (data.getD 1 0) &&& u32

/-- Two bytes are read where there are two. -/
theorem pair_ends {α : Type} {data : Bytes} {P : Prop} {f : UInt8 → UInt8 → Except Exn α}
    (h : ReturnsIff Fault P (f (data.getD 0 0) (data.getD 1 0))) :
    ReturnsIff Fault (2 ≤ data.length ∧ P) (do
      let b0 ← Py.index data 0
      let b1 ← Py.index data 1
      f b0 b1) := by
  have hread : ReturnsIff Fault (0 < data.length ∧ 1 < data.length ∧ P) (do
      let b0 ← Py.index data 0
      let b1 ← Py.index data 1
      f b0 b1) := by
    refine returnsIff_bind (index_ends data 0) fun b0 h0 => ?_
    refine returnsIff_bind (index_ends data 1) fun b1 h1 => ?_
    rw [index_getD (lt_of_index h0)] at h0
    rw [index_getD (lt_of_index h1)] at h1
    rw [← Except.ok.inj h0, ← Except.ok.inj h1]
    exact h
  refine hread.congr ⟨fun hp => hp.2, fun hp => ⟨?_, hp⟩⟩
  exact Nat.lt_of_lt_of_le (by decide) hp.1

/-- The row of its table that the masked seed selects. -/
def switchRow (seed mask : Bytes) : Nat :=
  let x := pairOf seed &&& pairOf mask
  rowOf (x.testBit 14) (x.testBit 9) (x.testBit 8)

/-- The mask has its two bytes, and the table the row that they select. -/
@[simps asks] def Contract.PowertrainBoschContiSecurityAlgo1 : Contract where
  asks := [("ubTable", "ByteArray"), ("Mask", "ByteArray")]
  accepts seed keyLength parameters := seed.length = 2 → keyLength = 2 →
    2 ≤ (bytesAt parameters "Mask").length
      ∧ switchRow seed (bytesAt parameters "Mask") < (bytesAt parameters "ubTable").length

/-- The row of the `switch` is the one that the table is read at. -/
theorem meets_PowertrainBoschContiSecurityAlgo1 :
    Meets PowertrainBoschContiSecurityAlgo1.generateKey .PowertrainBoschContiSecurityAlgo1 := by
  intro seed keyLength accessLevel parameters hasked
  unfold PowertrainBoschContiSecurityAlgo1.generateKey
  rw [paramBytes_asked (hasked _ (by simp)), ok_bind,
    paramBytes_asked (hasked _ (by simp)), ok_bind]
  refine guard_ends fun hseed _ => ?_
  rw [index_getD (by omega), index_getD (by omega), ok_bind, ok_bind]
  refine pair_ends (returnsIff_bind_left ?_ fun _ _ => returns_pure _)
  -- the cascade of the source selects the row of the three bits
  rw [switchBits_eq]
  exact index_ends _ _

/-- As for the first, with the bits that the mask lets through closed up. -/
@[simps asks] def Contract.PowertrainBoschContiSecurityAlgo2 : Contract where
  asks := [("Table", "ByteArray"), ("uwMasc", "ByteArray")]
  accepts seed keyLength parameters := seed.length = 2 → keyLength = 2 →
    2 ≤ (bytesAt parameters "uwMasc").length
      ∧ closedUp (pairOf seed) (pairOf (bytesAt parameters "uwMasc"))
        < (bytesAt parameters "Table").length

theorem meets_PowertrainBoschContiSecurityAlgo2 :
    Meets PowertrainBoschContiSecurityAlgo2.generateKey .PowertrainBoschContiSecurityAlgo2 := by
  intro seed keyLength accessLevel parameters hasked
  unfold PowertrainBoschContiSecurityAlgo2.generateKey
  rw [paramBytes_asked (hasked _ (by simp)), ok_bind,
    paramBytes_asked (hasked _ (by simp)), ok_bind]
  refine guard_ends fun hseed _ => ?_
  rw [index_getD (by omega), index_getD (by omega), ok_bind, ok_bind]
  refine pair_ends (returnsIff_bind_left ?_ fun _ _ => returns_pure _)
  rw [activatedBits_eq]
  exact index_ends _ _

/-! ## The radio code -/

/-- Leading zeros fill a number up to four digits. -/
theorem digits4_length (n : Nat) : 4 ≤ (RenaultRadio.digits4 n).length := by
  unfold RenaultRadio.digits4
  rw [List.length_append, List.length_replicate]
  omega

/-- A key length below zero is no length of a buffer; nothing but the seed comes before it. -/
@[simps asks] def Contract.RenaultRadio : Contract where
  asks := []
  accepts seed keyLength _ := 4 ≤ seed.length →
    (RenaultRadio.vars (seed.getD 0 0) (seed.getD 1 0) (seed.getD 2 0) (seed.getD 3 0)).1 ≠ 0 →
      0 ≤ keyLength

/-- `bytearray(n)` fails exactly below zero. -/
theorem zeroBytes_ends (n : Int) : ReturnsIff Fault (0 ≤ n) (RenaultRadio.zeroBytes n) := by
  unfold RenaultRadio.zeroBytes
  split
  · exact .error (by omega) trivial
  · exact .ok (by omega)

/-- The four digits are there, so the buffer is all that can fail. -/
theorem meets_RenaultRadio : Meets RenaultRadio.generateKey .RenaultRadio := by
  intro seed keyLength accessLevel parameters _
  unfold RenaultRadio.generateKey
  refine (returnsIff_ite (returns_pure none) fun hlen => ?_).congr (imp_congr Nat.not_lt Iff.rfl)
  rw [index_getD (by omega), index_getD (by omega), index_getD (by omega), index_getD (by omega)]
  simp only [ok_bind]
  -- a `var1` of zero is turned away before the buffer is made
  refine returnsIff_ite (returns_pure none) fun hvar => ?_
  refine returnsIff_bind_left (zeroBytes_ends keyLength) fun outKey _ => ?_
  split
  · exact returns_pure none
  · have hdigits : ∀ i < 4, ∀ n, Returns (Py.item (RenaultRadio.digits4 n) i) :=
      fun i hi n => item_returns (Nat.lt_of_lt_of_le hi (digits4_length n))
    refine returns_bind (hdigits 0 (by decide) _) fun _ _ => ?_
    refine returns_bind (hdigits 1 (by decide) _) fun _ _ => ?_
    refine returns_bind (hdigits 2 (by decide) _) fun _ _ => ?_
    exact returns_bind (hdigits 3 (by decide) _) fun _ _ => returns_pure _

end AutoDiag.Proof
