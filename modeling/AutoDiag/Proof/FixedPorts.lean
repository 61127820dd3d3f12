import AutoDiag.Proof.ClusterPorts
import AutoDiag.Proof.PowertrainPorts

/-!
# The powertrain providers that select at fixed places

`PowertrainSecurityAlgo3` takes a word of its table, the others rows of the matrices that their
parameters hold.
-/

namespace AutoDiag.Proof

open Raise Security BitUtility

variable {parameters : List Parameter}

/-! ## `PowertrainSecurityAlgo3` -/

namespace PowertrainSecurityAlgo3

open Security.PowertrainSecurityAlgo3

/-- One bit, moved from its place in the seed to its place in the index. -/
theorem remapBit_toNat (w : UInt32) {p d : Nat} (hp : p < 31) (hd : d < 7) :
    (CSharp.PowertrainSecurityAlgo3.remapBit w (Int32.ofNat p) (Int32.ofNat d)).toNat
      = remapBit w.toNat p d := by
  have hmask : (1 <<< Int32.ofNat p : Int32).toInt64 = Int64.ofNat (1 <<< p)
      ∧ 1 <<< p < 2 ^ 31 := by
    interval_cases p <;> decide
  have hbit : (1 <<< Int32.ofNat d : Int32).toUInt32.toNat = 1 <<< d &&& u32 := by
    interval_cases d <;> decide
  have hset := KIAlgo1.and_pos_iff w hmask.2
  rw [CSharp.PowertrainSecurityAlgo3.remapBit, remapBit, hmask.1]
  by_cases h : 0 < w.toNat &&& 1 <<< p
  · rw [if_pos h, if_pos (hset.mpr h)]
    exact hbit
  · rw [if_neg h, if_neg (mt hset.mp h)]
    rfl

/-- The bits are put together in order. -/
theorem remapped_toNat (w : UInt32) (places : List (Nat × Nat))
    (h : ∀ place ∈ places, place.1 < 31 ∧ place.2 < 7) (value : UInt32) :
    ((places.map fun place => (Int32.ofNat place.1, place.2)).foldl (fun remappedValue place =>
        remappedValue ||| CSharp.PowertrainSecurityAlgo3.remapBit w place.1 (Int32.ofNat place.2))
        value).toNat
      = places.foldl (fun remappedValue place =>
        remappedValue ||| remapBit w.toNat place.1 place.2) value.toNat := by
  induction places generalizing value with
  | nil => rfl
  | cons place places ih =>
    obtain ⟨hp, hd⟩ := h place List.mem_cons_self
    rw [List.map_cons, List.foldl_cons, List.foldl_cons,
      ih (fun place' h' => h place' (List.mem_cons_of_mem _ h')), UInt32.toNat_or,
      remapBit_toNat w hp hd]

/-- All seven bits, so the index is the same. -/
theorem remap_toNat (w : UInt32) :
    (CSharp.PowertrainSecurityAlgo3.remap w).toNat = remap w.toNat := by
  have hplaces : CSharp.PowertrainSecurityAlgo3.sourceBitPositions.zipIdx
      = sourceBitPositions.zipIdx.map fun place => (Int32.ofNat place.1, place.2) := by decide
  have hremap := remapped_toNat w sourceBitPositions.zipIdx (by decide) 0
  rw [← hplaces] at hremap
  rw [remap, ← toNat_and_u32]
  exact congrArg (· &&& u32) hremap

/-- Word for word, the two tables are the same. -/
theorem lookupTable_same :
    CSharp.PowertrainSecurityAlgo3.lookupTable.map UInt32.toNat = lookupTable := by decide

end PowertrainSecurityAlgo3

theorem PowertrainSecurityAlgo3_related (seed outKey : Bytes) (level : Int) :
    Related Eq (PowertrainSecurityAlgo3.generateKey seed outKey.length level parameters)
      (CSharp.PowertrainSecurityAlgo3.generateKey seed outKey level parameters) := by
  refine related_guard fun hseed hkey => ?_
  obtain ⟨w, hw, hpy⟩ := @bytesToInt_agree seed 0 (by omega) .big
  have htable : List.Forall₂ (fun (x : Nat) (x' : UInt32) => x = x'.toNat)
      Security.PowertrainSecurityAlgo3.lookupTable CSharp.PowertrainSecurityAlgo3.lookupTable := by
    rw [← PowertrainSecurityAlgo3.lookupTable_same, List.forall₂_map_left_iff]
    exact List.forall₂_same.mpr fun _ _ => rfl
  have hmask : Security.PowertrainSecurityAlgo3.finalXorKey
      = CSharp.PowertrainSecurityAlgo3.finalXorKey.toNat := rfl
  rw [hpy, show CSharp.BitUtility.bytesToInt seed .big 0 = .ok w from hw, ok_bind]
  dsimp only
  rw [← PowertrainSecurityAlgo3.remap_toNat, hmask]
  refine related_bind (listItem_related htable _) ?_
  rintro _ entry rfl
  rw [← UInt32.toNat_and, ← UInt32.toNat_xor, ← UInt32.toNat_xor, toNat_and_u32]
  exact related_key hkey (ofInt_toNat _)

/-! ## Matrices of byte arrays -/

theorem matrixRows_related (h : WrittenAny parameters) (stem : String) :
    Related SameMatrix (matrixRows parameters stem) (CSharp.matrixRows parameters stem) := by
  refine related_mapM fun row _ => ?_
  rcases related_cases (paramBytes_alike h (stem ++ toString row)) with
    ⟨e, e', hx, hy⟩ | ⟨data, _, hx, hy, rfl⟩
  · rw [hx, hy]
    exact related_error _ _
  · rw [hx, hy, ok_bind]
    refine related_ok ?_
    rw [List.forall₂_map_left_iff]
    exact List.forall₂_same.mpr fun _ _ => rfl

theorem selectFixed_related
    {dBits : UInt8 → UInt8 → UInt8 → UInt8 → Except Exn Security.Selection}
    {gBits : UInt8 → UInt8 → UInt8 → UInt8 → Nat → Except Exn Security.Selection}
    {dBits' : UInt8 → UInt8 → UInt8 → UInt8 → Except CSharp.Exception CSharp.Selection}
    {gBits' : UInt8 → UInt8 → UInt8 → UInt8 → UInt32 → Except CSharp.Exception CSharp.Selection}
    (hplaces : SamePlaces dBits gBits dBits' gBits') (h : WrittenAny parameters)
    (seed outKey : Bytes) (level : Int) :
    Related Eq (selectFixed dBits gBits seed outKey.length level parameters)
      (CSharp.selectFixed dBits' gBits' seed outKey level parameters) := by
  refine related_bind (matrixRows_related h "D_VALUE_") ?_
  intro d d' hd
  refine related_bind (matrixRows_related h "G_VALUE_") ?_
  intro g g' hg
  refine related_guard fun hseed hkey => ?_
  refine related_bind (fixedKey_related hplaces hd hg seed) ?_
  rintro _ key rfl
  exact related_key hkey (ofInt_toNat key)

end AutoDiag.Proof
