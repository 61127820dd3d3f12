import AutoDiag.Proof.ClusterPorts
import AutoDiag.Proof.PowertrainPorts
import AutoDiag.Proof.VDOPort

/-!
# The stateful providers are the C# originals

Four providers whose steps depend on the seed. Each agrees with its original on every
seed and every constant, as long as no index parameter is below zero.
-/

namespace AutoDiag.Proof

open Raise Security

variable {parameters : List Parameter}

/-- Only the order of the bytes in a row is the provider's own. -/
theorem PowertrainSecurityAlgo_related (h : ∀ row ∈ parameters, WellFormed row)
    (hi : NoneNegative parameters (indexNames "i")) (hj : NoneNegative parameters (indexNames "j"))
    (seed outKey : Bytes) (level : Int) :
    Related Eq (PowertrainSecurityAlgo.generateKey seed outKey.length level parameters)
      (CSharp.PowertrainSecurityAlgo.generateKey seed outKey level parameters) := by
  rw [PowertrainSecurityAlgo.generateKey, PowertrainSecurityAlgo.original_names]
  refine selectByParameters_related h "X" "i" "j" ?_ hi hj seed outKey level
  intro bit2 bit1 bit0 matrix matrix' hm
  exact rowWord_related 2 1 0 3 bit2 bit1 bit0 hm

theorem PowertrainSecurityAlgo2_related (h : ∀ row ∈ parameters, WellFormed row)
    (hi : NoneNegative parameters (indexNames "ii"))
    (hj : NoneNegative parameters (indexNames "jj")) (seed outKey : Bytes) (level : Int) :
    Related Eq (PowertrainSecurityAlgo2.generateKey seed outKey.length level parameters)
      (CSharp.PowertrainSecurityAlgo2.generateKey seed outKey level parameters) := by
  rw [PowertrainSecurityAlgo2.generateKey, PowertrainSecurityAlgo2.original_names]
  refine selectByParameters_related h "XX" "ii" "jj" ?_ hi hj seed outKey level
  intro bit2 bit1 bit0 matrix matrix' hm
  exact rowWord_related 0 3 2 1 bit2 bit1 bit0 hm

/--
**The stateful providers return the keys of their originals.** `KIAlgo1` does for a
constant of four bytes or more, the others for index parameters that are not below
zero; an index beyond the end stops both sides.
-/
theorem statefulPorts_agree (parameters : List Parameter)
    (hrows : ∀ row ∈ parameters, WellFormed row) (hupper : ∀ row ∈ parameters, UpperCase row)
    (seed outKey : Bytes) (level : Int) :
    ((∀ row ∈ parameters, WordSized row) →
        Related Eq (KIAlgo1.generateKey seed outKey.length level parameters)
          (CSharp.KIAlgo1.generateKey seed outKey level parameters))
      ∧ (NoneNegative parameters ["InternalLevel"] →
        Related Eq (VDOSecurityAlgo.generateKey seed outKey.length level parameters)
          (CSharp.VDOSecurityAlgo.generateKey seed outKey level parameters))
      ∧ (NoneNegative parameters (indexNames "i" ++ indexNames "j") →
        Related Eq (PowertrainSecurityAlgo.generateKey seed outKey.length level parameters)
          (CSharp.PowertrainSecurityAlgo.generateKey seed outKey level parameters))
      ∧ (NoneNegative parameters (indexNames "ii" ++ indexNames "jj") →
        Related Eq (PowertrainSecurityAlgo2.generateKey seed outKey.length level parameters)
          (CSharp.PowertrainSecurityAlgo2.generateKey seed outKey level parameters)) := by
  refine ⟨?_, ?_, ?_, ?_⟩
  · intro hsize
    exact KIAlgo1.generateKey_related ⟨hrows, hupper, hsize⟩ seed outKey level
  · intro hlevel
    exact VDOPort.generateKey_related hrows hupper (hlevel _ (List.mem_singleton_self _))
      seed outKey level
  · intro hpos
    exact PowertrainSecurityAlgo_related hrows
      (fun name hname => hpos name (List.mem_append_left _ hname))
      (fun name hname => hpos name (List.mem_append_right _ hname)) seed outKey level
  · intro hpos
    exact PowertrainSecurityAlgo2_related hrows
      (fun name hname => hpos name (List.mem_append_left _ hname))
      (fun name hname => hpos name (List.mem_append_right _ hname)) seed outKey level

/-- A definition with the parameters of both cluster providers. -/
def clusterRows : List Parameter :=
  [⟨"Level", "06", "Byte"⟩, ⟨"K", "8123456789ABCDEF", "ByteArray"⟩, ⟨"InternalLevel", "5", "Int32"⟩]

theorem statefulPorts_agree_cluster :
    KIAlgo1.generateKey [0x81, 0xFE, 0xFD, 0xFC, 7, 6, 5, 4] 7 1 clusterRows
        = .ok (some [6, 66, 183, 132, 139, 255, 255])
      ∧ Related Eq (KIAlgo1.generateKey [0x81, 0xFE, 0xFD, 0xFC, 7, 6, 5, 4]
            (List.replicate 7 (0 : UInt8)).length 1 clusterRows)
          (CSharp.KIAlgo1.generateKey [0x81, 0xFE, 0xFD, 0xFC, 7, 6, 5, 4]
            (List.replicate 7 0) 1 clusterRows)
      ∧ VDOSecurityAlgo.generateKey [0x81, 0xFE, 0xFD, 0xFC, 7, 6, 5, 4] 8 1 clusterRows
        = .ok (some [176, 13, 174, 170, 65, 121, 205, 131])
      ∧ Related Eq (VDOSecurityAlgo.generateKey [0x81, 0xFE, 0xFD, 0xFC, 7, 6, 5, 4]
            (List.replicate 8 (0 : UInt8)).length 1 clusterRows)
          (CSharp.VDOSecurityAlgo.generateKey [0x81, 0xFE, 0xFD, 0xFC, 7, 6, 5, 4]
            (List.replicate 8 0) 1 clusterRows) := by
  have hrows : ∀ row ∈ clusterRows, WellFormed row := by decide
  have hupper : ∀ row ∈ clusterRows, UpperCase row := by decide
  have hsize : ∀ row ∈ clusterRows, WordSized row := by decide
  have hlevel : NoneNegative clusterRows ["InternalLevel"] := by
    intro name hname x hx
    have h5 : paramInt clusterRows "InternalLevel" = .ok 5 := by decide
    rw [List.mem_singleton.mp hname, h5] at hx
    rw [← Except.ok.inj hx]
    decide
  refine ⟨by decide +kernel, ?_, by decide +kernel, ?_⟩
  · exact (statefulPorts_agree clusterRows hrows hupper _ (List.replicate 7 0) 1).1 hsize
  · exact (statefulPorts_agree clusterRows hrows hupper _ (List.replicate 8 0) 1).2.1 hlevel

end AutoDiag.Proof
