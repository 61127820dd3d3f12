import AutoDiag.Security.ClusterProviders
import AutoDiag.Security.CryptoProviders
import AutoDiag.Security.IC204
import AutoDiag.Security.Powertrain
import AutoDiag.Security.ShortProviders
import AutoDiag.Security.Unlock
import AutoDiag.Security.VDOSecurityAlgo
import AutoDiag.Security.VolkswagenSA2
import AutoDiag.Security.WordProviders

/-!
# The registered providers

Every module of `algorithms` under the name of its class, as `_discover` collects
them. The names are the ones a definition refers to.
-/

namespace AutoDiag

/-- `Execute`, to its end: a tape cannot keep the loop going for more turns than this. -/
def VolkswagenSA2.executeTape (tape : Bytes) (seed : UInt32) : Except Exn UInt32 :=
  (execute tape (256 ^ tape.length + 1) seed).getD (.ok 0)

namespace Security

open BitUtility

def VolkswagenSA2.generateKey : Provider := fun seed keyLength _accessLevel parameters => do
  let tape ← paramBytes parameters "InstructionTape"
  if seed.length ≠ 4 ∨ keyLength ≠ 4 then return none
  else
    let key ← AutoDiag.VolkswagenSA2.executeTape tape (UInt32.ofNat (bytesToInt seed .big 0))
    return some (intToBytes key.toNat .big)

/-- `get_providers()`. -/
def providers (crypto : Crypto) : List (String × Provider) :=
  [("ArrayReverseAlgo", ArrayReverseAlgo.generateKey),
    ("DRVU_PROF", DRVU_PROF.generateKey),
    ("DaimlerStandardSecurityAlgo", DaimlerStandardSecurityAlgo.generateKey),
    ("DaimlerStandardSecurityAlgoMod", DaimlerStandardSecurityAlgoMod.generateKey),
    ("DaimlerStandardSecurityAlgoRefG", DaimlerStandardSecurityAlgoRefG.generateKey),
    ("EDIFF290", EDIFF290.generateKey),
    ("ESP9212Algo1", ESP9212Algo1.generateKey),
    ("ESPSecurityAlgoLevel1", ESPSecurityAlgoLevel1.generateKey),
    ("EsLibEd25519", EsLibEd25519.generateKey crypto),
    ("HU45Algo", HU45Algo.generateKey),
    ("HondaAlgo1", HondaAlgo1.generateKey),
    ("IC172Algo1", IC172Algo1.generateKey),
    ("IC172Algo2", IC172Algo2.generateKey),
    ("IC204", IC204.generateKey),
    ("KI203Algo", KI203Algo.generateKey),
    ("KI221Algo1", KI221Algo1.generateKey),
    ("KI221Algo2", KI221Algo2.generateKey),
    ("KIAlgo1", KIAlgo1.generateKey),
    ("MarquardtSecurityAlgo", MarquardtSecurityAlgo.generateKey),
    ("NetaAlgo1", NetaAlgo1.generateKey),
    ("OCM172", OCM172.generateKey),
    ("ORC166", ORC166.generateKey),
    ("PowertrainBoschContiSecurityAlgo1", PowertrainBoschContiSecurityAlgo1.generateKey),
    ("PowertrainBoschContiSecurityAlgo2", PowertrainBoschContiSecurityAlgo2.generateKey),
    ("PowertrainDelphiSecurityAlgo", PowertrainDelphiSecurityAlgo.generateKey),
    ("PowertrainSecurityAlgo", PowertrainSecurityAlgo.generateKey),
    ("PowertrainSecurityAlgo2", PowertrainSecurityAlgo2.generateKey),
    ("PowertrainSecurityAlgo3", PowertrainSecurityAlgo3.generateKey),
    ("PowertrainSecurityAlgoNFZ", PowertrainSecurityAlgoNFZ.generateKey),
    ("RBTM", RBTM.generateKey),
    ("RDU222", RDU222.generateKey),
    ("RVC222_MPC222_FCW246_LRR3", RVC222_MPC222_FCW246_LRR3.generateKey),
    ("RenaultRadio", RenaultRadio.generateKey),
    ("SWSP177", SWSP177.generateKey),
    ("SubaruSecurityAccess2018CY1", SubaruSecurityAccess2018CY1.generateKey crypto),
    ("VDOSecurityAlgo", VDOSecurityAlgo.generateKey),
    ("VGSSecurityAlgo", VGSSecurityAlgo.generateKey),
    ("VGSSecurityAlgo2Bytes", VGSSecurityAlgo2Bytes.generateKey),
    ("VGSSecurityAlgoExt", VGSSecurityAlgoExt.generateKey),
    ("VolkswagenSA2", VolkswagenSA2.generateKey),
    ("XorAlgo", XorAlgo.generateKey)]

/-- `get_provider`. -/
def getProvider (crypto : Crypto) (name : String) : Option Provider := (providers crypto).lookup name

end Security

end AutoDiag
