import AutoDiag.Proof.Attribution
import AutoDiag.Proof.BitUtility
import AutoDiag.Proof.BoundDevices
import AutoDiag.Proof.BrandMemory
import AutoDiag.Proof.CheckDigit
import AutoDiag.Proof.ClosedUp
import AutoDiag.Proof.CutShort
import AutoDiag.Proof.Delivery
import AutoDiag.Proof.DtcLibrary
import AutoDiag.Proof.DtcRecords
import AutoDiag.Proof.Echo
import AutoDiag.Proof.FakeQueue
import AutoDiag.Proof.FindDefinition
import AutoDiag.Proof.Guarded
import AutoDiag.Proof.GuiDtcs
import AutoDiag.Proof.HondaPort
import AutoDiag.Proof.LenientPorts
import AutoDiag.Proof.LiveFetch
import AutoDiag.Proof.LivePids
import AutoDiag.Proof.LiveSpinner
import AutoDiag.Proof.Malformed
import AutoDiag.Proof.MemoryRequests
import AutoDiag.Proof.Misnamed
import AutoDiag.Proof.Pending
import AutoDiag.Proof.RadioPort
import AutoDiag.Proof.Sa2Bijective
import AutoDiag.Proof.Sa2Halts
import AutoDiag.Proof.Sa2Port
import AutoDiag.Proof.Sa2Programs
import AutoDiag.Proof.ScalarMultiplication
import AutoDiag.Proof.SeedBijections
import AutoDiag.Proof.SessionLifecycle
import AutoDiag.Proof.ShortPorts
import AutoDiag.Proof.Signatures
import AutoDiag.Proof.SimulatedCar
import AutoDiag.Proof.StatefulPorts
import AutoDiag.Proof.Strays
import AutoDiag.Proof.SupportedPids
import AutoDiag.Proof.VDOSecurityAlgo
import AutoDiag.Proof.VinOrigin
import AutoDiag.Proof.WordPorts
