import AutoDiag.Proof.ClusterContracts
import AutoDiag.Proof.PowertrainContracts
import AutoDiag.Proof.Sa2Halts
import AutoDiag.Proof.WordContracts

/-!
# What escapes from compute_key

Every registered provider meets its contract. So `compute_key` fails with
`UnlockError` only, as it is documented to, exactly where the contract of the
definition's provider holds.
-/

namespace AutoDiag.Proof

open Raise Security BitUtility

/-! ## SA2 -/

section Sa2

open AutoDiag.VolkswagenSA2

variable {tape : Bytes} {s : State}

/-- The machine stands at a byte that is no instruction, at one whose operand is beyond the end, or
at the end of a loop where none is open. -/
def Faulty (tape : Bytes) (s : State) : Prop :=
  ∃ opcode, tape[s.instructionPointer]? = some opcode
    ∧ ∀ instruction, instructionSet.lookup opcode = some instruction →
      tape.length ≤ s.instructionPointer + operandLength instruction
        ∨ (instruction = .loopNext ∧ s.forIterations = [])

theorem fetchOperandByte_lt (h : Returns (fetchOperandByte tape s)) :
    s.instructionPointer + 1 < tape.length := (index_ends _ _).iff.mp h

theorem fetchOperand_lt (h : Returns (fetchOperand tape s)) :
    s.instructionPointer + 4 < tape.length := by
  obtain ⟨op, h⟩ := h
  obtain ⟨_, -, h⟩ := bind_ok h
  obtain ⟨_, -, h⟩ := bind_ok h
  obtain ⟨_, -, h⟩ := bind_ok h
  obtain ⟨b3, h3, -⟩ := bind_ok h
  have hlt := lt_of_index h3
  simp only [Py.slice, List.length_drop, List.length_take] at hlt
  omega

/-- An instruction that is performed has its operand on the tape, and its loop. -/
theorem perform_returns {instruction : Instruction} (hip : s.instructionPointer < tape.length)
    (h : Returns (perform tape s instruction)) :
    s.instructionPointer + operandLength instruction < tape.length
      ∧ ¬ (instruction = .loopNext ∧ s.forIterations = []) := by
  have hfirst : ∀ {α β : Type} {x : Except Exn α} {f : α → Except Exn β},
      Returns (x >>= f) → Returns x := by
    rintro α β x f ⟨b, hb⟩
    obtain ⟨a, ha, -⟩ := bind_ok hb
    exact ⟨a, ha⟩
  cases instruction with
  | registerShiftLeft => exact ⟨hip, by simp⟩
  | registerShiftRight => exact ⟨hip, by simp⟩
  | add => exact ⟨fetchOperand_lt (hfirst h), by simp⟩
  | subtract => exact ⟨fetchOperand_lt (hfirst h), by simp⟩
  | exclusiveOr => exact ⟨fetchOperand_lt (hfirst h), by simp⟩
  | loopInit => exact ⟨fetchOperandByte_lt (hfirst h), by simp⟩
  | loopNext =>
      refine ⟨hip, ?_⟩
      rintro ⟨-, hnone⟩
      obtain ⟨s', h⟩ := h
      simp [perform, loopNext, hnone] at h
  | branchConditional => exact ⟨fetchOperandByte_lt (hfirst h), by simp⟩
  | branchUnconditional => exact ⟨fetchOperandByte_lt (hfirst h), by simp⟩
  | endExecution => exact ⟨hip, by simp⟩

theorem step_of_faulty (h : Faulty tape s) : ∃ e, step tape s = .inr (.error e) := by
  obtain ⟨opcode, hop, hfault⟩ := h
  have hip := (List.getElem?_eq_some_iff.mp hop).1
  have hraise : ¬ Returns (dispatch tape s opcode) := by
    unfold dispatch
    cases hins : instructionSet.lookup opcode with
    | none => exact not_returns_error _
    | some instruction =>
      intro hreturns
      obtain ⟨hlt, hloop⟩ := perform_returns hip hreturns
      rcases hfault instruction hins with hle | hnone
      · omega
      · exact hloop hnone
  obtain ⟨e, he⟩ := not_returns.mp hraise
  exact ⟨e, by simp only [step, hop, he]⟩

theorem faulty_of_stops {e : Exn} (h : Stops tape s (.error e)) : Faulty tape s ∧ Fault e := by
  cases h with
  | unknownOpcode hop hins =>
      refine ⟨⟨_, hop, fun instruction hins' => ?_⟩, trivial⟩
      rw [hins] at hins'
      cases hins'
  | operandBeyondEnd hop hins hle =>
      refine ⟨⟨_, hop, fun instruction hins' => ?_⟩, trivial⟩
      rw [hins] at hins'
      cases hins'
      exact .inl hle
  | noOpenLoop hop hins hnone =>
      refine ⟨⟨_, hop, fun instruction hins' => ?_⟩, trivial⟩
      rw [hins] at hins'
      cases hins'
      exact .inr ⟨rfl, hnone⟩

/-- No run from here comes to a fault. -/
def FaultFree (tape : Bytes) (s : State) : Prop :=
  ∀ s', Machine.Reaches (step tape) s s' → ¬ Faulty tape s'

/-- **A tape is run to its end when no fault is in its way.** -/
theorem executeTape_ends (tape : Bytes) (seed : UInt32) :
    ReturnsIff Fault (FaultFree tape (init seed)) (executeTape tape seed) := by
  have hwork : work tape (init seed) < 256 ^ tape.length + 1 := by
    simp [work, openLoops, weight, init]
  obtain ⟨r, hr⟩ := Machine.run_of_measure (fun s s' => @work_lt_of_step tape s s') _ _ hwork
  have hrun : executeTape tape seed = r := by
    rw [executeTape, execute, hr]
    rfl
  have hhalts : Machine.Returns (step tape) (init seed) r := Machine.returns_iff_run.mpr ⟨_, hr⟩
  rw [hrun]
  cases r with
  | ok v =>
      refine .ok fun s hreach hfault => ?_
      obtain ⟨e, he⟩ := step_of_faulty hfault
      cases Machine.returns_unique hhalts ⟨s, hreach, he⟩
  | error e =>
      obtain ⟨s, hreach, hstop⟩ := hhalts
      have hstops := stops_of_step (stacks_of_reaches hreach rfl) hstop
      obtain ⟨hfaulty, hfault⟩ := faulty_of_stops hstops
      exact .error (fun hsound => hsound s hreach hfaulty) hfault

@[simps asks] def Contract.VolkswagenSA2 : Contract where
  asks := [("InstructionTape", "ByteArray")]
  accepts seed keyLength parameters := seed.length = 4 → keyLength = 4 →
    FaultFree (bytesAt parameters "InstructionTape") (init (UInt32.ofNat (bytesToInt seed .big 0)))

theorem meets_VolkswagenSA2 : Meets Security.VolkswagenSA2.generateKey .VolkswagenSA2 := by
  intro seed keyLength accessLevel parameters hasked
  unfold Security.VolkswagenSA2.generateKey
  rw [paramBytes_asked (hasked _ (by simp)), ok_bind]
  refine guard_ends fun _ _ => ?_
  exact returnsIff_bind_left (executeTape_ends _ _) fun _ _ => returns_pure _

end Sa2

/-! ## All of them -/

/-- The contract of every registered provider. -/
def contracts : List (String × Contract) :=
  [("ArrayReverseAlgo", .always []),
    ("DRVU_PROF", .DRVU_PROF),
    ("DaimlerStandardSecurityAlgo", .always [("K", "ByteArray")]),
    ("DaimlerStandardSecurityAlgoMod",
      .always [("K", "ByteArray"), ("kA", "Int64"), ("kC", "Int64")]),
    ("DaimlerStandardSecurityAlgoRefG", .always [("K_refG", "ByteArray")]),
    ("EDIFF290", .EDIFF290),
    ("ESP9212Algo1", .always []),
    ("ESPSecurityAlgoLevel1", .always []),
    ("EsLibEd25519", .always [("PrivateKey", "ByteArray")]),
    ("HU45Algo", .always []),
    ("HondaAlgo1", .HondaAlgo1),
    ("IC172Algo1", .always []),
    ("IC172Algo2", .always []),
    ("IC204", .always [("Salt", "ByteArray")]),
    ("KI203Algo", .always [("K", "ByteArray")]),
    ("KI221Algo1", .KI221Algo1),
    ("KI221Algo2", .always [("Xor", "ByteArray"), ("Add", "ByteArray")]),
    ("KIAlgo1", .always [("Level", "Byte"), ("K", "ByteArray")]),
    ("MarquardtSecurityAlgo", .MarquardtSecurityAlgo),
    ("NetaAlgo1", .NetaAlgo1),
    ("OCM172", .always []),
    ("ORC166", .always [("staticKey", "ByteArray")]),
    ("PowertrainBoschContiSecurityAlgo1", .PowertrainBoschContiSecurityAlgo1),
    ("PowertrainBoschContiSecurityAlgo2", .PowertrainBoschContiSecurityAlgo2),
    ("PowertrainDelphiSecurityAlgo", .PowertrainDelphiSecurityAlgo),
    ("PowertrainSecurityAlgo", .selectByParameters "X" "i" "j"),
    ("PowertrainSecurityAlgo2", .selectByParameters "XX" "ii" "jj"),
    ("PowertrainSecurityAlgo3", .always []),
    ("PowertrainSecurityAlgoNFZ", .PowertrainSecurityAlgoNFZ),
    ("RBTM", .always []),
    ("RDU222", .always [("a", "ByteArray"), ("b", "ByteArray"), ("c", "ByteArray")]),
    ("RVC222_MPC222_FCW246_LRR3",
      .always [("A", "ByteArray"), ("B", "ByteArray"), ("C", "ByteArray")]),
    ("RenaultRadio", .RenaultRadio),
    ("SWSP177", .always [("KeyConst", "ByteArray")]),
    ("SubaruSecurityAccess2018CY1", .SubaruSecurityAccess2018CY1),
    ("VDOSecurityAlgo", .VDOSecurityAlgo),
    ("VGSSecurityAlgo", .always [("K", "ByteArray")]),
    ("VGSSecurityAlgo2Bytes", .VGSSecurityAlgo2Bytes),
    ("VGSSecurityAlgoExt", .always [("M", "ByteArray"), ("X", "ByteArray")]),
    ("VolkswagenSA2", .VolkswagenSA2),
    ("XorAlgo", .always [("K", "ByteArray")])]

theorem meets_registered {crypto : Crypto} (haes : AesKeys crypto) :
    List.Forall₂ (fun entry contract => entry.1 = contract.1 ∧ Meets entry.2 contract.2)
      (providers crypto) contracts := by
  have hg : ∀ {p0 p1 p2 p3 : Nat}, p0 < 4 → p1 < 4 → p2 < 4 → p3 < 4 →
      ∀ matrix : List (List Nat), matrix.length = 8 → (∀ row ∈ matrix, row.length = 4) →
        ∀ a b c, Returns (rowWord [p0, p1, p2, p3] a b c matrix) :=
    fun h0 h1 h2 h3 matrix h8 hrows => anyRow_returns h8 hrows h0 h1 h2 h3
  have hconst : ∀ constants : Int × Int × Int × Int, ∀ parameters,
      (∀ ask ∈ ([] : List (String × String)), Asked parameters ask) →
        Returns (.ok constants : Except Exn _) := fun constants _ _ => returns_ok constants
  unfold providers contracts
  simp only [List.forall₂_cons, List.forall₂_nil_left_iff, true_and, and_true]
  exact ⟨meets_ArrayReverseAlgo, meets_DRVU_PROF, meets_affine (hconst _),
    meets_DaimlerStandardSecurityAlgoMod, meets_affine (hconst _), meets_EDIFF290,
    meets_ofTwoBytes _, meets_ofTwoBytes _, meets_EsLibEd25519 crypto, meets_ofTwoBytes _,
    meets_HondaAlgo1, meets_IC172Algo1, meets_IC172Algo2, meets_IC204, meets_KI203Algo,
    meets_KI221Algo1, meets_KI221Algo2, meets_KIAlgo1, meets_MarquardtSecurityAlgo,
    meets_NetaAlgo1, meets_copySeed _, meets_ORC166, meets_PowertrainBoschContiSecurityAlgo1,
    meets_PowertrainBoschContiSecurityAlgo2, meets_PowertrainDelphiSecurityAlgo,
    meets_selectByParameters (hg (by decide) (by decide) (by decide) (by decide)) _ _ _,
    meets_selectByParameters (hg (by decide) (by decide) (by decide) (by decide)) _ _ _,
    meets_PowertrainSecurityAlgo3, meets_PowertrainSecurityAlgoNFZ, meets_copySeed _,
    meets_maskXorAdd _ _ _ _, meets_maskXorAdd _ _ _ _, meets_RenaultRadio, meets_SWSP177,
    meets_SubaruSecurityAccess2018CY1 haes, meets_VDOSecurityAlgo, meets_VGSSecurityAlgo,
    meets_VGSSecurityAlgo2Bytes, meets_VGSSecurityAlgoExt, meets_VolkswagenSA2, meets_XorAlgo⟩

/-- Two tables under the same names give related entries, or none. -/
theorem lookup_related {α β : Type} {R : α → β → Prop} {l : List (String × α)}
    {l' : List (String × β)}
    (h : List.Forall₂ (fun entry entry' => entry.1 = entry'.1 ∧ R entry.2 entry'.2) l l')
    (name : String) : Option.Rel R (l.lookup name) (l'.lookup name) := by
  induction h with
  | nil => exact .none
  | @cons entry entry' l l' hentry _ ih =>
    obtain ⟨hname, hrel⟩ := hentry
    rw [List.lookup_cons, List.lookup_cons, ← hname]
    cases name == entry.1 with
    | true => exact .some hrel
    | false => exact ih

/-- The only exception is `UnlockError`. -/
def OnlyUnlockError (x : Except Exn Bytes) : Prop :=
  ∀ e, x = .error e → ∃ text, e = .unlockError text

/-- The definition's provider gets what it asks for. -/
def AllAsked (d : Definition) : Prop :=
  ∀ c, contracts.lookup d.provider = some c → ∀ ask ∈ c.asks, Asked d.parameters ask

instance (d : Definition) : Decidable (AllAsked d) :=
  match h : contracts.lookup d.provider with
  | some c => decidable_of_iff (∀ ask ∈ c.asks, Asked d.parameters ask)
      ⟨fun hall c' hc' => Option.some.inj (h.symm.trans hc') ▸ hall, fun hall => hall c h⟩
  | none => isTrue fun c hc => by rw [h] at hc; cases hc

/-- The contract of the definition's provider holds, where it is registered. -/
def ContractHolds (d : Definition) (seed : Bytes) : Prop :=
  ∀ c, contracts.lookup d.provider = some c → c.accepts seed d.keyLength d.parameters

theorem onlyUnlockError_error (text : String) : OnlyUnlockError (.error (.unlockError text)) := by
  intro e he
  exact ⟨text, (Except.error.inj he).symm⟩

/-- What `compute_key` makes of a provider's result. -/
theorem onlyUnlockError_of_ends {P : Prop} {x : Except Exn (Option Bytes)} {text : String}
    (h : ReturnsIff Fault P x) :
    OnlyUnlockError (do
      match ← x with
      | none => .error (.unlockError text)
      | some key => return key) ↔ P := by
  cases h with
  | @ok key hp =>
    refine iff_of_true ?_ hp
    cases key with
    | none => exact onlyUnlockError_error text
    | some key => intro e he; cases he
  | @error e hp hfault =>
    refine iff_of_false ?_ hp
    intro honly
    obtain ⟨text, rfl⟩ := honly e rfl
    exact hfault

/--
**`compute_key` fails with `UnlockError` only, exactly where the contract of the
definition's provider holds.**
-/
theorem onlyUnlockError_iff (crypto : Crypto) (haes : AesKeys crypto) (lib : Library)
    (hlib : lib.getProvider = getProvider crypto) (ecuName : String) (accessLevel : Int)
    (seed : Bytes) (definition : Option Definition)
    (hasked : ∀ d, definition.or (findDefinition lib ecuName accessLevel) = some d → AllAsked d) :
    OnlyUnlockError (computeKey lib ecuName accessLevel seed definition)
      ↔ ∀ d, definition.or (findDefinition lib ecuName accessLevel) = some d →
        ContractHolds d seed := by
  unfold computeKey
  cases hd : definition.or (findDefinition lib ecuName accessLevel) with
  | none => exact iff_of_true (onlyUnlockError_error _) (by simp)
  | some d =>
    have hrelated := lookup_related (meets_registered haes) d.provider
    have hasked := hasked d hd
    simp only [hlib, getProvider, Option.some.injEq, forall_eq', ContractHolds]
    -- the table of contracts names the providers that are registered
    cases hp : (providers crypto).lookup d.provider with
    | none =>
      cases hc : contracts.lookup d.provider with
      | none => exact iff_of_true (onlyUnlockError_error _) (by simp)
      | some c => rw [hp, hc] at hrelated; cases hrelated
    | some p =>
      cases hc : contracts.lookup d.provider with
      | none => rw [hp, hc] at hrelated; cases hrelated
      | some c =>
        rw [hp, hc] at hrelated
        cases hrelated with
        | some hmeets =>
          simp only [Option.some.injEq, forall_eq']
          have hends := hmeets seed d.keyLength accessLevel d.parameters (hasked c hc)
          exact onlyUnlockError_of_ends hends

/-! ## What escapes -/

/-- A cipher that takes the keys that AES takes. -/
def aesCrypto : Crypto where
  sha512 _ := List.replicate 64 0
  aesCbc key _ block :=
    if key.length = 16 ∨ key.length = 24 ∨ key.length = 32 then .ok block
    else .error (.valueError "Invalid key size for AES.")

theorem aesKeys_aesCrypto : AesKeys aesCrypto := by
  intro key iv block _ _
  unfold aesCrypto
  dsimp only
  split
  · rename_i h
    exact .ok h
  · rename_i h
    exact .error h ⟨_, rfl⟩

/-- The registered providers, without definitions. -/
def registeredLibrary : Library where
  definitions := []
  getProvider := getProvider aesCrypto
  upper name := name
  repr name := name

/-- A definition for `DRVU_PROF` with the modulus it divides by. -/
def dividing (keyConst : String) : Definition :=
  ⟨"DRVU", [], 1, 4, "DRVU_PROF", [⟨"KeyConst", keyConst, "ByteArray"⟩]⟩

/-- A definition for `VolkswagenSA2` with its tape. -/
def interpreting (tape : String) : Definition :=
  ⟨"Engine", [], 1, 4, "VolkswagenSA2", [⟨"InstructionTape", tape, "ByteArray"⟩]⟩

/-- A definition for `PowertrainBoschContiSecurityAlgo2` with its table. -/
def tabulating (table : String) : Definition :=
  ⟨"Engine", [], 1, 2, "PowertrainBoschContiSecurityAlgo2",
    [⟨"Table", table, "ByteArray"⟩, ⟨"uwMasc", "FFFF", "ByteArray"⟩]⟩

/-- A definition for `VDOSecurityAlgo` with its level. -/
def expanding (level : String) : Definition :=
  ⟨"IC", [], 1, 8, "VDOSecurityAlgo",
    [⟨"K", "0102030405060708", "ByteArray"⟩, ⟨"InternalLevel", level, "Int32"⟩]⟩

theorem onlyUnlockError_dividing :
    AllAsked (dividing "00000007")
      ∧ OnlyUnlockError (computeKey registeredLibrary "DRVU" 1 [1, 2, 3, 4]
        (some (dividing "00000007"))) := by
  have hasked : AllAsked (dividing "00000007") := by decide
  refine ⟨hasked, ?_⟩
  refine (onlyUnlockError_iff aesCrypto aesKeys_aesCrypto registeredLibrary rfl "DRVU" 1
    [1, 2, 3, 4] (some (dividing "00000007")) ?_).mpr ?_
  · rintro d ⟨⟩
    exact hasked
  · rintro d ⟨⟩ c hc
    have hlookup : contracts.lookup "DRVU_PROF" = some .DRVU_PROF := rfl
    obtain rfl : Contract.DRVU_PROF = c := Option.some.inj (hlookup.symm.trans hc)
    intro _ _
    decide +kernel

/-- A modulus of zero, an unknown opcode, a table that is too short and a level out of range. -/
theorem other_errors_escape :
    (AllAsked (dividing "00000000")
      ∧ computeKey registeredLibrary "DRVU" 1 [1, 2, 3, 4] (some (dividing "00000000"))
        = .error (.zeroDivisionError "integer modulo by zero")
      ∧ ¬ OnlyUnlockError
        (computeKey registeredLibrary "DRVU" 1 [1, 2, 3, 4] (some (dividing "00000000"))))
    ∧ (AllAsked (interpreting "00")
      ∧ computeKey registeredLibrary "Engine" 1 [1, 2, 3, 4] (some (interpreting "00"))
        = .error (.keyError "0"))
    ∧ (AllAsked (tabulating "01")
      ∧ computeKey registeredLibrary "Engine" 1 [1, 2] (some (tabulating "01"))
        = .error (.indexError "index out of range"))
    ∧ AllAsked (expanding "00000008")
      ∧ computeKey registeredLibrary "IC" 1 [1, 2, 3, 4, 5, 6, 7, 8] (some (expanding "00000008"))
        = .error (.indexError "bytearray index out of range") := by
  have hzero : computeKey registeredLibrary "DRVU" 1 [1, 2, 3, 4] (some (dividing "00000000"))
      = .error (.zeroDivisionError "integer modulo by zero") := by decide +kernel
  refine ⟨⟨by decide +kernel, hzero, ?_⟩, by decide +kernel⟩
  rw [hzero]
  intro honly
  obtain ⟨text, htext⟩ := honly _ rfl
  cases htext

end AutoDiag.Proof
