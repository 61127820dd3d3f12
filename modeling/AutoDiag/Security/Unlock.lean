import AutoDiag.Protocol.Kwp2000
import AutoDiag.Protocol.Uds
import AutoDiag.Security.Provider

/-!
# SecurityAccess

Which key belongs to a seed is decided by a library of ECU definitions and
algorithms (`computeKey`); `unlock` is the handshake over a client.
-/

namespace AutoDiag.Security

/-- One ECU and level: which provider unlocks it, with which parameters. -/
structure Definition where
  ecuName : String
  aliases : List String
  accessLevel : Int
  keyLength : Int
  provider : String
  parameters : List Parameter
  deriving DecidableEq, Repr

/-- What `compute_key` looks up, and the two text functions it uses. -/
structure Library where
  /-- `load_definitions()`. -/
  definitions : List Definition
  /-- `get_provider`. -/
  getProvider : String → Option Provider
  /-- `str.upper`. -/
  upper : String → String
  /-- `repr` of a string. -/
  repr : String → String

/-- `find_definition`. -/
def findDefinition (lib : Library) (ecuName : String) (accessLevel : Int) : Option Definition :=
  let key := lib.upper ecuName
  lib.definitions.find? fun d =>
    decide (accessLevel = d.accessLevel) && (decide (key = lib.upper d.ecuName)
      || decide (ecuName ∈ d.aliases) || decide (key ∈ d.aliases.map lib.upper))

/-- `compute_key`. -/
def computeKey (lib : Library) (ecuName : String) (accessLevel : Int) (seed : Bytes)
    (definition : Option Definition) : Except Exn Bytes :=
  match definition.or (findDefinition lib ecuName accessLevel) with
  | none => .error (.unlockError ("No definition for ECU " ++ lib.repr ecuName ++ " at level "
      ++ toString accessLevel))
  | some d =>
    match lib.getProvider d.provider with
    | none => .error (.unlockError ("Provider " ++ lib.repr d.provider
        ++ " is not registered (ECU " ++ lib.repr ecuName ++ ")"))
    | some generateKey => do
      match ← generateKey seed d.keyLength accessLevel d.parameters with
      | none => .error (.unlockError (d.provider ++ " rejected seed for " ++ lib.repr ecuName
          ++ " level " ++ toString accessLevel ++ " (seed " ++ String.ofList (Hex.ofBytes seed)
          ++ ")"))
      | some key => return key

variable {σ : Type}

/-- What `unlock` needs of a client. -/
structure SeedKeyClient (σ : Type) where
  securityAccessRequestSeed : Int → Call Exn σ Bytes
  securityAccessSendKey : Int → Bytes → Call Exn σ Unit

/-- Either diagnostic client, as `unlock` sees it. -/
def seedKeyClient (c : Client σ) : SeedKeyClient σ :=
  match c.family with
  | .uds => ⟨Uds.securityAccessRequestSeed c, Uds.securityAccessSendKey c⟩
  | .kwp => ⟨Kwp2000.securityAccessRequestSeed c, Kwp2000.securityAccessSendKey c⟩

/-- `unlock`. -/
def unlock (lib : Library) (client : SeedKeyClient σ) (ecuName : String) (accessLevel : Int) :
    Call Exn σ Bool := do
  let seed ← client.securityAccessRequestSeed accessLevel
  if seed.any (· ≠ 0) = false then -- all-zero seed: already unlocked
    return true
  else
    let key ← Call.ofExcept (computeKey lib ecuName accessLevel seed none)
    client.securityAccessSendKey accessLevel key
    return true

end AutoDiag.Security
