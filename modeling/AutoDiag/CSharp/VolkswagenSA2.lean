import AutoDiag.CSharp.WordProviders
import AutoDiag.Lib.Machine
import AutoDiag.Security.VolkswagenSA2

/-!
# The original of the SA2 virtual machine

`SA2SeedKey` of UnlockECU. An array has fewer than `2 ^ 31` bytes, so the
instruction pointer, a `uint`, never wraps: it is a number here, and an address on
the stack is one as well.
-/

namespace AutoDiag.CSharp.VolkswagenSA2

open AutoDiag.VolkswagenSA2 (Instruction)

/-- An `SA2SeedKey` object, without its tape. -/
structure State where
  register : UInt32
  carryFlag : UInt32
  instructionPointer : Nat
  forPointers : List Nat
  forIterations : List Int32
  deriving DecidableEq, Repr

/-- The constructor. -/
def init (seed : UInt32) : State := ⟨seed, 0, 0, [], []⟩

/-! ## Operands -/

/-- `FetchOperandByte`. -/
def fetchOperandByte (tape : Bytes) (s : State) : Except Exception UInt8 :=
  item tape (s.instructionPointer + 1 : Nat)

/-- `FetchOperand`. -/
def fetchOperand (tape : Bytes) (s : State) : Except Exception UInt32 := do
  let operands := (tape.drop (s.instructionPointer + 1)).take 4
  let b0 ← item operands 0
  let b1 ← item operands 1
  let b2 ← item operands 2
  let b3 ← item operands 3
  return b0.toUInt32 <<< 24 ||| b1.toUInt32 <<< 16 ||| b2.toUInt32 <<< 8 ||| b3.toUInt32

/-! ## Instructions -/

/-- `RegisterShiftLeft`. -/
def registerShiftLeft (s : State) : State :=
  let carryFlag := s.register &&& 0x80000000
  let register := s.register <<< 1
  { s with
    carryFlag := carryFlag
    register := if carryFlag > 0 then register ||| 1 else register
    instructionPointer := s.instructionPointer + 1 }

/-- `RegisterShiftRight`. -/
def registerShiftRight (s : State) : State :=
  let carryFlag := s.register &&& 1
  let register := s.register >>> 1
  { s with
    carryFlag := carryFlag
    register := if carryFlag > 0 then register ||| 0x80000000 else register
    instructionPointer := s.instructionPointer + 1 }

/-- The end of `Add` and `Subtract`: a `long` beyond 32 bits sets the carry flag. -/
def storeResult (s : State) (outputRegister : Int64) : State :=
  let carry := outputRegister > 0xFFFFFFFF
  { s with
    carryFlag := if carry then 1 else 0
    register := uintOfLong (if carry then outputRegister &&& 0xFFFFFFFF else outputRegister)
    instructionPointer := s.instructionPointer + 5 }

/-- `Add`. -/
def add (tape : Bytes) (s : State) : Except Exception State := do
  let op ← fetchOperand tape s
  return storeResult s (longOfUint s.register + longOfUint op)

/-- `Subtract`. -/
def subtract (tape : Bytes) (s : State) : Except Exception State := do
  let op ← fetchOperand tape s
  return storeResult s (longOfUint s.register - longOfUint op)

/-- `ExclusiveOr`. -/
def exclusiveOr (tape : Bytes) (s : State) : Except Exception State := do
  let op ← fetchOperand tape s
  return { s with
    register := s.register ^^^ op
    instructionPointer := s.instructionPointer + 5 }

/-- `LoopInit`. -/
def loopInit (tape : Bytes) (s : State) : Except Exception State := do
  let b ← fetchOperandByte tape s
  return { s with
    forIterations := (intOfByte b - 1) :: s.forIterations
    instructionPointer := s.instructionPointer + 2
    forPointers := (s.instructionPointer + 2) :: s.forPointers }

/-- What a list throws where there is no element. -/
def outOfRange : Exception := .other "Index was out of range."

/-- `LoopNext`. -/
def loopNext (s : State) : Except Exception State :=
  match s.forIterations with
  | [] => .error outOfRange
  | iterations :: forIterations =>
    match s.forPointers with
    | [] => .error outOfRange
    | pointer :: forPointers =>
      if iterations > 0 then
        .ok { s with
          forIterations := (iterations - 1) :: forIterations
          instructionPointer := pointer }
      else
        .ok { s with
          forIterations := forIterations
          forPointers := forPointers
          instructionPointer := s.instructionPointer + 1 }

/-- `BranchConditional`. -/
def branchConditional (tape : Bytes) (s : State) : Except Exception State := do
  let b ← fetchOperandByte tape s
  let skipCount := b.toNat + 2
  return { s with
    instructionPointer := s.instructionPointer + if s.carryFlag = 0 then skipCount else 2 }

/-- `BranchUnconditional`. -/
def branchUnconditional (tape : Bytes) (s : State) : Except Exception State := do
  let b ← fetchOperandByte tape s
  return { s with instructionPointer := s.instructionPointer + (b.toNat + 2) }

/-- `EndExecution`. -/
def endExecution (s : State) : State :=
  { s with instructionPointer := s.instructionPointer + 1 }

/-! ## The main loop -/

/-- The method of an instruction. -/
def perform (tape : Bytes) (s : State) : Instruction → Except Exception State
  | .registerShiftLeft => .ok (registerShiftLeft s)
  | .registerShiftRight => .ok (registerShiftRight s)
  | .add => add tape s
  | .subtract => subtract tape s
  | .exclusiveOr => exclusiveOr tape s
  | .loopInit => loopInit tape s
  | .loopNext => loopNext s
  | .branchConditional => branchConditional tape s
  | .branchUnconditional => branchUnconditional tape s
  | .endExecution => .ok (endExecution s)

/-- `instructionSet`. -/
def instructionSet : List (UInt8 × Instruction) :=
  [(0x81, .registerShiftLeft), (0x82, .registerShiftRight), (0x93, .add), (0x84, .subtract),
    (0x87, .exclusiveOr), (0x68, .loopInit), (0x49, .loopNext), (0x4A, .branchConditional),
    (0x6B, .branchUnconditional), (0x4C, .endExecution)]

/-- `instructionSet[opcode]()`. -/
def dispatch (tape : Bytes) (s : State) (opcode : UInt8) : Except Exception State :=
  match instructionSet.lookup opcode with
  | some instruction => perform tape s instruction
  | none => .error (.other "The given key was not present in the dictionary.")

/-- One turn of the loop of `Execute`, or its end. -/
def step (tape : Bytes) (s : State) : State ⊕ Except Exception UInt32 :=
  match tape[s.instructionPointer]? with
  | none => .inr (.ok s.register)
  | some opcode =>
    match dispatch tape s opcode with
    | .ok s' => .inl s'
    | .error e => .inr (.error e)

/-- `Execute`, to its end: a tape cannot keep the loop going for more turns than this. -/
def execute (tape : Bytes) (seed : UInt32) : Except Exception UInt32 :=
  (Machine.run (step tape) (256 ^ tape.length + 1) (init seed)).getD (.ok 0)

def generateKey : Provider := fun inSeed outKey _accessLevel parameters => do
  let tape ← getParameterBytearray parameters "InstructionTape"
  if inSeed.length ≠ 4 ∨ outKey.length ≠ 4 then return none
  else
    let key ← execute tape (← BitUtility.bytesToInt inSeed .big 0)
    wordKey key outKey

end AutoDiag.CSharp.VolkswagenSA2
