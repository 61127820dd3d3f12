import AutoDiag.Lib.Machine
import AutoDiag.Python.Builtins

/-!
# The SA2 virtual machine

A tape of instructions turns the seed in a 32-bit register into the key. Loops
are kept on two stacks, of the addresses to jump back to and of the iterations
that are left; nothing checks that loops on the tape are nested or closed.
-/

namespace AutoDiag.VolkswagenSA2

/-- An `SA2SeedKey` object, without its tape. -/
structure State where
  register : UInt32
  carryFlag : Nat
  instructionPointer : Nat
  forPointers : List Nat
  forIterations : List Int
  deriving DecidableEq, Repr

/-- `__init__`. -/
def init (seed : UInt32) : State := ⟨seed, 0, 0, [], []⟩

/-! ## Operands -/

/-- `FetchOperandByte`. -/
def fetchOperandByte (tape : Bytes) (s : State) : Except Exn UInt8 :=
  Py.index tape (s.instructionPointer + 1)

/-- `FetchOperand`. -/
def fetchOperand (tape : Bytes) (s : State) : Except Exn UInt32 := do
  let start := s.instructionPointer + 1
  let operands := Py.slice tape start (start + 4)
  let b0 ← Py.index operands 0
  let b1 ← Py.index operands 1
  let b2 ← Py.index operands 2
  let b3 ← Py.index operands 3
  return (b0.toUInt32 <<< 24) ||| (b1.toUInt32 <<< 16) ||| (b2.toUInt32 <<< 8) ||| b3.toUInt32

/-! ## Instructions -/

/-- `RegisterShiftLeft`. -/
def registerShiftLeft (s : State) : State :=
  let carryFlag := (s.register &&& 0x80000000).toNat
  let register := s.register <<< 1
  { s with
    carryFlag := carryFlag
    register := if 0 < carryFlag then register ||| 1 else register
    instructionPointer := s.instructionPointer + 1 }

/-- `RegisterShiftRight`. -/
def registerShiftRight (s : State) : State :=
  let carryFlag := (s.register &&& 1).toNat
  let register := s.register >>> 1
  { s with
    carryFlag := carryFlag
    register := if 0 < carryFlag then register ||| 0x80000000 else register
    instructionPointer := s.instructionPointer + 1 }

/-- The end of `Add` and `Subtract`: a result beyond 32 bits sets the carry flag. -/
def storeResult (s : State) (outputRegister : Int) : State :=
  { s with
    carryFlag := if 0xFFFFFFFF < outputRegister then 1 else 0
    register := UInt32.ofNat (outputRegister % 0x100000000).toNat
    instructionPointer := s.instructionPointer + 5 }

/-- `Add`. -/
def add (tape : Bytes) (s : State) : Except Exn State := do
  let op ← fetchOperand tape s
  return storeResult s ((s.register.toNat : Int) + op.toNat)

/-- `Subtract`; a negative result sets no carry. -/
def subtract (tape : Bytes) (s : State) : Except Exn State := do
  let op ← fetchOperand tape s
  return storeResult s ((s.register.toNat : Int) - op.toNat)

/-- `ExclusiveOr`. -/
def exclusiveOr (tape : Bytes) (s : State) : Except Exn State := do
  let op ← fetchOperand tape s
  return { s with
    register := s.register ^^^ op
    instructionPointer := s.instructionPointer + 5 }

/-- `LoopInit`. -/
def loopInit (tape : Bytes) (s : State) : Except Exn State := do
  let b ← fetchOperandByte tape s
  return { s with
    forIterations := ((b.toNat : Int) - 1) :: s.forIterations
    instructionPointer := s.instructionPointer + 2
    forPointers := (s.instructionPointer + 2) :: s.forPointers }

/-- `LoopNext`. -/
def loopNext (s : State) : Except Exn State :=
  match s.forIterations with
  | [] => .error (.indexError "list index out of range")
  | iterations :: forIterations =>
    match s.forPointers with
    | [] => .error (.indexError "list index out of range")
    | pointer :: forPointers =>
      if 0 < iterations then
        .ok { s with
          forIterations := (iterations - 1) :: forIterations
          instructionPointer := pointer }
      else
        .ok { s with
          forIterations := forIterations
          forPointers := forPointers
          instructionPointer := s.instructionPointer + 1 }

/-- `BranchConditional`. -/
def branchConditional (tape : Bytes) (s : State) : Except Exn State := do
  let b ← fetchOperandByte tape s
  let skipCount := b.toNat + 2
  return { s with
    instructionPointer := s.instructionPointer + if s.carryFlag = 0 then skipCount else 2 }

/-- `BranchUnconditional`. -/
def branchUnconditional (tape : Bytes) (s : State) : Except Exn State := do
  let b ← fetchOperandByte tape s
  return { s with instructionPointer := s.instructionPointer + (b.toNat + 2) }

/-- `EndExecution`: it ends nothing, the tape's end does. -/
def endExecution (s : State) : State :=
  { s with instructionPointer := s.instructionPointer + 1 }

/-! ## The main loop -/

inductive Instruction where
  | registerShiftLeft
  | registerShiftRight
  | add
  | subtract
  | exclusiveOr
  | loopInit
  | loopNext
  | branchConditional
  | branchUnconditional
  | endExecution
  deriving DecidableEq, Repr

/-- `instructionSet`. -/
def instructionSet : List (UInt8 × Instruction) :=
  [(0x81, .registerShiftLeft), (0x82, .registerShiftRight), (0x93, .add), (0x84, .subtract),
    (0x87, .exclusiveOr), (0x68, .loopInit), (0x49, .loopNext), (0x4A, .branchConditional),
    (0x6B, .branchUnconditional), (0x4C, .endExecution)]

/-- The method of an instruction. -/
def perform (tape : Bytes) (s : State) : Instruction → Except Exn State
  | .registerShiftLeft => .ok (registerShiftLeft s)
  | .registerShiftRight => .ok (registerShiftRight s)
  | .add => add tape s
  | .subtract => subtract tape s
  | .exclusiveOr => exclusiveOr tape s
  | .loopInit => loopInit tape s
  | .loopNext => loopNext s
  | .branchConditional => branchConditional tape s
  | .branchUnconditional => branchUnconditional tape s
  | .endExecution => .ok (endExecution s)

/-- `instructionSet[opcode]()`. -/
def dispatch (tape : Bytes) (s : State) (opcode : UInt8) : Except Exn State :=
  match instructionSet.lookup opcode with
  | some instruction => perform tape s instruction
  | none => .error (.keyError (toString opcode.toNat))

/-- One turn of the loop of `Execute`, or its end. -/
def step (tape : Bytes) (s : State) : State ⊕ Except Exn UInt32 :=
  match tape[s.instructionPointer]? with
  | none => .inr (.ok s.register)
  | some opcode =>
    match dispatch tape s opcode with
    | .ok s' => .inl s'
    | .error e => .inr (.error e)

/-- `Execute`, within a number of turns of its loop. -/
def execute (tape : Bytes) (turns : Nat) (seed : UInt32) : Option (Except Exn UInt32) :=
  Machine.run (step tape) turns (init seed)

end AutoDiag.VolkswagenSA2
