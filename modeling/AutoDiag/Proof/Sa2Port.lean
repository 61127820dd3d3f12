import AutoDiag.CSharp.VolkswagenSA2
import AutoDiag.Lib.BitField
import AutoDiag.Proof.Words
import AutoDiag.Security.Registry

/-!
# The SA2 machine is the C# original

A state of the original is read as one of the port. Instruction by instruction the
two make the same step of it, or stop together.
-/

namespace AutoDiag.Proof.Sa2Port

open Raise AutoDiag.VolkswagenSA2

/-- The state of the original, as the port holds it. -/
def read (s : CSharp.VolkswagenSA2.State) : State :=
  ⟨s.register, s.carryFlag.toNat, s.instructionPointer, s.forPointers,
    s.forIterations.map Int32.toInt⟩

variable {tape : Bytes} {s : CSharp.VolkswagenSA2.State}

/-! ## Operands -/

/-- A byte of the tape, or its end. -/
theorem fetchOperandByte_related :
    Related Eq (fetchOperandByte tape (read s)) (CSharp.VolkswagenSA2.fetchOperandByte tape s) :=
  indexOf_related tape _

theorem fetchOperand_related :
    Related Eq (fetchOperand tape (read s)) (CSharp.VolkswagenSA2.fetchOperand tape s) := by
  have hslice : Py.slice tape (s.instructionPointer + 1) (s.instructionPointer + 1 + 4)
      = (tape.drop (s.instructionPointer + 1)).take 4 := by
    rw [Py.slice, List.drop_take]
    congr 1
    omega
  unfold fetchOperand CSharp.VolkswagenSA2.fetchOperand
  dsimp only [read]
  rw [hslice]
  generalize (tape.drop (s.instructionPointer + 1)).take 4 = operands
  refine related_bind (indexOf_related operands 0) ?_
  rintro b0 _ rfl
  refine related_bind (indexOf_related operands 1) ?_
  rintro b1 _ rfl
  refine related_bind (indexOf_related operands 2) ?_
  rintro b2 _ rfl
  refine related_bind (indexOf_related operands 3) ?_
  rintro b3 _ rfl
  exact related_pure rfl

/-! ## Instructions -/

theorem carry_pos (x : UInt32) : x > 0 ↔ 0 < x.toNat := UInt32.lt_iff_toNat_lt

theorem registerShiftLeft_read :
    registerShiftLeft (read s) = read (CSharp.VolkswagenSA2.registerShiftLeft s) := by
  unfold registerShiftLeft CSharp.VolkswagenSA2.registerShiftLeft
  simp only [read, carry_pos]
  rfl

theorem registerShiftRight_read :
    registerShiftRight (read s) = read (CSharp.VolkswagenSA2.registerShiftRight s) := by
  unfold registerShiftRight CSharp.VolkswagenSA2.registerShiftRight
  simp only [read, carry_pos]
  rfl

/-- The `long` that is stored, and the number it stands for. -/
theorem storeResult_read {z : Int} (h : -2 ^ 63 ≤ z ∧ z < 2 ^ 63) :
    storeResult (read s) z = read (CSharp.VolkswagenSA2.storeResult s (Int64.ofInt z)) := by
  have hcarry : Int64.ofInt z > 0xFFFFFFFF ↔ 0xFFFFFFFF < z := by
    rw [gt_iff_lt, Int64.lt_iff_toInt_lt, Int64.toInt_ofInt_of_le h.1 h.2]
    rfl
  have hword : CSharp.uintOfLong (Int64.ofInt z) = UInt32.ofInt z := Wrap.toUInt32_ofInt z
  have hmasked : CSharp.uintOfLong (Int64.ofInt z &&& 0xFFFFFFFF) = UInt32.ofInt z := by
    rw [Wrap.ofInt_and_mask, CSharp.uintOfLong, Wrap.toUInt32_ofInt, ← UInt32.toNat_inj]
    simp [UInt32.ofInt]
  unfold storeResult CSharp.VolkswagenSA2.storeResult
  simp only [read, hcarry]
  have hregister : UInt32.ofNat (z % 0x100000000).toNat = UInt32.ofInt z := rfl
  rw [hregister]
  split
  · rw [hmasked]
    rfl
  · rw [hword]
    rfl

/-- The carry is the bit above the word, which C# keeps in a `long`. -/
theorem add_related :
    Related (fun a b => a = read b) (add tape (read s)) (CSharp.VolkswagenSA2.add tape s) := by
  refine related_bind fetchOperand_related ?_
  rintro op _ rfl
  have hr : (read s).register.toNat < 2 ^ 32 := s.register.toNat_lt
  have ho := op.toNat_lt
  have hlong : CSharp.longOfUint s.register + CSharp.longOfUint op
      = Int64.ofInt ((s.register.toNat : Int) + op.toNat) := by
    rw [Int64.ofInt_add, Wrap.ofInt_toNat, Wrap.ofInt_toNat]
    rfl
  rw [hlong]
  refine related_pure (storeResult_read ?_)
  constructor
  · omega
  · omega

/-- The same for a difference, which may go below zero. -/
theorem subtract_related :
    Related (fun a b => a = read b) (subtract tape (read s))
      (CSharp.VolkswagenSA2.subtract tape s) := by
  refine related_bind fetchOperand_related ?_
  rintro op _ rfl
  have hr : (read s).register.toNat < 2 ^ 32 := s.register.toNat_lt
  have ho := op.toNat_lt
  have hlong : CSharp.longOfUint s.register - CSharp.longOfUint op
      = Int64.ofInt ((s.register.toNat : Int) - op.toNat) := by
    rw [Int64.ofInt_sub, Wrap.ofInt_toNat, Wrap.ofInt_toNat]
    rfl
  rw [hlong]
  refine related_pure (storeResult_read ?_)
  constructor
  · omega
  · omega

theorem exclusiveOr_related :
    Related (fun a b => a = read b) (exclusiveOr tape (read s))
      (CSharp.VolkswagenSA2.exclusiveOr tape s) := by
  refine related_bind fetchOperand_related ?_
  rintro op _ rfl
  exact related_pure rfl

theorem loopInit_related :
    Related (fun a b => a = read b) (loopInit tape (read s))
      (CSharp.VolkswagenSA2.loopInit tape s) := by
  have hcount : ∀ b : UInt8, (b.toNat : Int) - 1 = (CSharp.intOfByte b - 1).toInt :=
    BitField.forall_byte (by decide +kernel)
  refine related_bind fetchOperandByte_related ?_
  rintro b _ rfl
  rw [hcount]
  exact related_pure rfl

/-- A count above zero is lowered without wrapping. -/
theorem toInt_sub_one {x : Int32} (h : x > 0) : (x - 1).toInt = x.toInt - 1 := by
  have hpos : 0 < x.toInt := Int32.lt_iff_toInt_lt.mp h
  have hlt := x.toInt_lt
  rw [← Int32.toInt_ofInt_of_le (by omega : -2 ^ 31 ≤ x.toInt - 1) (by omega), Int32.ofInt_sub,
    Int32.ofInt_toInt]
  rfl

/-- The count on the stack goes down, and at zero the loop is left. -/
theorem loopNext_related :
    Related (fun a b => a = read b) (loopNext (read s)) (CSharp.VolkswagenSA2.loopNext s) := by
  obtain ⟨register, carryFlag, instructionPointer, forPointers, forIterations⟩ := s
  cases forIterations with
  | nil => exact related_error _ _
  | cons iterations forIterations =>
    cases forPointers with
    | nil => exact related_error _ _
    | cons pointer forPointers =>
      have hpos : 0 < iterations.toInt ↔ iterations > 0 := by
        rw [gt_iff_lt, Int32.lt_iff_toInt_lt]
        rfl
      refine related_ite hpos (fun h => ?_) fun _ => related_ok rfl
      refine related_ok ?_
      simp only [read, List.map_cons, toInt_sub_one (hpos.mp h)]

theorem branchConditional_related :
    Related (fun a b => a = read b) (branchConditional tape (read s))
      (CSharp.VolkswagenSA2.branchConditional tape s) := by
  refine related_bind fetchOperandByte_related ?_
  rintro b _ rfl
  have hclear : s.carryFlag.toNat = 0 ↔ s.carryFlag = 0 := UInt32.toNat_inj (b := 0)
  refine related_pure ?_
  simp only [read, hclear]

theorem branchUnconditional_related :
    Related (fun a b => a = read b) (branchUnconditional tape (read s))
      (CSharp.VolkswagenSA2.branchUnconditional tape s) := by
  refine related_bind fetchOperandByte_related ?_
  rintro b _ rfl
  exact related_pure rfl

/-- One case for each instruction. -/
theorem perform_related (instruction : Instruction) :
    Related (fun a b => a = read b) (perform tape (read s) instruction)
      (CSharp.VolkswagenSA2.perform tape s instruction) := by
  cases instruction with
  | registerShiftLeft => exact related_ok registerShiftLeft_read
  | registerShiftRight => exact related_ok registerShiftRight_read
  | add => exact add_related
  | subtract => exact subtract_related
  | exclusiveOr => exact exclusiveOr_related
  | loopInit => exact loopInit_related
  | loopNext => exact loopNext_related
  | branchConditional => exact branchConditional_related
  | branchUnconditional => exact branchUnconditional_related
  | endExecution => exact related_ok rfl

/-! ## The main loop -/

/-- The two dictionaries are the same. -/
theorem instructionSet_same : CSharp.VolkswagenSA2.instructionSet = instructionSet := rfl

/-- **One turn of the loop is one turn of the other.** -/
theorem step_lockstep (tape : Bytes) (s : CSharp.VolkswagenSA2.State) :
    Sum.LiftRel (fun a b => a = read b) (Related Eq) (step tape (read s))
      (CSharp.VolkswagenSA2.step tape s) := by
  unfold step CSharp.VolkswagenSA2.step dispatch CSharp.VolkswagenSA2.dispatch
  dsimp only [read]
  cases tape[s.instructionPointer]? with
  | none => exact .inr (related_ok rfl)
  | some opcode =>
    dsimp only
    rw [instructionSet_same]
    cases instructionSet.lookup opcode with
    | none => exact .inr (related_error _ _)
    | some instruction =>
      dsimp only
      have hperform := @perform_related tape s instruction
      unfold read at hperform
      rcases related_cases hperform with ⟨e, e', hx, hy⟩ | ⟨a, b, hx, hy, hab⟩
      · rw [hx, hy]
        exact .inr (related_error _ _)
      · rw [hx, hy]
        exact .inl hab

/-- **A tape computes the word its original does**, or stops both. -/
theorem execute_related (tape : Bytes) (seed : UInt32) :
    Related Eq (executeTape tape seed) (CSharp.VolkswagenSA2.execute tape seed) := by
  have hrun := Machine.run_lockstep (step_lockstep tape) (256 ^ tape.length + 1)
    (CSharp.VolkswagenSA2.init seed)
  unfold executeTape execute CSharp.VolkswagenSA2.execute
  have hinit : read (CSharp.VolkswagenSA2.init seed) = init seed := rfl
  rw [hinit] at hrun
  generalize Machine.run (step tape) (256 ^ tape.length + 1) (init seed) = x at hrun ⊢
  generalize Machine.run (CSharp.VolkswagenSA2.step tape) (256 ^ tape.length + 1)
    (CSharp.VolkswagenSA2.init seed) = y at hrun ⊢
  cases hrun with
  | none => exact related_ok rfl
  | some h => exact h

end AutoDiag.Proof.Sa2Port
