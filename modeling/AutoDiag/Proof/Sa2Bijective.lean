import AutoDiag.Lib.Uniform
import AutoDiag.Proof.Sa2Programs
import Mathlib.Algebra.Group.Units.Equiv
import Mathlib.Data.LawfulXor.Equiv
import Mathlib.Data.UInt

/-!
# Runs without a conditional branch permute the seeds

Only the conditional branch looks at the carry flag, and nothing else looks at the
register to find its way. Every other instruction does the same at its address
whatever the register holds, and what it does to the register can be undone, so a
run without that branch is one permutation of the seeds (`execute_bijective`).
-/

namespace AutoDiag.Proof

open Machine Raise VolkswagenSA2

/-- All of a state but the register and the carry flag. -/
structure Control where
  instructionPointer : Nat
  forPointers : List Nat
  forIterations : List Int

def controlOf (s : State) : Control :=
  ⟨s.instructionPointer, s.forPointers, s.forIterations⟩

/-- A state at the point. -/
def Control.state (k : Control) : State :=
  ⟨0, 0, k.instructionPointer, k.forPointers, k.forIterations⟩

/-- The point some bytes further. -/
def Control.skip (k : Control) (n : Nat) : Control :=
  { k with instructionPointer := k.instructionPointer + n }

/-- The instruction at the address of a state, with the address. -/
def instructionAt (tape : Bytes) (s : State) : Option (Nat × Instruction) := do
  let opcode ← tape[s.instructionPointer]?
  let instruction ← instructionSet.lookup opcode
  return (s.instructionPointer, instruction)

/-- The instructions that are executed within a number of turns. -/
def executed (tape : Bytes) (turns : Nat) (seed : UInt32) : List (Nat × Instruction) :=
  (visits (step tape) turns (init seed)).filterMap (instructionAt tape)

/-! ## What an instruction does to the register -/

/-- From a control point the method raises, or goes on to one point and permutes the registers. -/
inductive Permutes (f : State → Except Exn State) (k : Control) : Prop where
  | raises : (∀ s, controlOf s = k → ∃ e, f s = .error e) → Permutes f k
  | goes (k' : Control) (π : Equiv.Perm UInt32) :
    (∀ s, controlOf s = k →
      ∃ s', f s = .ok s' ∧ controlOf s' = k' ∧ s'.register = π s.register) → Permutes f k

variable {tape : Bytes} {k : Control}

theorem permutes_ok {g : State → State} (k' : Control) (π : Equiv.Perm UInt32)
    (h : ∀ s, controlOf s = k → controlOf (g s) = k' ∧ (g s).register = π s.register) :
    Permutes (fun s => .ok (g s)) k :=
  .goes k' π fun s hs => ⟨g s, rfl, h s hs⟩

/-- What is fetched from the tape depends on the address only. -/
theorem permutes_fetch {α : Type} {fetch : State → Except Exn α} {g : α → State → State}
    (hfetch : ∀ s s', controlOf s = controlOf s' → fetch s = fetch s')
    (hg : ∀ a, Permutes (fun s => .ok (g a s)) k) :
    Permutes (fun s => do return g (← fetch s) s) k := by
  have hfrom : ∀ s, controlOf s = k → fetch s = fetch k.state := fun s hs => hfetch s _ hs
  cases hop : fetch k.state with
  | error e =>
    refine .raises fun s hs => ⟨e, ?_⟩
    rw [hfrom s hs, hop]
    rfl
  | ok a =>
    have hrun : ∀ s, controlOf s = k →
        (do return g (← fetch s) s : Except Exn State) = .ok (g a s) := by
      intro s hs
      rw [hfrom s hs, hop]
      rfl
    cases hg a with
    | raises h =>
      refine .raises fun s hs => ?_
      rw [hrun s hs]
      exact h s hs
    | goes k' π h =>
      refine .goes k' π fun s hs => ?_
      rw [hrun s hs]
      exact h s hs

theorem permutes_operand {g : UInt32 → State → State}
    (hg : ∀ op, Permutes (fun s => .ok (g op s)) k) :
    Permutes (fun s => do return g (← fetchOperand tape s) s) k := by
  refine permutes_fetch (fun s s' hs => ?_) hg
  rw [fetchOperand, fetchOperand, show s.instructionPointer = s'.instructionPointer from
    congrArg Control.instructionPointer hs]

theorem permutes_operandByte {g : UInt8 → State → State}
    (hg : ∀ b, Permutes (fun s => .ok (g b s)) k) :
    Permutes (fun s => do return g (← fetchOperandByte tape s) s) k := by
  refine permutes_fetch (fun s s' hs => ?_) hg
  rw [fetchOperandByte, fetchOperandByte, show s.instructionPointer = s'.instructionPointer from
    congrArg Control.instructionPointer hs]

theorem permutes_loopNext : Permutes loopNext k := by
  obtain ⟨pointer, pointers, iterations⟩ := k
  cases iterations with
  | nil =>
    refine .raises fun s hs => ⟨.indexError "list index out of range", ?_⟩
    rw [loopNext, show s.forIterations = [] from congrArg Control.forIterations hs]
  | cons i is =>
    cases pointers with
    | nil =>
      refine .raises fun s hs => ⟨.indexError "list index out of range", ?_⟩
      rw [loopNext, show s.forIterations = i :: is from congrArg Control.forIterations hs,
        show s.forPointers = [] from congrArg Control.forPointers hs]
    | cons p ps =>
      have hnext : ∀ s, controlOf s = ⟨pointer, p :: ps, i :: is⟩ → loopNext s
          = if 0 < i then .ok { s with forIterations := (i - 1) :: is, instructionPointer := p }
            else .ok { s with
              forIterations := is, forPointers := ps
              instructionPointer := s.instructionPointer + 1 } := by
        intro s hs
        rw [loopNext, show s.forIterations = i :: is from congrArg Control.forIterations hs,
          show s.forPointers = p :: ps from congrArg Control.forPointers hs]
      by_cases hi : 0 < i
      · -- back to the start of the loop
        refine .goes ⟨p, p :: ps, (i - 1) :: is⟩ (Equiv.refl _) fun s hs => ?_
        rw [hnext s hs, if_pos hi]
        refine ⟨_, rfl, ?_, rfl⟩
        rw [controlOf, show s.forPointers = p :: ps from congrArg Control.forPointers hs]
      · refine .goes ⟨pointer + 1, ps, is⟩ (Equiv.refl _) fun s hs => ?_
        rw [hnext s hs, if_neg hi]
        refine ⟨_, rfl, ?_, rfl⟩
        rw [controlOf, show s.instructionPointer = pointer from
          congrArg Control.instructionPointer hs]

/-- **Every instruction but the conditional branch permutes the registers.** -/
theorem permutes_perform {instruction : Instruction} (h : instruction ≠ .branchConditional) :
    Permutes (fun s => perform tape s instruction) k := by
  cases instruction with
  | registerShiftLeft =>
    refine permutes_ok (k.skip 1) (Word.rotation 1) ?_
    rintro s rfl
    exact ⟨rfl, registerShiftLeft_register s⟩
  | registerShiftRight =>
    refine permutes_ok (k.skip 1) (Word.rotation 1).symm ?_
    rintro s rfl
    exact ⟨rfl, registerShiftRight_register s⟩
  | add =>
    refine permutes_operand fun op => ?_
    refine permutes_ok (k.skip 5) (Equiv.addRight op) ?_
    rintro s rfl
    refine ⟨rfl, storeResult_register s _ _ ?_⟩
    rw [Equiv.coe_addRight, UInt32.toNat_add]
    omega
  | subtract =>
    refine permutes_operand fun op => ?_
    refine permutes_ok (k.skip 5) (Equiv.subRight op) ?_
    rintro s rfl
    refine ⟨rfl, storeResult_register s _ _ ?_⟩
    rw [Equiv.subRight_apply, UInt32.toNat_sub]
    have := op.toNat_lt
    omega
  | exclusiveOr =>
    refine permutes_operand fun op => ?_
    refine permutes_ok (k.skip 5) (Equiv.xor op) ?_
    rintro s rfl
    exact ⟨rfl, UInt32.xor_comm s.register op⟩
  -- from here on only the pointers move; the register is left as it is
  | loopInit =>
    refine permutes_operandByte fun b => ?_
    refine permutes_ok ⟨k.instructionPointer + 2, (k.instructionPointer + 2) :: k.forPointers,
      ((b.toNat : Int) - 1) :: k.forIterations⟩ (Equiv.refl _) ?_
    rintro s rfl
    exact ⟨rfl, rfl⟩
  | loopNext => exact permutes_loopNext
  | branchConditional => exact absurd rfl h
  | branchUnconditional =>
    refine permutes_operandByte fun b => ?_
    refine permutes_ok (k.skip (b.toNat + 2)) (Equiv.refl _) ?_
    rintro s rfl
    exact ⟨rfl, rfl⟩
  | endExecution =>
    refine permutes_ok (k.skip 1) (Equiv.refl _) ?_
    rintro s rfl
    exact ⟨rfl, rfl⟩

/-! ## The whole run -/

theorem instructionAt_eq {s : State} {opcode : UInt8} {instruction : Instruction}
    (hop : tape[s.instructionPointer]? = some opcode)
    (hlookup : instructionSet.lookup opcode = some instruction) :
    instructionAt tape s = some (s.instructionPointer, instruction) := by
  rw [instructionAt, hop, Option.bind_eq_bind, Option.bind_some, hlookup]
  rfl

/-- A turn that raises nothing and is no conditional branch is the same for every register. -/
theorem uniform_step {s : State} (hstep : (∃ s', step tape s = .inl s') ∨
      ∃ key, step tape s = .inr (.ok key))
    (hbranch : ∀ x, instructionAt tape s = some x → x.2 ≠ .branchConditional) :
    Uniform (step tape) controlOf State.register Except.ok (controlOf s) := by
  have haddress : ∀ {s'}, controlOf s' = controlOf s →
      s'.instructionPointer = s.instructionPointer :=
    fun h => congrArg Control.instructionPointer h
  cases hop : tape[s.instructionPointer]? with
  | none =>
    -- the tape's end: the register is the result
    refine .halts fun s' hs' => ?_
    rw [step, haddress hs', hop]
  | some opcode =>
    have hnot : ∀ e, step tape s ≠ .inr (.error e) := by
      intro e he
      rw [he] at hstep
      rcases hstep with ⟨s', h⟩ | ⟨key, h⟩ <;> cases h
    cases hlookup : instructionSet.lookup opcode with
    | none =>
      refine absurd ((step_of_dispatch hop).2 (.keyError (toString opcode.toNat)) ?_) (hnot _)
      unfold dispatch
      rw [hlookup]
    | some instruction =>
      have hpermutes : Permutes (fun s => perform tape s instruction) (controlOf s) :=
        permutes_perform (hbranch _ (instructionAt_eq hop hlookup))
      cases hpermutes with
      | raises hraises =>
        obtain ⟨e, he⟩ := hraises s rfl
        exact absurd ((step_of_dispatch hop).2 e ((dispatch_of_lookup hlookup).trans he)) (hnot e)
      | goes k' π hgoes =>
        refine .goes k' π fun s' hs' => ?_
        obtain ⟨s'', hperform, hpoint, hregister⟩ := hgoes s' hs'
        have hop' : tape[s'.instructionPointer]? = some opcode := by
          rw [haddress hs', hop]
        exact ⟨s'', (step_of_dispatch hop').1 s'' ((dispatch_of_lookup hlookup).trans hperform),
          hpoint, hregister⟩

theorem executed_eq {turns : Nat} {seed seed' : UInt32}
    (h : (visits (step tape) turns (init seed)).map controlOf
      = (visits (step tape) turns (init seed')).map controlOf) :
    executed tape turns seed = executed tape turns seed' := by
  -- an instruction is found from the control point alone
  have hcontrol : ∀ seed, executed tape turns seed
      = ((visits (step tape) turns (init seed)).map controlOf).filterMap fun k =>
          instructionAt tape k.state := by
    intro seed
    rw [List.filterMap_map]
    rfl
  rw [hcontrol, hcontrol, h]

/--
**A run without conditional branches is a permutation of the seeds.** If one seed's
run ends without an error, every seed's run does, in as many turns and over the same
instructions, and the keys are the seeds in another order.
-/
theorem execute_bijective {turns : Nat} {seed₀ key₀ : UInt32}
    (h : execute tape turns seed₀ = some (.ok key₀))
    (hbranch : ∀ x ∈ executed tape turns seed₀, x.2 ≠ .branchConditional) :
    ∃ f : UInt32 → UInt32, Function.Bijective f
      ∧ ∀ seed, execute tape turns seed = some (.ok (f seed))
        ∧ executed tape turns seed = executed tape turns seed₀ := by
  have huniform : ∀ s ∈ visits (step tape) turns (init seed₀),
      Uniform (step tape) controlOf State.register Except.ok (controlOf s) := by
    intro s hs
    refine uniform_step ?_ fun x hx => hbranch x (List.mem_filterMap.mpr ⟨s, hs, hx⟩)
    rcases step_of_visits h s hs with hgoes | hends
    · exact .inl hgoes
    · exact .inr ⟨key₀, hends⟩
  obtain ⟨π, hπ⟩ := run_uniform h huniform
  refine ⟨π, π.bijective, fun seed => ?_⟩
  obtain ⟨hrun, hvisits⟩ := hπ (init seed) rfl
  exact ⟨hrun, executed_eq hvisits⟩

/-- Two rotations in a loop, and a sum. -/
theorem execute_bijective_instance :
    ∃ f : UInt32 → UInt32, Function.Bijective f
      ∧ ∀ seed, execute [0x68, 0x02, 0x81, 0x49, 0x93, 0x00, 0x00, 0x12, 0x34] 10 seed
          = some (.ok (f seed))
        ∧ executed [0x68, 0x02, 0x81, 0x49, 0x93, 0x00, 0x00, 0x12, 0x34] 10 seed
          = executed [0x68, 0x02, 0x81, 0x49, 0x93, 0x00, 0x00, 0x12, 0x34] 10 0x00000001 := by
  have h : execute [0x68, 0x02, 0x81, 0x49, 0x93, 0x00, 0x00, 0x12, 0x34] 10 0x00000001
      = some (.ok 0x00001238) := by
    decide
  exact execute_bijective h (by decide)

end AutoDiag.Proof
