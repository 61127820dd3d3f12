import AutoDiag.Security.VolkswagenSA2

/-!
# The SA2 machine halts on every tape

Loops jump back, to addresses that an unbalanced tape can pile up in any order,
so the instruction pointer alone is no measure. A turn of the loop of `Execute`
does one of four things (`Turn`), and `work` weighs what is left by them: being
at an address is worth more the further the tape's end is away, and an open loop
is worth its remaining iterations times being at its start.
-/

namespace AutoDiag.Proof

open VolkswagenSA2 Raise

/-- What one turn does to the pointer and the two stacks. -/
inductive Turn (tape : Bytes) (s s' : State) : Prop where
  /-- On to a later address. -/
  | forward : s.instructionPointer < s'.instructionPointer → s'.forPointers = s.forPointers →
      s'.forIterations = s.forIterations → Turn tape s s'
  /-- Into a loop, whose count is a byte of the tape. -/
  | enter (b : UInt8) : s.instructionPointer + 1 < tape.length →
      s'.instructionPointer = s.instructionPointer + 2 →
      s'.forPointers = (s.instructionPointer + 2) :: s.forPointers →
      s'.forIterations = ((b.toNat : Int) - 1) :: s.forIterations → Turn tape s s'
  /-- Back to the start of the innermost loop. -/
  | again {i : Int} {is : List Int} {p : Nat} {ps : List Nat} : s.forIterations = i :: is →
      s.forPointers = p :: ps → 0 < i → s'.instructionPointer = p → s'.forPointers = p :: ps →
      s'.forIterations = (i - 1) :: is → Turn tape s s'
  /-- Out of the innermost loop. -/
  | leave {i : Int} {is : List Int} {p : Nat} {ps : List Nat} : s.forIterations = i :: is →
      s.forPointers = p :: ps → ¬ 0 < i → s'.instructionPointer = s.instructionPointer + 1 →
      s'.forPointers = ps → s'.forIterations = is → Turn tape s s'

theorem turn_of_loopNext {tape : Bytes} {s s' : State} (h : loopNext s = .ok s') :
    Turn tape s s' := by
  unfold loopNext at h
  cases hi : s.forIterations with
  | nil => simp [hi] at h
  | cons i is =>
    cases hp : s.forPointers with
    | nil => simp [hi, hp] at h
    | cons p ps =>
      simp only [hi, hp] at h
      by_cases hpos : 0 < i
      · rw [if_pos hpos] at h
        cases h
        exact .again hi hp hpos rfl rfl rfl
      · rw [if_neg hpos] at h
        cases h
        exact .leave hi hp hpos rfl rfl rfl

theorem turn_of_perform {tape : Bytes} {s s' : State} {instruction : Instruction}
    (h : perform tape s instruction = .ok s') : Turn tape s s' := by
  cases instruction with
  | registerShiftLeft =>
      cases h
      exact .forward (Nat.lt_succ_self _) rfl rfl
  | registerShiftRight =>
      cases h
      exact .forward (Nat.lt_succ_self _) rfl rfl
  | add =>
      obtain ⟨op, _, h⟩ := bind_ok h
      cases h
      exact .forward (Nat.lt_add_of_pos_right (by omega)) rfl rfl
  | subtract =>
      obtain ⟨op, _, h⟩ := bind_ok h
      cases h
      exact .forward (Nat.lt_add_of_pos_right (by omega)) rfl rfl
  | exclusiveOr =>
      obtain ⟨op, _, h⟩ := bind_ok h
      cases h
      exact .forward (Nat.lt_add_of_pos_right (by omega)) rfl rfl
  | loopInit =>
      obtain ⟨b, hb, h⟩ := bind_ok h
      cases h
      refine .enter b ?_ rfl rfl rfl
      -- the count was read, so it stands on the tape
      by_contra hlt
      have hnone : tape[s.instructionPointer + 1]? = none :=
        List.getElem?_eq_none_iff.mpr (by omega)
      simp [fetchOperandByte, Py.index, hnone] at hb
  | loopNext => exact turn_of_loopNext h
  | branchConditional =>
      obtain ⟨b, _, h⟩ := bind_ok h
      cases h
      refine .forward (Nat.lt_add_of_pos_right ?_) rfl rfl
      split <;> omega
  | branchUnconditional =>
      obtain ⟨b, _, h⟩ := bind_ok h
      cases h
      exact .forward (Nat.lt_add_of_pos_right (by omega)) rfl rfl
  | endExecution =>
      cases h
      exact .forward (Nat.lt_succ_self _) rfl rfl

/-- **A turn that goes on starts on the tape and does one of four things.** -/
theorem turn_of_step {tape : Bytes} {s s' : State} (h : step tape s = .inl s') :
    s.instructionPointer < tape.length ∧ Turn tape s s' := by
  unfold step at h
  split at h
  · exact absurd h (by simp)
  · rename_i opcode hop
    split at h
    · rename_i s'' hdispatch
      cases h
      unfold dispatch at hdispatch
      split at hdispatch
      · exact ⟨(List.getElem?_eq_some_iff.mp hop).1, turn_of_perform hdispatch⟩
      · exact absurd hdispatch (by simp)
    · exact absurd h (by simp)

/-! ## The measure -/

/-- What being at an address is worth. -/
def weight (tape : Bytes) (address : Nat) : Nat := 256 ^ (tape.length - address)

/-- What the open loops still have to do. -/
def openLoops (tape : Bytes) (iterations : List Int) (pointers : List Nat) : Nat :=
  (List.zipWith (fun i p => i.toNat * weight tape p) iterations pointers).sum

/-- What is left to do. -/
def work (tape : Bytes) (s : State) : Nat :=
  openLoops tape s.forIterations s.forPointers + weight tape s.instructionPointer

theorem weight_pos (tape : Bytes) (address : Nat) : 0 < weight tape address :=
  Nat.pow_pos (by omega)

theorem weight_lt {tape : Bytes} {a b : Nat} (h : a < b) (ha : a < tape.length) :
    weight tape b < weight tape a :=
  Nat.pow_lt_pow_right (by omega) (by omega)

theorem weight_loop {tape : Bytes} {a n : Nat} (ha : a + 1 < tape.length) (hn : n ≤ 254) :
    n * weight tape (a + 2) + weight tape (a + 2) < weight tape a := by
  obtain ⟨k, hk⟩ : ∃ k, tape.length - a = k + 2 := ⟨tape.length - a - 2, by omega⟩
  have hk' : tape.length - (a + 2) = k := by omega
  have hpos : 0 < 256 ^ k := Nat.pow_pos (by omega)
  -- at most 255 times what the loop's start is worth, against 256 * 256 times
  unfold weight
  rw [hk, hk', Nat.pow_succ, Nat.pow_succ]
  have hle := Nat.mul_le_mul_right (256 ^ k) hn
  omega

/-- **Every turn leaves less to do.** -/
theorem work_lt_of_step {tape : Bytes} {s s' : State} (h : step tape s = .inl s') :
    work tape s' < work tape s := by
  obtain ⟨hlt, hturn⟩ := turn_of_step h
  unfold work
  cases hturn with
  | forward hip hps his =>
      -- the stacks are as they were, and a later address is worth less
      rw [hps, his]
      have := weight_lt hip hlt
      omega
  | enter b hop hip hps his =>
      rw [hip, hps, his]
      -- the count is a byte, so all its iterations weigh less than the way to the loop
      have hb := b.toNat_lt
      have hn : ((b.toNat : Int) - 1).toNat ≤ 254 := by omega
      have := weight_loop hop hn
      simp only [openLoops, List.zipWith_cons_cons, List.sum_cons]
      omega
  | @again i is p ps hi hp hpos hip hps his =>
      rw [hip, hps, his, hi, hp]
      simp only [openLoops, List.zipWith_cons_cons, List.sum_cons]
      -- one iteration less, for one more start of the loop
      obtain ⟨n, hn⟩ : ∃ n, i.toNat = n + 1 := ⟨i.toNat - 1, by omega⟩
      have hn' : (i - 1).toNat = n := by omega
      have := weight_pos tape s.instructionPointer
      rw [hn, hn', Nat.succ_mul]
      omega
  | @leave i is p ps hi hp hpos hip hps his =>
      rw [hip, hps, his, hi, hp]
      simp only [openLoops, List.zipWith_cons_cons, List.sum_cons]
      have := weight_lt (show s.instructionPointer < s.instructionPointer + 1 by omega) hlt
      omega

/-! ## How it halts -/

/-- How many operand bytes an instruction has. -/
def operandLength : Instruction → Nat
  | .add | .subtract | .exclusiveOr => 4
  | .loopInit | .branchConditional | .branchUnconditional => 1
  | _ => 0

/-- The ways in which a run ends, and its outcome. -/
inductive Stops (tape : Bytes) (s : State) : Except Exn UInt32 → Prop where
  | tapeEnd : tape.length ≤ s.instructionPointer → Stops tape s (.ok s.register)
  | unknownOpcode {opcode : UInt8} : tape[s.instructionPointer]? = some opcode →
      instructionSet.lookup opcode = none →
      Stops tape s (.error (.keyError (toString opcode.toNat)))
  | operandBeyondEnd {opcode : UInt8} {instruction : Instruction} :
      tape[s.instructionPointer]? = some opcode →
      instructionSet.lookup opcode = some instruction →
      tape.length ≤ s.instructionPointer + operandLength instruction →
      Stops tape s (.error (.indexError "index out of range"))
  | noOpenLoop {opcode : UInt8} : tape[s.instructionPointer]? = some opcode →
      instructionSet.lookup opcode = some .loopNext → s.forIterations = [] →
      Stops tape s (.error (.indexError "list index out of range"))

theorem stacks_of_reaches {tape : Bytes} {s s' : State} (h : Machine.Reaches (step tape) s s')
    (hs : s.forPointers.length = s.forIterations.length) :
    s'.forPointers.length = s'.forIterations.length := by
  induction h with
  | refl => exact hs
  | tail _ hstep ih =>
      cases (turn_of_step hstep).2 with
      | forward _ hps his => rw [hps, his]; exact ih
      | enter b _ _ hps his => rw [hps, his, List.length_cons, List.length_cons, ih]
      | again hi hp _ _ hps his =>
          rw [hi, hp] at ih
          rw [hps, his]
          exact ih
      | leave hi hp _ _ hps his =>
          rw [hi, hp] at ih
          rw [hps, his]
          exact Nat.succ_inj.mp ih

/-- A part that goes on whatever the first one returns fails only with the first. -/
theorem error_of_bind {α β : Type} {x : Except Exn α} {f : α → Except Exn β} {e : Exn}
    (hf : ∀ a, ∃ b, f a = .ok b) (h : (x >>= f) = .error e) : x = .error e := by
  rcases bind_error h with h | ⟨a, _, h⟩
  · exact h
  · obtain ⟨b, hb⟩ := hf a
    rw [hb] at h
    cases h

/-- A byte that is not there, or what follows the one that is. -/
theorem index_bind_error {α : Type} {data : Bytes} {i : Nat} {f : UInt8 → Except Exn α} {e : Exn}
    (h : (Py.index data i >>= f) = .error e) :
    (data.length ≤ i ∧ e = .indexError "index out of range") ∨ ∃ b, f b = .error e := by
  rcases bind_error h with h | ⟨b, -, h⟩
  · exact .inl (Py.index_error h)
  · exact .inr ⟨b, h⟩

theorem fetchOperand_error {tape : Bytes} {s : State} {e : Exn}
    (h : fetchOperand tape s = .error e) :
    tape.length ≤ s.instructionPointer + 4 ∧ e = .indexError "index out of range" := by
  have hlen : (Py.slice tape (s.instructionPointer + 1) (s.instructionPointer + 1 + 4)).length
      = min (s.instructionPointer + 5) tape.length - (s.instructionPointer + 1) := by
    simp [Py.slice]
  unfold fetchOperand at h
  rcases index_bind_error h with ⟨hle, he⟩ | ⟨_, h⟩
  · exact ⟨by omega, he⟩
  rcases index_bind_error h with ⟨hle, he⟩ | ⟨_, h⟩
  · exact ⟨by omega, he⟩
  rcases index_bind_error h with ⟨hle, he⟩ | ⟨_, h⟩
  · exact ⟨by omega, he⟩
  rcases index_bind_error h with ⟨hle, he⟩ | ⟨_, h⟩
  · exact ⟨by omega, he⟩
  · exact absurd h (by simp [pure, Except.pure])

theorem loopNext_error {s : State} {e : Exn}
    (hs : s.forPointers.length = s.forIterations.length) (h : loopNext s = .error e) :
    s.forIterations = [] ∧ e = .indexError "list index out of range" := by
  unfold loopNext at h
  cases hi : s.forIterations with
  | nil =>
      simp only [hi, Except.error.injEq] at h
      exact ⟨rfl, h.symm⟩
  | cons i is =>
      obtain ⟨p, ps, hp⟩ := List.exists_cons_of_ne_nil (l := s.forPointers) (by
        intro hnil
        rw [hnil, hi] at hs
        exact absurd hs (by simp))
      simp only [hi, hp] at h
      split at h <;> exact absurd h (by simp)

/-- **An instruction fails for want of its operand, or of a loop.** -/
theorem perform_error {tape : Bytes} {s : State} {instruction : Instruction} {e : Exn}
    (hs : s.forPointers.length = s.forIterations.length)
    (h : perform tape s instruction = .error e) :
    (tape.length ≤ s.instructionPointer + operandLength instruction
        ∧ e = .indexError "index out of range")
      ∨ (instruction = .loopNext ∧ s.forIterations = []
        ∧ e = .indexError "list index out of range") := by
  cases instruction with
  | registerShiftLeft => exact absurd h (by simp [perform])
  | registerShiftRight => exact absurd h (by simp [perform])
  | add => exact Or.inl (fetchOperand_error (error_of_bind (fun _ => ⟨_, rfl⟩) h))
  | subtract => exact Or.inl (fetchOperand_error (error_of_bind (fun _ => ⟨_, rfl⟩) h))
  | exclusiveOr => exact Or.inl (fetchOperand_error (error_of_bind (fun _ => ⟨_, rfl⟩) h))
  | loopInit => exact Or.inl (Py.index_error (error_of_bind (fun _ => ⟨_, rfl⟩) h))
  | loopNext => exact Or.inr ⟨rfl, loopNext_error hs h⟩
  | branchConditional => exact Or.inl (Py.index_error (error_of_bind (fun _ => ⟨_, rfl⟩) h))
  | branchUnconditional => exact Or.inl (Py.index_error (error_of_bind (fun _ => ⟨_, rfl⟩) h))
  | endExecution => exact absurd h (by simp [perform])

theorem stops_of_dispatch {tape : Bytes} {s : State} {opcode : UInt8} {e : Exn}
    (hop : tape[s.instructionPointer]? = some opcode)
    (hs : s.forPointers.length = s.forIterations.length)
    (h : dispatch tape s opcode = .error e) : Stops tape s (.error e) := by
  unfold dispatch at h
  cases hins : instructionSet.lookup opcode with
  | none =>
      rw [hins] at h
      cases h
      exact .unknownOpcode hop hins
  | some instruction =>
      rw [hins] at h
      rcases perform_error hs h with ⟨hle, rfl⟩ | ⟨rfl, hnone, rfl⟩
      · exact .operandBeyondEnd hop hins hle
      · exact .noOpenLoop hop hins hnone

/-- **The machine stops at the tape's end or at a fault.** -/
theorem stops_of_step {tape : Bytes} {s : State} {r : Except Exn UInt32}
    (hs : s.forPointers.length = s.forIterations.length) (h : step tape s = .inr r) :
    Stops tape s r := by
  unfold step at h
  split at h
  · rename_i hnone
    cases h
    exact .tapeEnd (List.getElem?_eq_none_iff.mp hnone)
  · rename_i opcode hop
    split at h
    · exact absurd h (by simp)
    · rename_i e hdispatch
      cases h
      exact stops_of_dispatch hop hs hdispatch

/--
**On every tape and seed `Execute` stops**: it returns the register at the tape's
end, or fails at an unknown opcode, an operand beyond the end, or the end of a
loop where none is open.
-/
theorem execute_halts (tape : Bytes) (seed : UInt32) :
    ∃ turns r s, execute tape turns seed = some r
      ∧ Machine.Reaches (step tape) (init seed) s ∧ Stops tape s r := by
  obtain ⟨r, hr⟩ := Machine.run_of_measure (fun s s' => @work_lt_of_step tape s s')
    (work tape (init seed) + 1) (init seed) (Nat.lt_succ_self _)
  obtain ⟨s, hreach, hstop⟩ := Machine.returns_iff_run.mpr ⟨_, hr⟩
  exact ⟨_, r, s, hr, hreach, stops_of_step (stacks_of_reaches hreach rfl) hstop⟩

end AutoDiag.Proof
